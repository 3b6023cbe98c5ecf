import Quiescence.Handle

/-! # Resource events

Owners of resources report what happens to them as events: one of three kinds, about one handle.
-/

namespace Quiescence

/-- What an owner can report about a resource. -/
inductive EventKind where
  | opened
  | closed
  | modified
deriving DecidableEq

namespace EventKind

/-- The word that stands for a kind in every text and document. -/
def word : EventKind → String
  | opened => "opened"
  | closed => "closed"
  | modified => "modified"

/-- The kinds in the order in which error texts list them. -/
def all : List EventKind := [opened, closed, modified]

/-- The kind that `word` stands for. -/
def ofWord? (word : String) : Option EventKind := all.find? (·.word == word)

theorem ofWord?_word (k : EventKind) : ofWord? k.word = some k := by
  cases k <;> simp [ofWord?, all, word]

end EventKind

/-- One report about one resource. -/
structure Event where
  kind : EventKind
  handle : Handle
deriving DecidableEq

/-- The display text, such as `opened A/db1`. -/
def Event.text (e : Event) : String := e.kind.word ++ " " ++ e.handle.text

end Quiescence
