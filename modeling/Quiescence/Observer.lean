import Quiescence.Event

/-! # Observers

Observers are told, one callback each, what happened to the handles of a barrier. An observer
answers a callback with reactions: it may register or remove observers, itself included, and it may
panic, which ends the telling there and then. An observer that is registered several times is told
several times. Who is told is settled when a notice goes out, so a reaction to a notice changes the
audience of the next one.
-/

namespace Quiescence

/-- What observers are told. -/
inductive Notice where
  | opened (handle : Handle)
  | closed (handle : Handle)
  | modified (handle : Handle)
  | quiescent
deriving DecidableEq

/-- The notice as the log shows it. -/
def Notice.text : Notice → String
  | opened h => "opened " ++ h.text
  | closed h => "closed " ++ h.text
  | modified h => "modified " ++ h.text
  | quiescent => "quiescent"

/-- One thing an observer does when it is told something. -/
inductive Reaction where
  | add (observer : String)
  | remove (observer : String)
  | panic
deriving DecidableEq

/-- What an observer does about each notice. -/
structure Reactions where
  opened : Handle → List Reaction := fun _ => []
  closed : Handle → List Reaction := fun _ => []
  modified : Handle → List Reaction := fun _ => []
  quiescent : List Reaction := []

/-- The reactions to a notice, in the order in which they are carried out. -/
def Reactions.to (r : Reactions) : Notice → List Reaction
  | .opened h => r.opened h
  | .closed h => r.closed h
  | .modified h => r.modified h
  | .quiescent => r.quiescent

/-- What a barrier looks like from inside a callback. -/
structure Glimpse where
  stillOpen : Nat
  waiting : Bool
deriving DecidableEq

/-- One line of the observers' log. -/
inductive Callback where
  /-- The observer was told the notice, and found the barrier like this. -/
  | told (observer : String) (notice : Notice) (glimpse : Glimpse)
  /-- The observer removed another one, which was registered or was not. -/
  | removed (observer removed : String) (found : Bool)
deriving DecidableEq

/-- The line of the log. -/
def Callback.text : Callback → String
  | told o n g =>
    o ++ " " ++ n.text ++ " open=" ++ toString g.stillOpen ++ " waiting=" ++ toString g.waiting
  | removed o r found => o ++ " removed " ++ r ++ " " ++ toString found

/-- The observers that have been named so far with what they do, and the registrations in the order
in which they are told. -/
structure Audience where
  known : List (String × Reactions)
  registered : List String

namespace Audience

/-- Nobody is known and nobody listens. -/
def empty : Audience := ⟨[], []⟩

/-- What the observer of this name does. -/
def reactions (a : Audience) (observer : String) : Reactions := (a.known.lookup observer).getD {}

/-- Makes the name known. An observer keeps the reactions with which it was first named. -/
def introduce (observer : String) (r : Reactions) (a : Audience) : Audience :=
  if (a.known.lookup observer).isSome then a else { a with known := a.known ++ [(observer, r)] }

/-- Adds one registration. -/
def register (observer : String) (r : Reactions) (a : Audience) : Audience :=
  let a := a.introduce observer r
  { a with registered := a.registered ++ [observer] }

/-- Whether the observer is registered. -/
def listens (a : Audience) (observer : String) : Bool := a.registered.contains observer

/-- Removes every registration of the observer. -/
def remove (observer : String) (a : Audience) : Audience :=
  let a := a.introduce observer {}
  { a with registered := a.registered.filter (· != observer) }

end Audience

/-- The outcome of telling observers something: who listens now, what was logged, and which
observer panicked, if one did. -/
structure Telling where
  audience : Audience
  log : List Callback
  panic : Option String

namespace Audience

/-- Carries out reactions until one is a panic. -/
def react (observer : String) : List Reaction → Audience → Telling
  | [], a => ⟨a, [], none⟩
  | .add other :: rest, a => react observer rest (a.register other {})
  | .remove other :: rest, a =>
    let later := react observer rest (a.remove other)
    { later with log := .removed observer other (a.listens other) :: later.log }
  | .panic :: _, a => ⟨a, [], some observer⟩

/-- Tells the observers in turn, until one panics. -/
def tellEach (notice : Notice) (glimpse : Glimpse) : List String → Audience → Telling
  | [], a => ⟨a, [], none⟩
  | observer :: others, a =>
    let first := a.react observer ((a.reactions observer).to notice)
    let log := .told observer notice glimpse :: first.log
    match first.panic with
    | some _ => { first with log }
    | none =>
      let later := tellEach notice glimpse others first.audience
      { later with log := log ++ later.log }

/-- Tells a notice to everyone who is registered at this moment. -/
def tell (notice : Notice) (glimpse : Glimpse) (a : Audience) : Telling :=
  tellEach notice glimpse a.registered a

end Audience

end Quiescence
