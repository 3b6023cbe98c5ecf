import Quiescence.Document

/-! # The tables of a TOML text

A TOML text puts its document together from many places, and what may be added to a table depends on
how the table came about. A table that a header has named is complete except for tables inside it. A
table that exists only because a longer header runs through it may still get a header of its own. A
table that exists because of a key with points may only grow by such keys.
-/

namespace Quiescence.Toml

/-- How a table came about. -/
inductive Origin where
  | header
  /-- A longer header runs through it. -/
  | implied
  /-- A key with points runs through it. -/
  | dotted
deriving DecidableEq

/-- What a key stands for. -/
inductive Item where
  | value (doc : Doc)
  | table (origin : Origin) (entries : List (String × Item))
  | tables (elements : List (List (String × Item)))

/-- The entries of a table in the order in which they were made. -/
abbrev Entries := List (String × Item)

namespace Entries

/-- Puts an item in the place of the one under the key. -/
def replace (key : String) (item : Item) (entries : Entries) : Entries :=
  entries.map fun (k, old) => (k, if k == key then item else old)

/-- Removes the item under the key. -/
def erase (key : String) (entries : Entries) : Entries := entries.filter (·.1 != key)

mutual

/-- The document of a table. -/
def toFields : List (String × Item) → List (Doc × Doc)
  | [] => []
  | (key, item) :: rest => (.str key, itemDoc item) :: toFields rest

/-- The document of an item. -/
def itemDoc : Item → Doc
  | .value doc => doc
  | .table _ entries => .map (toFields entries)
  | .tables elements => .seq (tableDocs elements)

/-- The documents of several tables. -/
def tableDocs : List (List (String × Item)) → List Doc
  | [] => []
  | entries :: rest => .map (toFields entries) :: tableDocs rest

end

/-- The document of a table. -/
def toDoc (entries : Entries) : Doc := .map (toFields entries)

/-- Changes the table at the end of a path, which is made where it does not exist. In an array of
tables the path runs through the last one. A key with points does not run through tables that have a
header. -/
def changeAt {α : Type} (dotted : Bool) (change : Origin → Entries → Option (α × Entries)) :
    List String → Origin → Entries → Option (α × Entries)
  | [], origin, entries => change origin entries
  | key :: path, _, entries =>
    match entries.lookup key with
    | none => do
      let origin := if dotted then Origin.dotted else .implied
      let (a, inner) ← changeAt dotted change path origin []
      return (a, entries ++ [(key, .table origin inner)])
    | some (.value _) => none
    | some (.table origin inner) =>
      if dotted && origin = .header then none
      else do
        let (a, inner) ← changeAt dotted change path origin inner
        return (a, entries.replace key (.table origin inner))
    | some (.tables elements) => do
      let last ← elements.getLast?
      let (a, inner) ← changeAt dotted change path .header last
      return (a, entries.replace key (.tables (elements.dropLast ++ [inner])))

/-- Gives a value to the key at the end of a path. The path must run through nothing but tables that
keys with points have made, and the key must be new. -/
def setValue (path : List String) (key : String) (doc : Doc) (entries : Entries) :
    Option Entries := do
  let add (origin : Origin) (inner : Entries) : Option (Unit × Entries) :=
    if (origin = .dotted) = (path = []) then none
    else if (inner.lookup key).isSome then none
    else some ((), inner ++ [(key, .value doc)])
  let ((), entries) ← changeAt true add path .header entries
  return entries

end Entries

/-- A text that is being put together: the tables that are complete, and the one that is open with
its place. -/
structure Assembly where
  root : Entries
  current : Entries
  /-- The place of the open table: a path and a key; none for the root. -/
  place : Option (List String × String)
  /-- Whether the open table is an element of an array of tables. -/
  isElement : Bool

namespace Assembly

/-- Nothing has been read yet. -/
def start : Assembly := ⟨[], [], none, false⟩

/-- Gives a value to a key of the open table. -/
def setValue (path : List String) (key : String) (doc : Doc) (a : Assembly) : Option Assembly := do
  return { a with current := ← a.current.setValue path key doc }

/-- Puts the open table in its place. -/
def close (a : Assembly) : Option Entries :=
  match a.place with
  | none => some a.current
  | some (path, key) => do
    let add (_ : Origin) (outer : Entries) : Option (Unit × Entries) :=
      match outer.lookup key, a.isElement with
      | none, true => some ((), outer ++ [(key, .tables [a.current])])
      | some (.tables elements), true =>
        some ((), outer.replace key (.tables (elements ++ [a.current])))
      | none, false => some ((), outer ++ [(key, .table .header a.current)])
      | _, _ => none
    let ((), root) ← Entries.changeAt false add path .header a.root
    return root

/-- Opens the table that a header names. A table that exists already must have been implied, and
moves to the end. -/
def openTable (path : List String) (key : String) (a : Assembly) : Option Assembly := do
  let take (_ : Origin) (outer : Entries) : Option (Entries × Entries) :=
    match outer.lookup key with
    | none => some ([], outer)
    | some (.table .implied inner) => some (inner, outer.erase key)
    | some _ => none
  let (current, root) ← Entries.changeAt false take path .header (← a.close)
  return ⟨root, current, some (path, key), false⟩

/-- Opens the next element of the array of tables that a header names. -/
def openElement (path : List String) (key : String) (a : Assembly) : Option Assembly := do
  let reserve (_ : Origin) (outer : Entries) : Option (Unit × Entries) :=
    match outer.lookup key with
    | none => some ((), outer ++ [(key, .tables [])])
    | some (.tables _) => some ((), outer)
    | some _ => none
  let ((), root) ← Entries.changeAt false reserve path .header (← a.close)
  return ⟨root, [], some (path, key), true⟩

end Assembly

end Quiescence.Toml
