import Quiescence.Fault
import Quiescence.Moment

/-! # The ledger of open handles

The ledger records which handles are open, since when, and when each was last modified. Entries are
kept per context, and a context is kept exactly as long as it holds an entry; the number of open
handles is counted beside them. Nothing a caller sees depends on the order in which contexts and
names are stored: every list the ledger hands out is in handle order.
-/

namespace Quiescence

/-- What is known of one open handle. -/
structure Entry where
  openedAt : Moment
  modifiedAt : Option Moment
deriving DecidableEq

/-- One line of a ledger's listing. -/
structure Row where
  handle : Handle
  openedAt : Moment
  modifiedAt : Option Moment
deriving DecidableEq

/-- The open names of one context. -/
abbrev Shelf := List (String × Entry)

/-- The open handles by context, and their number. -/
structure Ledger where
  shelves : List (String × Shelf)
  count : Nat
deriving DecidableEq

namespace Ledger

/-- The ledger in which nothing is open. -/
def empty : Ledger := ⟨[], 0⟩

/-- The open names of a context; none when the context is not in use. -/
def shelf (ledger : Ledger) (context : String) : Shelf :=
  (ledger.shelves.lookup context).getD []

/-- What is known of a handle, if it is open. -/
def entry? (ledger : Ledger) (h : Handle) : Option Entry :=
  (ledger.shelf h.context).lookup h.name

/-! ## Queries -/

/-- Whether the handle is open. -/
def contains (ledger : Ledger) (h : Handle) : Bool := (ledger.entry? h).isSome

/-- Whether the context holds an open handle. -/
def usesContext (ledger : Ledger) (context : String) : Bool :=
  (ledger.shelves.lookup context).isSome

/-- The number of contexts in use. -/
def contextsInUse (ledger : Ledger) : Nat := ledger.shelves.length

/-- Whether nothing is open. -/
def isEmpty (ledger : Ledger) : Bool := ledger.count == 0

/-- The rows of one shelf. -/
def shelfRows (context : String) (shelf : Shelf) : List Row :=
  shelf.map fun (name, entry) => ⟨⟨context, name⟩, entry.openedAt, entry.modifiedAt⟩

/-- The open handles with what is known of them, in handle order. -/
def rows (ledger : Ledger) : List Row :=
  (ledger.shelves.flatMap fun (context, shelf) => shelfRows context shelf).mergeSort
    fun a b => a.handle.notAfter b.handle

/-- The open handles, in handle order. -/
def handles (ledger : Ledger) : List Handle :=
  Handle.sort (ledger.shelves.flatMap fun (context, shelf) =>
    shelf.map fun (name, _) => ⟨context, name⟩)

/-- The open names of a context, in ascending order. -/
def names (ledger : Ledger) (context : String) : List String :=
  ((ledger.shelf context).map (·.1)).mergeSort fun a b => !decide (b < a)

/-! ## Changes -/

/-- Puts `shelf` in the place of the context's shelf, and drops the context when `shelf` is
empty. -/
def setShelf (context : String) (shelf : Shelf) (shelves : List (String × Shelf)) :
    List (String × Shelf) :=
  if shelf.isEmpty then shelves.filter (·.1 != context)
  else if (shelves.lookup context).isSome then
    shelves.map fun (key, old) => (key, if key == context then shelf else old)
  else shelves ++ [(context, shelf)]

/-- Records a handle as open since `now`. -/
def add (now : Moment) (h : Handle) (ledger : Ledger) : Except Fault Ledger :=
  if ledger.contains h then .error (.alreadyOpen h)
  else
    let shelf := ledger.shelf h.context ++ [(h.name, ⟨now, none⟩)]
    .ok ⟨setShelf h.context shelf ledger.shelves, ledger.count + 1⟩

/-- Strikes a handle from the ledger. -/
def remove (h : Handle) (ledger : Ledger) : Except Fault Ledger :=
  if ledger.contains h then
    let shelf := (ledger.shelf h.context).filter (·.1 != h.name)
    .ok ⟨setShelf h.context shelf ledger.shelves, ledger.count - 1⟩
  else .error (.notOpen h)

/-- Records that an open handle was modified at `now`. -/
def mark (now : Moment) (h : Handle) (ledger : Ledger) : Except Fault Ledger :=
  if ledger.contains h then
    let shelf := (ledger.shelf h.context).map fun (name, entry) =>
      (name, if name == h.name then { entry with modifiedAt := some now } else entry)
    .ok { ledger with shelves := setShelf h.context shelf ledger.shelves }
  else .error (.notOpen h)

/-- Strikes every handle of a context, and returns their names in ascending order. -/
def clearContext (context : String) (ledger : Ledger) : List String × Ledger :=
  (ledger.names context,
    ⟨ledger.shelves.filter (·.1 != context), ledger.count - (ledger.shelf context).length⟩)

/-- Strikes everything, and returns the handles that were open in handle order. -/
def clear (ledger : Ledger) : List Handle × Ledger := (ledger.handles, empty)

end Ledger

end Quiescence
