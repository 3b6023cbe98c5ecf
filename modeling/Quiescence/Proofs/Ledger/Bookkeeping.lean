import Quiescence.Proofs.Ledger.Roll

/-! # The bookkeeping of a ledger

A ledger counts its entries beside the shelves that hold them, and it keeps a shelf only while
something is on it. Every request leaves both in order, whether it is granted or refused, so nothing
is ever taken from the count that is not in it. This holds even if a shelf is made for a handle
before it is known whether the handle can be added: no shelf is left behind empty.
-/

namespace Quiescence.Ledger

variable {ledger next : Ledger} {h : Handle}

/-- The ledger after some requests, be they granted or refused. -/
def after (ledger : Ledger) (requests : List Request) : Ledger :=
  requests.foldl (fun ledger request => (ledger.respond request).2) ledger

/-! ## Requests keep the books in order -/

/-- A change that is refused leaves the ledger tallied, and so does one that keeps it tallied. -/
theorem Tallied.settled (tallied : ledger.Tallied) {change : Except Fault Ledger}
    (kept : ∀ next, change = .ok next → next.Tallied) : (ledger.settled change).2.Tallied := by
  cases change with
  | error fault => exact tallied
  | ok next => exact kept next rfl

theorem Tallied.respond (tallied : ledger.Tallied) (request : Request) :
    (ledger.respond request).2.Tallied := by
  cases request with
  | add now h => exact tallied.settled fun _ => tallied.add
  | remove h => exact tallied.settled fun _ => tallied.remove
  | mark now h => exact tallied.settled fun _ => tallied.mark
  | clearContext context => exact tallied.clearContext context
  | clear => exact tallied_empty
  | _ => exact tallied

theorem Tallied.after (tallied : ledger.Tallied) (requests : List Request) :
    (ledger.after requests).Tallied := by
  induction requests generalizing ledger with
  | nil => exact tallied
  | cons request rest ih => exact ih (tallied.respond request)

/-! ## Shelves that are made too early -/

/-- The ledger with a shelf for a context, which is empty if the context was not in use. -/
def furnish (context : String) (ledger : Ledger) : Ledger :=
  if ledger.usesContext context then ledger
  else { ledger with shelves := ledger.shelves ++ [(context, [])] }

/-- The shelf of a handle that is open is there already. -/
theorem furnish_of_contains (present : ledger.contains h) : ledger.furnish h.context = ledger :=
  if_pos (usesContext_of_contains present)

theorem shelf_furnish (context : String) (ledger : Ledger) :
    (ledger.furnish context).shelf context = ledger.shelf context := by
  unfold furnish
  split
  · rfl
  · next unused =>
    have absent := Option.not_isSome_iff_eq_none.mp unused
    simp [shelf, List.lookup_append, absent]

/-- A shelf with something on it goes where an empty one was made for it. -/
theorem setShelf_furnish (context : String) {new : Shelf} (filled : new ≠ []) (ledger : Ledger) :
    setShelf context new (ledger.furnish context).shelves =
      setShelf context new ledger.shelves := by
  unfold furnish
  split
  · rfl
  · next unused =>
    have absent := Option.not_isSome_iff_eq_none.mp unused
    have found : ((ledger.shelves ++ [(context, [])]).lookup context).isSome := by
      simp [List.lookup_append]
    have vacant : ¬ new.isEmpty := by simpa using filled
    calc setShelf context new (ledger.shelves ++ [(context, [])])
      _ = (ledger.shelves ++ [(context, [])]).map fun (key, old) =>
            (key, if key == context then new else old) := by
        rw [setShelf, if_neg vacant, if_pos found]
      _ = ledger.shelves ++ [(context, new)] := by
        rw [List.map_append, List.map_replace_key_eq_self absent]
        simp
      _ = setShelf context new ledger.shelves := by
        rw [setShelf, if_neg vacant, absent]
        rfl

/-- To a handle that is added it makes no difference whether its shelf was made beforehand, and
neither does it to one that is refused. -/
theorem respond_add_furnish (now : Moment) (h : Handle) (ledger : Ledger) :
    (ledger.furnish h.context).respond (.add now h) = ledger.respond (.add now h) := by
  -- An open handle has its shelf already, so only for one that is not open is there a new shelf.
  by_cases present : ledger.contains h
  · rw [furnish_of_contains present]
  · have absent : ¬ (ledger.furnish h.context).contains h := by
      rwa [contains, entry?, shelf_furnish]
    have count : (ledger.furnish h.context).count = ledger.count := by
      unfold furnish
      split <;> rfl
    simp only [respond, add, if_neg present, if_neg absent, shelf_furnish, count,
      setShelf_furnish _ (List.append_ne_nil_of_right_ne_nil _ (List.cons_ne_nil _ _))]
    rfl

/-! ## The books at all times -/

/-- The books of a ledger are in order, and no request to come can take more from the count than is
in it. -/
structure Balanced (ledger : Ledger) : Prop where
  /-- The count is the number of entries, and no context is kept without an entry. -/
  tallied : ledger.Tallied
  /-- What is struck is in the count. -/
  removal : ∀ h next, ledger.remove h = .ok next → next.count + 1 = ledger.count
  /-- So is everything that a context holds. -/
  clearing : ∀ context,
    (ledger.clearContext context).2.count + (ledger.shelf context).length = ledger.count
  /-- To make the shelf of a handle before the handle is looked for leaves nothing behind. -/
  furnishing : ∀ now h,
    (ledger.furnish h.context).respond (.add now h) = ledger.respond (.add now h)

/-- Whatever has been asked of a ledger, and whether it was granted or refused, its books are in
order. -/
theorem books_always_balance (requests : List Request) : (empty.after requests).Balanced := by
  have tallied := tallied_empty.after requests
  exact ⟨tallied, fun h next removed => tallied.count_remove removed, tallied.count_clearContext,
    fun now h => respond_add_furnish now h _⟩

example : empty.after [.add .epoch ⟨"A", "x"⟩, .add .epoch ⟨"A", "x"⟩, .remove ⟨"A", "x"⟩] =
    empty := by
  decide

end Quiescence.Ledger
