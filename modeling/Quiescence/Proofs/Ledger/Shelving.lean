import Quiescence.Proofs.Ledger.Bookkeeping

/-! # The order of the shelves

Contexts and names are kept in no particular order. What a ledger hands out is sorted, and since no
handle is stored twice there is only one way to sort it: ledgers that hold the same handles with the
same marks hand out the same lists, whatever they have been through and however they store it.
-/

namespace Quiescence.Ledger

variable {ledger other one two : Ledger} {roll : Roll}

/-- The same entries, stored in another order: the shelves may stand in any order, and so may the
names on each of them. -/
structure Reshelved (ledger other : Ledger) : Prop where
  count : other.count = ledger.count
  shelves : ∃ arrange : String → Shelf → Shelf,
    (∀ context shelf, (arrange context shelf).Perm shelf) ∧
      other.shelves.Perm (ledger.shelves.map fun (context, shelf) =>
        (context, arrange context shelf))

/-- The ledgers that a history leads to. Before each request and after the last one the entries may
be stored anew in any order. -/
inductive Reached : Ledger → Prop
  | empty : Reached empty
  | asked {ledger : Ledger} (request : Request) (reached : Reached ledger) :
      Reached (ledger.respond request).2
  | reshelved {ledger other : Ledger} (reached : Reached ledger)
      (same : ledger.Reshelved other) : Reached other

/-- Whether a handle is marked, if it is open. -/
def mark? (ledger : Ledger) (h : Handle) : Option Bool :=
  (ledger.entry? h).map (·.modifiedAt.isSome)

/-! ## Storing anew -/

namespace Reshelved

/-- No entry is lost, and none is added. -/
theorem tallied (same : ledger.Reshelved other) (tallied : ledger.Tallied) : other.Tallied := by
  obtain ⟨arrange, moved, shelves⟩ := same.shelves
  have origin : ∀ entry ∈ other.shelves, ∃ old ∈ ledger.shelves, entry.2.Perm old.2 := by
    intro entry member
    obtain ⟨old, present, rfl⟩ := List.mem_map.mp (shelves.mem_iff.mp member)
    exact ⟨old, present, moved old.1 old.2⟩
  refine ⟨?_, fun entry member => ?_, fun entry member => ?_, ?_⟩
  · rw [(shelves.map Prod.fst).nodup_iff, List.map_map]
    exact tallied.contexts
  · obtain ⟨old, present, moved⟩ := origin entry member
    exact (moved.map _).nodup_iff.mpr (tallied.names old present)
  · obtain ⟨old, present, moved⟩ := origin entry member
    intro none
    exact tallied.used old present (none ▸ moved).nil_eq.symm
  · rw [same.count, tallied.count, (shelves.map (·.2.length)).sum_nat, List.map_map]
    exact congrArg List.sum (List.map_congr_left fun pair _ => (moved pair.1 pair.2).length_eq.symm)

end Reshelved

/-! ## The lists of a ledger -/

/-- Two ledgers hand out the same lists, but for the times of the rows. -/
structure ListsLike (one two : Ledger) : Prop where
  rows : one.rows.map (fun row => (row.handle, row.modifiedAt.isSome)) =
    two.rows.map fun row => (row.handle, row.modifiedAt.isSome)
  names : ∀ context, (one.clearContext context).1 = (two.clearContext context).1
  handles : one.clear.1 = two.clear.1

/-- All lists of a ledger are in strictly ascending order. -/
structure ListsAscending (ledger : Ledger) : Prop where
  rows : (ledger.rows.map Row.handle).SortedLT
  names : ∀ context, (ledger.clearContext context).1.SortedLT
  handles : ledger.clear.1.SortedLT

theorem Tallied.listsAscending (tallied : ledger.Tallied) : ledger.ListsAscending where
  rows := handles_eq_rows ledger ▸ tallied.sortedLT_handles
  names := tallied.sortedLT_names
  handles := tallied.sortedLT_handles

theorem isSome_mark? (ledger : Ledger) (h : Handle) :
    (ledger.mark? h).isSome = ledger.contains h := by
  rw [mark?, Option.isSome_map, contains]

theorem mark?_eq_some_true_iff (h : Handle) : ledger.mark? h = some true ↔
    ∃ entry, ledger.entry? h = some entry ∧ entry.modifiedAt.isSome := by
  rw [mark?, Option.map_eq_some_iff]

/-- There is a roll of the handles that are open, with their marks. -/
theorem Tallied.exists_roll (tallied : ledger.Tallied) : ∃ roll, ledger.Depicts roll := by
  have marked (h : Handle) (mark : ledger.mark? h = some true) : h ∈ ledger.opened := by
    rw [tallied.mem_opened_iff, ← isSome_mark?, mark]
    rfl
  refine ⟨⟨ledger.opened, ledger.opened.filter (ledger.mark? · = some true),
    Finset.filter_subset _ _⟩, tallied, tallied.mem_opened_iff, fun h => ?_⟩
  rw [Finset.mem_filter, ← mark?_eq_some_true_iff]
  exact ⟨And.right, fun mark => ⟨marked h mark, mark⟩⟩

/-- Ledgers with the same marks depict the same rolls. -/
theorem Depicts.of_mark? (depicts : one.Depicts roll) (tallied : two.Tallied)
    (same : ∀ h, one.mark? h = two.mark? h) : two.Depicts roll where
  tallied := tallied
  opened h := by rw [depicts.opened, ← isSome_mark?, ← isSome_mark?, same]
  modified h := by rw [depicts.modified, ← mark?_eq_some_true_iff, ← mark?_eq_some_true_iff, same]

/-- What a ledger lists depends on which handles are open and marked, and on nothing else. -/
theorem Tallied.listsLike (first : one.Tallied) (second : two.Tallied)
    (same : ∀ h, one.mark? h = two.mark? h) : one.ListsLike two := by
  obtain ⟨roll, depicts⟩ := first.exists_roll
  have depicts' := depicts.of_mark? second same
  exact ⟨depicts.rows_eq.trans depicts'.rows_eq.symm,
    fun context => (depicts.names_eq context).trans (depicts'.names_eq context).symm,
    depicts.handles_eq.trans depicts'.handles_eq.symm⟩

/-- The rows are what is known of the handles, in their order. -/
theorem Tallied.rows_eq (tallied : ledger.Tallied) :
    ledger.rows = ledger.handles.filterMap fun h =>
      (ledger.entry? h).map fun entry => ⟨h, entry.openedAt, entry.modifiedAt⟩ := by
  rw [handles_eq_rows, List.filterMap_map]
  refine ((List.filterMap_congr fun row listed => ?_).trans List.filterMap_some).symm
  simp [(tallied.mem_rows_iff row).mp listed]

/-- The bookkeeping stays in order, whatever is asked of a ledger and however it stores its
entries. -/
theorem Reached.tallied (reached : ledger.Reached) : ledger.Tallied := by
  induction reached with
  | empty => exact tallied_empty
  | asked request _ ih => exact ih.respond request
  | reshelved _ same ih => exact same.tallied ih

end Quiescence.Ledger
