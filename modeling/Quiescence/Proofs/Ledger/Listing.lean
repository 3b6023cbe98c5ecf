import Quiescence.Proofs.Handle.Order
import Quiescence.Proofs.Ledger.Entries
import Mathlib.Data.Finset.Card

/-! # What a ledger lists

A tallied ledger lists every open handle exactly once and in handle order, with what is known of it,
and it counts as many handles and contexts as there are. So whatever it answers depends on the set
of its entries alone.
-/

namespace Quiescence.Ledger

variable {ledger next : Ledger} {h : Handle} {context : String}

/-- The rows as they are stored. -/
def stored (ledger : Ledger) : List Row :=
  ledger.shelves.flatMap fun (context, shelf) => shelfRows context shelf

/-- The contexts in use, in ascending order. -/
def contexts (ledger : Ledger) : List String :=
  (ledger.shelves.map Prod.fst).mergeSort fun a b => !decide (b < a)

/-- The open handles of a context, in handle order. -/
def held (ledger : Ledger) (context : String) : List Handle :=
  (ledger.names context).map (⟨context, ·⟩)

/-- The set of the open handles. -/
def opened (ledger : Ledger) : Finset Handle := ledger.handles.toFinset

theorem shelfRows_handles (context : String) (shelf : Shelf) :
    (shelfRows context shelf).map Row.handle = (shelf.map Prod.fst).map (Handle.mk context) := by
  simp only [shelfRows, List.map_map]
  rfl

theorem handles_eq_sort_stored (ledger : Ledger) :
    ledger.handles = Handle.sort (ledger.stored.map Row.handle) := by
  simp only [handles, stored, shelfRows, List.map_flatMap, List.map_map]
  rfl

theorem handles_eq_rows (ledger : Ledger) : ledger.handles = ledger.rows.map Row.handle := by
  rw [handles_eq_sort_stored, rows, List.map_mergeSort]
  · rfl
  · exact fun _ _ _ _ => rfl

/-! ## Lists that can be evaluated -/

theorem names_eq_insertionSort (ledger : Ledger) (context : String) :
    ledger.names context = ((ledger.shelf context).map (·.1)).insertionSort (· ≤ ·) :=
  List.mergeSort_eq_insert fun a b => List.not_decide_lt_iff a b

theorem contexts_eq_insertionSort (ledger : Ledger) :
    ledger.contexts = (ledger.shelves.map Prod.fst).insertionSort (· ≤ ·) :=
  List.mergeSort_eq_insert fun a b => List.not_decide_lt_iff a b

/-! ## What the lists hold -/

theorem length_names (ledger : Ledger) (context : String) :
    (ledger.names context).length = (ledger.shelf context).length := by
  rw [names, List.length_mergeSort, List.length_map]

theorem length_contexts (ledger : Ledger) : ledger.contexts.length = ledger.contextsInUse := by
  rw [contexts, List.length_mergeSort, List.length_map, contextsInUse]

namespace Tallied

/-- A row is stored exactly if the ledger knows this of its handle. -/
theorem mem_rows_iff (tallied : ledger.Tallied) (row : Row) :
    row ∈ ledger.rows ↔ ledger.entry? row.handle = some ⟨row.openedAt, row.modifiedAt⟩ := by
  rw [rows, List.mem_mergeSort, List.mem_flatMap]
  constructor
  · rintro ⟨⟨context, shelf⟩, shelved, member⟩
    obtain ⟨⟨name, entry⟩, noted, rfl⟩ := List.mem_map.mp member
    have found := List.lookup_eq_some_of_mem tallied.contexts shelved
    have named := List.lookup_eq_some_of_mem (tallied.names _ shelved) noted
    simp only [Ledger.shelf, entry?, found, Option.getD_some, named]
  · intro known
    obtain ⟨⟨context, name⟩, openedAt, modifiedAt⟩ := row
    cases found : ledger.shelves.lookup context with
    | none => simp [Ledger.shelf, entry?, found] at known
    | some shelf =>
      simp only [Ledger.shelf, entry?, found, Option.getD_some] at known
      exact ⟨_, List.mem_of_lookup_eq_some found,
        List.mem_map.mpr ⟨_, List.mem_of_lookup_eq_some known, rfl⟩⟩

theorem mem_handles_iff (tallied : ledger.Tallied) (h : Handle) :
    h ∈ ledger.handles ↔ ledger.contains h := by
  rw [handles_eq_rows, List.mem_map, contains_iff]
  constructor
  · rintro ⟨row, listed, rfl⟩
    exact ⟨_, (tallied.mem_rows_iff row).mp listed⟩
  · rintro ⟨entry, known⟩
    exact ⟨⟨h, entry.openedAt, entry.modifiedAt⟩, (tallied.mem_rows_iff _).mpr known, rfl⟩

/-- No handle is stored twice. -/
theorem nodup_stored (tallied : ledger.Tallied) : (ledger.stored.map Row.handle).Nodup := by
  simp only [stored, List.map_flatMap, shelfRows_handles]
  refine List.nodup_flatMap.mpr ⟨fun pair shelved => ?_, ?_⟩
  · exact (tallied.names pair shelved).map (Handle.strictMono_name pair.1).injective
  · refine (List.pairwise_map.mp tallied.contexts).imp fun {one other} differ => ?_
    intro h inOne inOther
    obtain ⟨_, _, rfl⟩ := List.mem_map.mp inOne
    obtain ⟨_, _, same⟩ := List.mem_map.mp inOther
    exact differ (congrArg Handle.context same).symm

theorem sortedLT_handles (tallied : ledger.Tallied) : ledger.handles.SortedLT := by
  rw [handles_eq_sort_stored]
  exact Handle.sortedLT_sort tallied.nodup_stored

theorem length_handles (tallied : ledger.Tallied) : ledger.handles.length = ledger.count := by
  rw [handles_eq_sort_stored, Handle.sort, List.length_mergeSort, tallied.count]
  simp [stored, shelfRows]

theorem isEmpty_rows (tallied : ledger.Tallied) : ledger.rows.isEmpty = ledger.isEmpty := by
  have length := tallied.length_handles
  rw [handles_eq_rows, List.length_map] at length
  rw [isEmpty, ← length, Bool.eq_iff_iff, List.isEmpty_iff_length_eq_zero, beq_iff_eq]

theorem mem_names_iff (tallied : ledger.Tallied) (context name : String) :
    name ∈ ledger.names context ↔ ledger.contains ⟨context, name⟩ := by
  rw [Ledger.names, List.mem_mergeSort, List.mem_map, contains_iff]
  constructor
  · rintro ⟨⟨name, entry⟩, noted, rfl⟩
    exact ⟨entry, List.lookup_eq_some_of_mem (tallied.names_shelf context) noted⟩
  · rintro ⟨entry, known⟩
    exact ⟨(name, entry), List.mem_of_lookup_eq_some known, rfl⟩

theorem sortedLT_names (tallied : ledger.Tallied) (context : String) :
    (ledger.names context).SortedLT :=
  List.sortedLT_mergeSort (fun a b => List.not_decide_lt_iff a b) (tallied.names_shelf context)

/-- A context is in use exactly if it has an open handle. -/
theorem usesContext_iff (tallied : ledger.Tallied) (context : String) :
    ledger.usesContext context ↔ ∃ name, ledger.contains ⟨context, name⟩ := by
  constructor
  · intro used
    obtain ⟨shelf, found⟩ := Option.isSome_iff_exists.mp used
    obtain ⟨⟨name, entry⟩, noted⟩ :=
      List.exists_mem_of_ne_nil shelf (tallied.used _ (List.mem_of_lookup_eq_some found))
    refine ⟨name, (tallied.mem_names_iff context name).mp ?_⟩
    rw [Ledger.names, List.mem_mergeSort, Ledger.shelf, found]
    exact List.mem_map.mpr ⟨_, noted, rfl⟩
  · rintro ⟨name, known⟩
    exact usesContext_of_contains known

theorem sortedLT_contexts (tallied : ledger.Tallied) : ledger.contexts.SortedLT :=
  List.sortedLT_mergeSort (fun a b => List.not_decide_lt_iff a b) tallied.contexts

theorem mem_contexts_iff (tallied : ledger.Tallied) (context : String) :
    context ∈ ledger.contexts ↔ ledger.usesContext context := by
  rw [Ledger.contexts, List.mem_mergeSort, List.mem_map, usesContext, Option.isSome_iff_exists]
  constructor
  · rintro ⟨⟨context, shelf⟩, shelved, rfl⟩
    exact ⟨shelf, List.lookup_eq_some_of_mem tallied.contexts shelved⟩
  · rintro ⟨shelf, found⟩
    exact ⟨(context, shelf), List.mem_of_lookup_eq_some found, rfl⟩

theorem mem_held_iff (tallied : ledger.Tallied) (context : String) (h : Handle) :
    h ∈ ledger.held context ↔ h.context = context ∧ ledger.contains h := by
  rw [held, List.mem_map]
  constructor
  · rintro ⟨name, listed, rfl⟩
    exact ⟨rfl, (tallied.mem_names_iff context name).mp listed⟩
  · rintro ⟨rfl, present⟩
    exact ⟨h.name, (tallied.mem_names_iff h.context h.name).mpr present, rfl⟩

theorem sortedLT_held (tallied : ledger.Tallied) (context : String) :
    (ledger.held context).SortedLT :=
  (Handle.strictMono_name context).sortedLT_listMap.mpr (tallied.sortedLT_names context)

/-- What is open is listed context by context. -/
theorem handles_eq_flatMap_held (tallied : ledger.Tallied) :
    ledger.handles = ledger.contexts.flatMap ledger.held := by
  have sorted : (ledger.contexts.flatMap ledger.held).SortedLT := by
    refine (List.pairwise_flatMap.mpr ⟨fun context _ => ?_, ?_⟩).sortedLT
    · exact (tallied.sortedLT_held context).pairwise
    · refine tallied.sortedLT_contexts.pairwise.imp fun less h early k late => .inl ?_
      rwa [((tallied.mem_held_iff _ h).mp early).1, ((tallied.mem_held_iff _ k).mp late).1]
  refine tallied.sortedLT_handles.eq_of_mem_iff sorted fun h => ?_
  rw [tallied.mem_handles_iff, List.mem_flatMap]
  constructor
  · intro present
    have used := (tallied.usesContext_iff h.context).mpr ⟨h.name, present⟩
    exact ⟨h.context, (tallied.mem_contexts_iff _).mpr used,
      (tallied.mem_held_iff _ h).mpr ⟨rfl, present⟩⟩
  · rintro ⟨context, _, listed⟩
    exact ((tallied.mem_held_iff context h).mp listed).2

/-! ## The set of the open handles -/

/-- While a handle is open, the ledger is not empty. -/
theorem filled_of_contains (tallied : ledger.Tallied) (present : ledger.contains h) :
    ledger.isEmpty = false := by
  refine isEmpty_eq_false_iff.mpr ?_
  rw [← tallied.length_handles]
  exact List.length_pos_of_mem ((tallied.mem_handles_iff h).mpr present)

theorem mem_opened_iff (tallied : ledger.Tallied) (h : Handle) :
    h ∈ ledger.opened ↔ ledger.contains h := by
  rw [opened, List.mem_toFinset, tallied.mem_handles_iff]

/-- Only a handle that is not open yet can be opened. -/
theorem opened_add {now : Moment} (tallied : ledger.Tallied) (added : ledger.add now h = .ok next) :
    h ∉ ledger.opened ∧ next.opened = insert h ledger.opened := by
  rw [tallied.mem_opened_iff]
  constructor
  · rcases add_cases now h ledger with ⟨_, refused⟩ | ⟨absent, _⟩
    · rw [refused] at added
      cases added
    · exact Bool.eq_false_iff.mp absent
  · ext k
    rw [(tallied.add added).mem_opened_iff, Finset.mem_insert, tallied.mem_opened_iff,
      contains_add added]

theorem opened_remove (tallied : ledger.Tallied) (removed : ledger.remove h = .ok next) :
    h ∈ ledger.opened ∧ next.opened = ledger.opened.erase h := by
  rw [tallied.mem_opened_iff]
  constructor
  · rcases remove_cases h ledger with ⟨_, refused⟩ | ⟨present, _⟩
    · rw [refused] at removed
      cases removed
    · exact present
  · ext k
    rw [(tallied.remove removed).mem_opened_iff, contains_remove removed, Finset.mem_erase,
      tallied.mem_opened_iff, and_comm]

theorem opened_mark {now : Moment} (tallied : ledger.Tallied)
    (marked : ledger.mark now h = .ok next) :
    h ∈ ledger.opened ∧ next.opened = ledger.opened := by
  rw [tallied.mem_opened_iff]
  constructor
  · rcases mark_cases now h ledger with ⟨_, refused⟩ | ⟨present, _⟩
    · rw [refused] at marked
      cases marked
    · exact present
  · ext k
    rw [(tallied.mark marked).mem_opened_iff, tallied.mem_opened_iff, contains_mark marked]

theorem card_opened (tallied : ledger.Tallied) : ledger.opened.card = ledger.count := by
  rw [opened, List.toFinset_card_of_nodup tallied.sortedLT_handles.nodup, tallied.length_handles]

/-- Nothing is counted exactly if nothing is open. -/
theorem isEmpty_iff (tallied : ledger.Tallied) : ledger.isEmpty ↔ ledger.opened = ∅ := by
  rw [isEmpty, beq_iff_eq, ← tallied.card_opened, Finset.card_eq_zero]

end Tallied

end Quiescence.Ledger
