import Quiescence.Ledger
import Quiescence.Proofs.Lookup

/-! # The ledger's count is the number of its entries

A ledger is tallied when each context and each name stands for one entry, no context is kept without
an entry, and the count is the number of entries. Every change keeps a ledger tallied, so a count of
zero, a ledger without contexts and a ledger without entries are the same thing, and no change ever
takes more from the count than is there.
-/

namespace Quiescence.Ledger

/-- The bookkeeping of a ledger agrees with its entries. -/
structure Tallied (ledger : Ledger) : Prop where
  contexts : (ledger.shelves.map Prod.fst).Nodup
  names : ∀ entry ∈ ledger.shelves, (entry.2.map Prod.fst).Nodup
  used : ∀ entry ∈ ledger.shelves, entry.2 ≠ []
  count : ledger.count = (ledger.shelves.map (·.2.length)).sum

theorem tallied_empty : empty.Tallied := ⟨.nil, nofun, nofun, rfl⟩

variable {ledger next : Ledger}

theorem isEmpty_eq_false_iff : ledger.isEmpty = false ↔ 0 < ledger.count := by
  rw [isEmpty, beq_eq_false_iff_ne, Nat.pos_iff_ne_zero]

theorem count_add {now : Moment} {h : Handle} (added : ledger.add now h = .ok next) :
    next.count = ledger.count + 1 := by
  unfold add at added
  split at added <;> cases added
  rfl

theorem count_mark {now : Moment} {h : Handle} (marked : ledger.mark now h = .ok next) :
    next.count = ledger.count := by
  unfold mark at marked
  split at marked <;> cases marked
  rfl

theorem isEmpty_of_add {now : Moment} {h : Handle} (added : ledger.add now h = .ok next) :
    next.isEmpty = false := by
  rw [isEmpty, count_add added]
  rfl

theorem isEmpty_of_mark {now : Moment} {h : Handle} (marked : ledger.mark now h = .ok next) :
    next.isEmpty = ledger.isEmpty := by
  rw [isEmpty, isEmpty, count_mark marked]

namespace Tallied

theorem count_shelf (tallied : ledger.Tallied) (context : String) :
    ((ledger.shelves.filter (·.1 != context)).map (·.2.length)).sum +
      (ledger.shelf context).length = ledger.count := by
  have split := List.sum_filter_key List.length tallied.contexts context
  rw [← tallied.count] at split
  cases found : ledger.shelves.lookup context <;> simpa [shelf, found] using split

theorem names_shelf (tallied : ledger.Tallied) (context : String) :
    ((ledger.shelf context).map Prod.fst).Nodup := by
  cases found : ledger.shelves.lookup context with
  | none => simp [shelf, found]
  | some entries =>
    have member := List.mem_of_lookup_eq_some found
    simpa only [shelf, found, Option.getD_some] using tallied.names _ member

/-- A handle that is struck has been counted. -/
theorem count_remove (tallied : ledger.Tallied) {h : Handle}
    (removed : ledger.remove h = .ok next) : next.count + 1 = ledger.count := by
  unfold Ledger.remove at removed
  split at removed
  · next present =>
    cases removed
    have struck := List.length_filter_key (tallied.names_shelf h.context) present
    have total := tallied.count_shelf h.context
    exact Nat.sub_add_cancel (by omega)
  · cases removed

/-- All handles of a context have been counted. -/
theorem count_clearContext (tallied : ledger.Tallied) (context : String) :
    (ledger.clearContext context).2.count + (ledger.shelf context).length = ledger.count := by
  have total := tallied.count_shelf context
  exact Nat.sub_add_cancel (by omega)

/-- A tallied ledger with an entry uses a context. -/
theorem contextsInUse_pos (tallied : ledger.Tallied) (entries : ledger.isEmpty = false) :
    0 < ledger.contextsInUse := by
  refine List.length_pos_iff.mpr fun none => ?_
  have zero : ledger.count = 0 := by rw [tallied.count, none]; rfl
  simp [isEmpty, zero] at entries

/-- Exchanging a shelf for one of the counted length keeps a ledger tallied. -/
theorem setShelf (tallied : ledger.Tallied) {context : String} {shelf : Shelf} {count : Nat}
    (names : (shelf.map Prod.fst).Nodup)
    (counted : count + (ledger.shelf context).length = ledger.count + shelf.length) :
    Tallied ⟨setShelf context shelf ledger.shelves, count⟩ := by
  have without := tallied.count_shelf context
  unfold Ledger.setShelf
  split
  · next nothing =>
    have empty := List.isEmpty_iff.mp nothing
    subst empty
    refine ⟨List.nodup_filter_key tallied.contexts context, fun entry member => ?_,
      fun entry member => ?_, ?_⟩
    · exact tallied.names entry (List.mem_filter.mp member).1
    · exact tallied.used entry (List.mem_filter.mp member).1
    · simp only [List.length_nil] at counted ⊢
      omega
  · next something =>
    have filled : shelf ≠ [] := by simpa using something
    split
    · next used =>
      refine ⟨?_, fun entry member => ?_, fun entry member => ?_, ?_⟩
      · simpa [Function.comp_def] using tallied.contexts
      · obtain ⟨⟨key, old⟩, present, rfl⟩ := List.mem_map.mp member
        by_cases same : key = context
        · simpa [same] using names
        · simpa [same] using tallied.names _ present
      · obtain ⟨⟨key, old⟩, present, rfl⟩ := List.mem_map.mp member
        by_cases same : key = context
        · simpa [same] using filled
        · simpa [same] using tallied.used _ present
      · have total := List.sum_replace_key List.length tallied.contexts used shelf
        obtain ⟨old, found⟩ := Option.isSome_iff_exists.mp used
        simp only [Ledger.shelf, found, Option.getD_some] at counted
        rw [found, Option.map_some, Option.getD_some, ← tallied.count] at total
        exact Nat.add_right_cancel (counted.trans total.symm)
    · next unused =>
      have absent := Option.not_isSome_iff_eq_none.mp unused
      refine ⟨?_, fun entry member => ?_, fun entry member => ?_, ?_⟩
      · exact List.nodup_concat_key tallied.contexts absent shelf
      · rcases List.mem_append.mp member with present | fresh
        · exact tallied.names entry present
        · rw [List.mem_singleton.mp fresh]
          exact names
      · rcases List.mem_append.mp member with present | fresh
        · exact tallied.used entry present
        · rw [List.mem_singleton.mp fresh]
          exact filled
      · simp only [Ledger.shelf, absent, Option.getD_none, List.length_nil] at counted
        simp only [List.map_append, List.sum_append, ← tallied.count, List.map_cons, List.map_nil,
          List.sum_cons, List.sum_nil]
        omega

theorem add (tallied : ledger.Tallied) {now : Moment} {h : Handle}
    (added : ledger.add now h = .ok next) : next.Tallied := by
  unfold Ledger.add at added
  split at added
  · cases added
  · next absent =>
    cases added
    refine tallied.setShelf ?_ (by simp only [List.length_append, List.length_singleton]; omega)
    have fresh : (ledger.shelf h.context).lookup h.name = none :=
      Option.not_isSome_iff_eq_none.mp absent
    exact List.nodup_concat_key (tallied.names_shelf _) fresh _

theorem remove (tallied : ledger.Tallied) {h : Handle} (removed : ledger.remove h = .ok next) :
    next.Tallied := by
  unfold Ledger.remove at removed
  split at removed
  · next present =>
    cases removed
    refine tallied.setShelf (List.nodup_filter_key (tallied.names_shelf _) _) ?_
    have struck := List.length_filter_key (tallied.names_shelf h.context) present
    have total := tallied.count_shelf h.context
    omega
  · cases removed

theorem mark (tallied : ledger.Tallied) {now : Moment} {h : Handle}
    (marked : ledger.mark now h = .ok next) : next.Tallied := by
  unfold Ledger.mark at marked
  split at marked
  · cases marked
    refine tallied.setShelf ?_ (by rw [List.length_map])
    simpa [Function.comp_def] using tallied.names_shelf h.context
  · cases marked

theorem clearContext (tallied : ledger.Tallied) (context : String) :
    (ledger.clearContext context).2.Tallied := by
  have without := tallied.count_shelf context
  refine ⟨List.nodup_filter_key tallied.contexts context, fun entry member => ?_,
    fun entry member => ?_, ?_⟩
  · exact tallied.names entry (List.mem_filter.mp member).1
  · exact tallied.used entry (List.mem_filter.mp member).1
  · simp only [Ledger.clearContext]
    omega

end Tallied

end Quiescence.Ledger
