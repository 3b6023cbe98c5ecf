import Quiescence.Handle
import Mathlib.Data.List.Sort
import Mathlib.Data.String.Basic

/-! # The order of handles

Handles are linearly ordered, and so are their names inside one context. Sorting different things
puts them into strictly ascending order, and of the lists with the same members only one is in that
order: a list that is handed out sorted says nothing about how its members were stored.
-/

namespace List

variable {α : Type*} [LinearOrder α]

theorem not_decide_lt_iff (a b : α) [Decidable (b < a)] : (!decide (b < a)) ↔ a ≤ b := by
  rw [← decide_not, decide_eq_true_iff, not_lt]

section Sorted

variable {le : α → α → Bool} (order : ∀ a b, le a b ↔ a ≤ b) {l : List α}
include order

private theorem eq_decide_le : le = fun a b => decide (a ≤ b) := by
  funext a b
  rw [Bool.eq_iff_iff, order, decide_eq_true_iff]

/-- Sorting different things puts them into strictly ascending order. -/
theorem sortedLT_mergeSort (different : l.Nodup) : (l.mergeSort le).SortedLT := by
  rw [eq_decide_le order]
  exact SortedLE.sortedLT_of_nodup sortedLE_mergeSort (nodup_mergeSort.mpr different)

/-- Sorting by insertion gives the same list, and can be evaluated. -/
theorem mergeSort_eq_insert : l.mergeSort le = l.insertionSort (· ≤ ·) := by
  rw [eq_decide_le order]
  exact mergeSort_eq_insertionSort (· ≤ ·) l

end Sorted

end List

namespace Quiescence.Handle

instance : IsStrictTotalOrder Handle (· < ·) where
  irrefl h less := by simp [Handle.lt_iff] at less
  trans h k l first second := by
    rw [Handle.lt_iff] at *
    rcases first with first | ⟨same, first⟩
    · rcases second with second | ⟨same', _⟩
      · exact .inl (first.trans second)
      · exact .inl (same' ▸ first)
    · rw [same]
      exact second.imp_right fun ⟨same', second⟩ => ⟨same', first.trans second⟩
  trichotomous h k notLess notGreater := by
    simp only [Handle.lt_iff, not_or, not_and, not_lt] at notLess notGreater
    have context := le_antisymm notGreater.1 notLess.1
    have name := le_antisymm (notGreater.2 context.symm) (notLess.2 context)
    cases h
    cases k
    exact congrArg₂ Handle.mk context name

instance : LinearOrder Handle := linearOrderOfSTO (· < ·)

/-- Inside one context the names decide. -/
theorem strictMono_name (context : String) : StrictMono (Handle.mk context) :=
  fun _ _ less => .inr ⟨rfl, less⟩

theorem sortedLT_sort {hs : List Handle} (different : hs.Nodup) : (sort hs).SortedLT :=
  List.sortedLT_mergeSort (fun h k => List.not_decide_lt_iff h k) different

end Quiescence.Handle
