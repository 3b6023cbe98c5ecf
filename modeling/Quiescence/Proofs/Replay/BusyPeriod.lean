import Quiescence.Script
import Quiescence.Proofs.Handle.Order
import Mathlib.Algebra.GroupWithZero.Nat
import Mathlib.Data.Finset.Card
import Mathlib.Order.Bounds.Basic

/-! # Busy periods of a script

What is open after some events of a script, and when they have arrived, is determined by the script
alone. A busy period starts with an event that finds nothing open and leaves something open, and it
ends with the next event that leaves nothing open, if there is one. Somebody with a time limit who
waits for the end of every busy period from its start is in time for all of them or misses one.
-/

namespace Quiescence

/-- The handles that are open after an event. Events that are refused make no difference. -/
def Event.alter (event : Event) (handles : Finset Handle) : Finset Handle :=
  match event.kind with
  | .opened => insert event.handle handles
  | .closed => handles.erase event.handle
  | .modified => handles

namespace Script

/-- The time at which the first `i` events have arrived. -/
def time (script : Script) (i : Nat) : Nat := ((script.take i).map Arrival.delay).sum

/-- The handles that are open after the first `i` events. -/
def openAfter (script : Script) (i : Nat) : Finset Handle :=
  (script.take i).foldl (fun handles next => next.event.alter handles) ∅

/-- A busy period starts with the `i`-th event. -/
structure Starts (script : Script) (i : Nat) : Prop where
  positive : 1 ≤ i
  arrived : i ≤ script.length
  before : script.openAfter (i - 1) = ∅
  after : script.openAfter i ≠ ∅

/-- The busy period that starts with the `i`-th event ends with the `j`-th. -/
def EndsAt (script : Script) (i j : Nat) : Prop :=
  IsLeast {k | i < k ∧ k ≤ script.length ∧ script.openAfter k = ∅} j

/-- The busy period that starts with the `i`-th event is still going on after the last event. -/
structure Lasts (script : Script) (i : Nat) : Prop where
  starts : script.Starts i
  busy : ∀ k, i ≤ k → k ≤ script.length → script.openAfter k ≠ ∅

variable {script : Script} {next : Arrival} {i j k T now afterwards : Nat}

/-! ## One more event -/

theorem time_append (arrived : k ≤ script.length) :
    time (script ++ [next]) k = script.time k := by
  rw [time, time, List.take_append_of_le_length arrived]

theorem openAfter_append (arrived : k ≤ script.length) :
    openAfter (script ++ [next]) k = script.openAfter k := by
  rw [openAfter, openAfter, List.take_append_of_le_length arrived]

theorem time_concat (script : Script) (next : Arrival) :
    time (script ++ [next]) (script.length + 1) = script.time script.length + next.delay := by
  have whole : (script ++ [next]).take (script.length + 1) = script ++ [next] :=
    List.take_of_length_le (by simp)
  rw [time, time, whole, List.take_length, List.map_append, List.sum_append, List.map_singleton,
    List.sum_singleton]

theorem openAfter_concat (script : Script) (next : Arrival) :
    openAfter (script ++ [next]) (script.length + 1) =
      next.event.alter (script.openAfter script.length) := by
  have whole : (script ++ [next]).take (script.length + 1) = script ++ [next] :=
    List.take_of_length_le (by simp)
  rw [openAfter, openAfter, whole, List.take_length, List.foldl_concat]

theorem openAfter_whole_concat (script : Script) (next : Arrival) :
    openAfter (script ++ [next]) (script ++ [next]).length =
      next.event.alter (script.openAfter script.length) := by
  rw [List.length_append, List.length_singleton, openAfter_concat]

theorem Starts.append (starts : script.Starts i) : Starts (script ++ [next]) i := by
  obtain ⟨positive, arrived, before, after⟩ := starts
  refine ⟨positive, ?_, ?_, ?_⟩
  · rw [List.length_append]
    omega
  · rwa [openAfter_append (by omega)]
  · rwa [openAfter_append arrived]

/-- A busy period starts with one of the earlier events, or with the last one. -/
theorem Starts.of_append (starts : Starts (script ++ [next]) i) :
    script.Starts i ∨
      i = script.length + 1 ∧ script.openAfter script.length = ∅ := by
  obtain ⟨positive, arrived, before, after⟩ := starts
  rw [List.length_append, List.length_singleton] at arrived
  by_cases early : i ≤ script.length
  · rw [openAfter_append (by omega)] at before
    rw [openAfter_append early] at after
    exact .inl ⟨positive, early, before, after⟩
  · obtain rfl : i = script.length + 1 := by omega
    rw [Nat.add_sub_cancel, openAfter_append le_rfl] at before
    exact .inr ⟨rfl, before⟩

theorem EndsAt.append (ends : script.EndsAt i j) : EndsAt (script ++ [next]) i j := by
  obtain ⟨⟨less, arrived, empty⟩, least⟩ := ends
  refine ⟨⟨less, ?_, ?_⟩, ?_⟩
  · rw [List.length_append]
    omega
  · rwa [openAfter_append arrived]
  · rintro k ⟨less, _, empty⟩
    by_cases early : k ≤ script.length
    · rw [openAfter_append early] at empty
      exact least ⟨less, early, empty⟩
    · omega

/-- What ends with one of the earlier events has ended before the last one. -/
theorem EndsAt.of_append (ends : EndsAt (script ++ [next]) i j) (early : j ≤ script.length) :
    script.EndsAt i j := by
  obtain ⟨⟨less, _, empty⟩, least⟩ := ends
  rw [openAfter_append early] at empty
  refine ⟨⟨less, early, empty⟩, ?_⟩
  rintro k ⟨less, arrived, empty⟩
  refine least ⟨less, ?_, ?_⟩
  · rw [List.length_append]
    omega
  · rwa [openAfter_append arrived]

/-! ## Periods that go on -/

theorem Lasts.not_endsAt (lasts : script.Lasts i) (j : Nat) : ¬ script.EndsAt i j := by
  rintro ⟨⟨less, arrived, empty⟩, _⟩
  exact lasts.busy j less.le arrived empty

/-- While a busy period goes on, something is open. -/
theorem Lasts.filled (lasts : script.Lasts i) : script.openAfter script.length ≠ ∅ :=
  lasts.busy _ lasts.starts.arrived le_rfl

/-- At most one busy period goes on. -/
theorem Lasts.unique (one : script.Lasts i) (other : script.Lasts j) : i = j := by
  have ordered {i j : Nat} (one : script.Lasts i) (other : script.Lasts j) : ¬ i < j := by
    intro less
    have arrived := other.starts.arrived
    exact one.busy (j - 1) (by omega) (by omega) other.starts.before
  have := ordered one other
  have := ordered other one
  omega

theorem Lasts.append (lasts : script.Lasts i)
    (filled : next.event.alter (script.openAfter script.length) ≠ ∅) :
    Lasts (script ++ [next]) i := by
  refine ⟨lasts.starts.append, fun k from_ arrived => ?_⟩
  rw [List.length_append, List.length_singleton] at arrived
  by_cases early : k ≤ script.length
  · rw [openAfter_append early]
    exact lasts.busy k from_ early
  · obtain rfl : k = script.length + 1 := by omega
    rwa [openAfter_concat]

theorem Lasts.of_append (lasts : Lasts (script ++ [next]) i) :
    script.Lasts i ∨ i = script.length + 1 := by
  rcases lasts.starts.of_append with early | ⟨last, _⟩
  · refine .inl ⟨early, fun k from_ arrived => ?_⟩
    rw [← openAfter_append arrived]
    refine lasts.busy k from_ ?_
    rw [List.length_append]
    omega
  · exact .inr last

/-- The event that leaves nothing open ends the period that went on. -/
theorem Lasts.ends (lasts : script.Lasts i)
    (emptied : next.event.alter (script.openAfter script.length) = ∅) :
    EndsAt (script ++ [next]) i (script.length + 1) := by
  have arrived := lasts.starts.arrived
  refine ⟨⟨by omega, by simp, ?_⟩, ?_⟩
  · rwa [openAfter_concat]
  · rintro k ⟨less, _, empty⟩
    by_contra early
    rw [openAfter_append (by omega)] at empty
    exact lasts.busy k less.le (by omega) empty

/-- An event that opens something where nothing was open starts a period. -/
theorem lasts_concat (empty : script.openAfter script.length = ∅)
    (filled : next.event.alter (script.openAfter script.length) ≠ ∅) :
    Lasts (script ++ [next]) (script.length + 1) := by
  refine ⟨⟨Nat.le_add_left 1 _, by simp, ?_, ?_⟩, fun k from_ arrived => ?_⟩
  · rwa [Nat.add_sub_cancel, openAfter_append le_rfl]
  · rwa [openAfter_concat]
  · rw [List.length_append, List.length_singleton] at arrived
    obtain rfl : k = script.length + 1 := by omega
    rwa [openAfter_concat]

/-- While something is open, a busy period goes on. -/
theorem exists_lasts (filled : script.openAfter script.length ≠ ∅) : ∃ i, script.Lasts i := by
  induction script using List.reverseRecOn with
  | nil => exact absurd rfl filled
  | append_singleton earlier next ih =>
    rw [List.length_append, List.length_singleton, openAfter_concat] at filled
    by_cases empty : openAfter earlier earlier.length = ∅
    · exact ⟨_, lasts_concat empty filled⟩
    · obtain ⟨i, lasts⟩ := ih empty
      exact ⟨i, lasts.append filled⟩

/-! ## Being in time -/

/-- Every busy period has ended within the limit, or goes on and still has time. -/
def InTime (T : Nat) (script : Script) (now : Nat) : Prop :=
  ∀ i, script.Starts i →
    (∃ j, script.EndsAt i j ∧ script.time j < script.time i + T) ∨
      script.Lasts i ∧ now < script.time i + T

/-- A busy period has reached the limit. -/
def Missed (T : Nat) (script : Script) (now : Nat) : Prop :=
  ∃ i, script.Starts i ∧ script.time i + T ≤ now ∧
    ∀ j, script.EndsAt i j → script.time i + T ≤ script.time j

/-- Some busy period has no end, or takes longer than the limit. -/
def Overdue (T : Nat) (script : Script) : Prop :=
  ∃ i, script.Starts i ∧
    ((¬ ∃ j, script.EndsAt i j) ∨ ∃ j, script.EndsAt i j ∧ T < script.time j - script.time i)

theorem inTime_nil (T now : Nat) : InTime T [] now := by
  intro i starts
  have := starts.positive
  have := starts.arrived
  simp at this
  omega

/-- Time may go on until the period that goes on reaches the limit. -/
theorem InTime.later (inTime : InTime T script now)
    (timely : ∀ i, script.Lasts i → afterwards < script.time i + T) :
    InTime T script afterwards := by
  intro i starts
  rcases inTime i starts with ended | ⟨lasts, _⟩
  · exact .inl ended
  · exact .inr ⟨lasts, timely i lasts⟩

theorem InTime.append (inTime : InTime T script now) (positive : 0 < T)
    (arrives : now = time (script ++ [next]) (script.length + 1)) :
    InTime T (script ++ [next]) now := by
  intro i starts
  rcases starts.of_append with early | ⟨rfl, empty⟩
  · rw [time_append early.arrived]
    rcases inTime i early with ⟨j, ends, timely⟩ | ⟨lasts, timely⟩
    · refine .inl ⟨j, ends.append, ?_⟩
      rwa [time_append ends.1.2.1]
    · by_cases emptied : next.event.alter (script.openAfter script.length) = ∅
      · exact .inl ⟨_, lasts.ends emptied, arrives ▸ timely⟩
      · exact .inr ⟨lasts.append emptied, timely⟩
  · have filled := starts.after
    rw [openAfter_concat] at filled
    refine .inr ⟨lasts_concat empty filled, ?_⟩
    omega

theorem Lasts.missed (lasts : script.Lasts i) (late : script.time i + T ≤ now) :
    Missed T script now :=
  ⟨i, lasts.starts, late, fun j ends => absurd ends (lasts.not_endsAt j)⟩

theorem Missed.later (missed : Missed T script now) (order : now ≤ afterwards) :
    Missed T script afterwards := by
  obtain ⟨i, starts, late, ends⟩ := missed
  exact ⟨i, starts, late.trans order, ends⟩

theorem Missed.append (missed : Missed T script now)
    (arrives : now = time (script ++ [next]) (script.length + 1)) :
    Missed T (script ++ [next]) now := by
  obtain ⟨i, starts, late, ends⟩ := missed
  refine ⟨i, starts.append, ?_, fun j ended => ?_⟩
  · rwa [time_append starts.arrived]
  · rw [time_append starts.arrived]
    by_cases early : j ≤ script.length
    · rw [time_append early]
      exact ends j (ended.of_append early)
    · have arrived : j ≤ (script ++ [next]).length := ended.1.2.1
      rw [List.length_append, List.length_singleton] at arrived
      obtain rfl : j = script.length + 1 := by omega
      omega

/-! ## The verdict -/

theorem Lasts.overdue (lasts : script.Lasts i) (T : Nat) : script.Overdue T :=
  ⟨i, lasts.starts, .inl fun ⟨j, ends⟩ => lasts.not_endsAt j ends⟩

/-- Unless an event arrives exactly at the limit, to reach the limit is to exceed it. -/
theorem Missed.overdue (missed : Missed T script now)
    (apart : ∀ i, script.Starts i → ∀ k ≤ script.length, script.time k ≠ script.time i + T) :
    script.Overdue T := by
  obtain ⟨i, starts, _, ends⟩ := missed
  refine ⟨i, starts, ?_⟩
  by_cases ended : ∃ j, script.EndsAt i j
  · obtain ⟨j, ended⟩ := ended
    have late := ends j ended
    have differs := apart i starts j ended.1.2.1
    exact .inr ⟨j, ended, by omega⟩
  · exact .inl ended

theorem InTime.not_overdue (inTime : InTime T script now)
    (empty : script.openAfter script.length = ∅) : ¬ script.Overdue T := by
  rintro ⟨i, starts, late⟩
  rcases inTime i starts with ⟨j, ends, timely⟩ | ⟨lasts, _⟩
  · rcases late with endless | ⟨k, ends', late⟩
    · exact endless ⟨j, ends⟩
    · obtain rfl := ends.unique ends'
      omega
  · exact lasts.filled empty

end Script

end Quiescence
