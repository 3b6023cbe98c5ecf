import Quiescence.Proofs.Replay.Outcome

/-! # What a replay leaves open

A script leaves those handles open that it opens later than it closes them. A replay lists exactly
these when the script has ended, each once and in handle order, and these are what it closes by
force.
-/

namespace Quiescence

namespace Past

variable {past : Past} {h : Handle}

/-- The handles that are opened later than closed. -/
def leftOpen (past : Past) : Finset Handle :=
  (past.map Event.handle).toFinset.filter fun h => past.latest? h = some .opened

theorem leftOpen_eq_roll (past : Past) : past.leftOpen = past.roll.opened := by
  simp only [leftOpen, roll, isOpen, decide_eq_true_eq]

theorem card_leftOpen_le (past : Past) : past.leftOpen.card ≤ past.length := by
  calc past.leftOpen.card
    _ ≤ (past.map Event.handle).toFinset.card := Finset.card_filter_le _ _
    _ ≤ (past.map Event.handle).length := List.toFinset_card_le _
    _ = past.length := List.length_map _

/-- The latest event that opens or closes a handle opens it or closes it. -/
theorem latest?_cases (past : Past) (h : Handle) :
    past.latest? h = some .opened ∨ past.latest? h = some .closed ∨ past.latest? h = none := by
  unfold latest?
  cases last : (past.filter fun e => e.handle = h ∧ e.kind ≠ .modified).getLast? with
  | none => exact .inr (.inr rfl)
  | some event =>
    have turns := (List.mem_filter.mp (List.mem_of_getLast? last)).2
    cases kind : event.kind with
    | opened => exact .inl (congrArg some kind)
    | closed => exact .inr (.inl (congrArg some kind))
    | modified => simp [kind] at turns

theorem leftOpen_eq_empty_iff : past.leftOpen = ∅ ↔
    ∀ h ∈ past.map Event.handle, past.latest? h = some .closed ∨ past.latest? h = none := by
  rw [leftOpen, Finset.filter_eq_empty_iff]
  refine forall_congr' fun h => ?_
  rw [List.mem_toFinset]
  refine imp_congr_right fun _ => ⟨fun shut => (past.latest?_cases h).resolve_left shut, ?_⟩
  rintro (closed | never) opened
  · rw [closed] at opened
    cases opened
  · rw [never] at opened
    cases opened

end Past

namespace Replay

/-- However far the waiter gets in the meantime, a replay lists as open what its script leaves
open, and it closes all of this by force if it is asked to. -/
theorem play_leftOpen (stamp : Nat → Moment) (script : Script) (settings : Settings)
    (mode : ReplayMode) (pace : Replay → Nat) (room : Room) :
    let summary := play stamp script settings mode pace room
    let left := Past.leftOpen (script.map Arrival.event)
    (summary.quiescent ↔ left = ∅) ∧ summary.remaining.map Row.handle = left.sort ∧
      summary.forceClosed = if mode.forceClose then left.card else 0 := by
  intro summary left
  have depicts := (took_finish stamp script settings mode pace room).records.depicts
  have handles := depicts.handles_eq
  rw [← Past.leftOpen_eq_roll] at handles
  have remaining : summary.remaining.map Row.handle = left.sort :=
    (Ledger.handles_eq_rows _).symm.trans handles
  refine ⟨?_, remaining, ?_⟩
  · have count := congrArg List.length remaining
    rw [List.length_map, Finset.length_sort] at count
    rw [← Finset.card_eq_zero, ← count, ← List.isEmpty_iff_length_eq_zero]
    rfl
  · have struck := congrArg List.length handles
    rw [← Gate.evictAll_handles, Finset.length_sort] at struck
    simp only [summary, play, Replay.summary, struck, left]

/-- No number in a summary exceeds that of the events. -/
theorem play_counts_le (stamp : Nat → Moment) (script : Script) (settings : Settings)
    (mode : ReplayMode) (pace : Replay → Nat) (room : Room) :
    let summary := play stamp script settings mode pace room
    ∀ n ∈ [summary.events, summary.applied, summary.rejected, summary.forceClosed],
      n ≤ script.length := by
  intro summary
  have total : summary.applied + summary.rejected = script.length := by
    rw [← List.length_map Arrival.event]
    exact (took_finish stamp script settings mode pace room).total
  have forced : summary.forceClosed ≤ script.length := by
    have left := Past.card_leftOpen_le (script.map Arrival.event)
    rw [List.length_map] at left
    rw [(play_leftOpen stamp script settings mode pace room).2.2]
    split <;> omega
  simp only [List.forall_mem_cons]
  exact ⟨le_rfl, by omega, by omega, forced, nofun⟩

end Replay

end Quiescence
