import Quiescence.Proofs.Replay.Waiter

/-! # The verdict on a script

Whether the waiter of a replay gives up, or would wait for ever, is decided by the busy periods of
the script and the time limit, however far the waiter gets between events.
-/

namespace Quiescence.Replay

variable {r : Replay} {script : Script} {now : Nat} {limit : Option Nat} {settings : Settings}
  {mode : ReplayMode}

/-! ## The end of a script -/

/-- When the script has ended, the waiter has come to an end or waits while something is open. -/
theorem InStep.finish (inStep : r.InStep limit script now) : r.finish.barrier.LeftBy script ∧
    r.finish.barrier.waitLimit = limit ∧
    ((r.finish.watch = .gaveUp ∧ ∃ T, limit = some T ∧ script.Missed T now) ∨
      (r.finish.watch = .done ∧ script.openAfter script.length = ∅ ∧
        ∀ T ∈ limit, script.InTime T now) ∨
      ∃ number i, r.finish.watch = .waiting number (limit.map (script.time i + ·)) ∧
        r.finish.barrier.gate.isActive number ∧ script.Lasts i) := by
  obtain ⟨left, rfl, rfl, watches⟩ := inStep
  have ended : InStep r.barrier.waitLimit script r.clock { r with delivered := true } := by
    refine ⟨left, rfl, rfl, ?_⟩
    cases watches with
    | gaveUp watch limit missed => exact .gaveUp watch limit missed
    | waiting lasts watch active inTime => exact .waiting lasts watch active inTime
    | due due idle fresh inTime => exact .due due idle fresh inTime
    | done watch _ empty inTime => exact .done watch rfl empty inTime
  obtain ⟨⟨left, sameLimit, sameClock, watches⟩, held, delivered⟩ := ended.turn
  refine ⟨left, sameLimit, ?_⟩
  rw [← sameClock, ← sameLimit]
  cases watches with
  | gaveUp watch limit missed => exact .inl ⟨watch, _, limit, missed⟩
  | done watch _ empty inTime => exact .inr (.inl ⟨watch, empty, inTime⟩)
  | waiting lasts watch active inTime =>
    exact .inr (.inr ⟨_, _, watch, Gate.isActive_iff.mpr ⟨_, active⟩, lasts⟩)
  | due due =>
    -- the end of the script is something to wake up for
    rw [(due.resting held).2.1] at delivered
    cases delivered

/-! ## The outcome -/

/-- Where there is no waiter, there is none at any time. -/
theorem steps_off (off : r.watch = .off) (n : Nat) : r.steps n = r := by
  induction n with
  | zero => rfl
  | succ n ih => rw [steps, step_of_held (by simp [errand, off]), ih]

theorem pass_off (off : r.watch = .off) (delay : Nat) : (r.pass delay).watch = .off := by
  unfold pass
  split
  · exact off
  · rw [turn, steps_off off]
    simp [passTo, off]

theorem arriveAll_off (off : r.watch = .off) (stamp : Nat → Moment) (pace : Replay → Nat)
    (script : Script) : (r.arriveAll stamp pace script).watch = .off := by
  induction script generalizing r with
  | nil => exact off
  | cons next rest ih =>
    have taken : ((r.pass next.delay).take stamp next.event).watch = .off := by
      rw [take_watch, pass_off off]
    refine ih ?_
    rw [arrive, steps_off taken, taken]

theorem summary_off (off : r.watch = .off) (events : Nat) (mode : ReplayMode) :
    (r.finish.summary events mode).timedOut = false ∧
      (r.finish.summary events mode).stalled = false := by
  have off : r.finish.watch = .off := by
    rw [finish, turn, steps_off (r := { r with delivered := true }) off]
    exact off
  simp [summary, stalls, sitOut, off]

/-- Without a limit nobody gives up, but a period without end is never sat out. -/
theorem InStep.summary_unlimited (inStep : r.InStep none script now) (events : Nat)
    (mode : ReplayMode) :
    (r.finish.summary events mode).timedOut = false ∧
      ((r.finish.summary events mode).stalled ↔ script.openAfter script.length ≠ ∅) := by
  obtain ⟨left, limit, ended⟩ := inStep.finish
  have watched : r.finish.watch ≠ .off ∧ r.finish.sitOut.watch ≠ .gaveUp := by
    rcases ended with ⟨_, T, limited, _⟩ | ⟨done, _⟩ | ⟨number, i, waiting, _⟩
    · cases limited
    · simp [sitOut, done]
    · simp [sitOut, waiting]
  constructor
  · simp [summary, watched]
  · rw [Ne, ← left.isEmpty_iff]
    simp [summary, stalls, watched, limit]

/-- With a limit the waiter sits out the period that goes on, and gives up. -/
theorem InStep.sitOut_cases {T : Nat} (inStep : r.InStep (some T) script now) :
    (r.finish.sitOut.watch = .gaveUp ∧ (script.Missed T now ∨ ∃ i, script.Lasts i)) ∨
      (r.finish.sitOut.watch = .done ∧ script.openAfter script.length = ∅ ∧
        script.InTime T now) := by
  obtain ⟨_, _, ended⟩ := inStep.finish
  rcases ended with ⟨gaveUp, _, same, missed⟩ | ⟨done, empty, inTime⟩ |
    ⟨number, i, waiting, active, lasts⟩
  · obtain rfl := Option.some.inj same
    exact .inl ⟨by simp [sitOut, gaveUp], .inl missed⟩
  · exact .inr ⟨by simp [sitOut, done], empty, inTime T rfl⟩
  · refine .inl ⟨?_, .inr ⟨i, lasts⟩⟩
    simp [sitOut, waiting, Replay.passTo, Gate.lapse, active]

/-- With a limit nothing stalls, and the summary says whether the waiter gives up. -/
theorem InStep.summary_limited {T : Nat} (inStep : r.InStep (some T) script now) (events : Nat)
    (mode : ReplayMode) :
    ((r.finish.summary events mode).timedOut ↔ r.finish.sitOut.watch = .gaveUp) ∧
      (r.finish.summary events mode).stalled = false := by
  obtain ⟨_, limit, _⟩ := inStep.finish
  have stalls : r.finish.stalls = false := by simp [stalls, limit]
  exact ⟨by simp [summary, stalls], stalls⟩

/-- Unless an event arrives exactly at the limit, the waiter gives up just if a busy period is
overdue. -/
private theorem InStep.gaveUp_iff_overdue {T : Nat} (inStep : r.InStep (some T) script now)
    (apart : ∀ i, script.Starts i → ∀ k ≤ script.length, script.time k ≠ script.time i + T) :
    r.finish.sitOut.watch = .gaveUp ↔ script.Overdue T := by
  rcases inStep.sitOut_cases with ⟨gaveUp, missed | ⟨i, lasts⟩⟩ | ⟨done, empty, inTime⟩
  · exact iff_of_true gaveUp (missed.overdue apart)
  · exact iff_of_true gaveUp (lasts.overdue T)
  · refine iff_of_false ?_ (inTime.not_overdue empty)
    rw [done]
    nofun

/-- Settings that are in use have no limit of zero. -/
theorem positive_of_valid (valid : settings.flaw? = none) :
    ∀ T ∈ settings.barrier.waitLimit, 0 < T := by
  intro T limit
  refine Nat.pos_of_ne_zero fun zero => ?_
  rw [zero, Option.mem_def] at limit
  simp [Settings.flaw?, limit] at valid

/-- A replay that gets no queue reports nothing. In any other, with a limit, the waiter gives up
exactly if a busy period of the script is overdue; without one, it would wait for ever exactly if
something is left open. How far it gets between events makes no difference, but nobody can tell
which comes first where an event arrives exactly at the limit. -/
theorem run_verdict (stamp : Nat → Moment) (script : Script) (settings : Settings)
    (mode : ReplayMode) (pace : Replay → Nat) (valid : settings.flaw? = none) :
    (run stamp script settings mode pace = none ↔ mostRoom < settings.barrier.capacity) ∧
    ∀ summary ∈ run stamp script settings mode pace,
      (mode.wait = false → summary.timedOut = false ∧ summary.stalled = false) ∧
      (mode.wait → settings.barrier.waitLimit = none →
        summary.timedOut = false ∧ (summary.stalled ↔ script.openAfter script.length ≠ ∅)) ∧
      ∀ T, mode.wait → settings.barrier.waitLimit = some T →
        (∀ i, script.Starts i → ∀ k ≤ script.length, script.time k ≠ script.time i + T) →
        (summary.timedOut ↔ script.Overdue T) ∧ summary.stalled = false := by
  refine ⟨run_eq_none_iff, fun summary reported => ?_⟩
  obtain ⟨room, rfl⟩ := exists_play reported
  have positive := positive_of_valid valid
  refine ⟨fun idle => ?_, fun wait limit => ?_, fun T wait limit apart => ?_⟩
  · have off : (start settings mode room).watch = .off := if_neg (by simp [idle])
    exact summary_off (arriveAll_off off stamp pace script) _ mode
  · have inStep := (inStep_arriveAll wait positive stamp pace script room).1
    rw [limit] at inStep
    exact inStep.summary_unlimited _ mode
  · have inStep := (inStep_arriveAll wait positive stamp pace script room).1
    rw [limit] at inStep
    obtain ⟨timedOut, stalled⟩ := inStep.summary_limited script.length mode
    exact ⟨timedOut.trans (inStep.gaveUp_iff_overdue apart), stalled⟩

/-- Two busy periods that follow each other at one instant are in time, although they take longer
than the limit together and the waiter hears of both only when the second has started. -/
theorem refill_starts_anew :
    let settings : Settings := { barrier := { waitLimit := some 16 } }
    let script : Script := [⟨⟨.opened, ⟨"A", "x"⟩⟩, 0⟩, ⟨⟨.closed, ⟨"A", "x"⟩⟩, 15⟩,
      ⟨⟨.opened, ⟨"B", "y"⟩⟩, 0⟩, ⟨⟨.closed, ⟨"B", "y"⟩⟩, 5⟩]
    (∃ summary, run (fun _ => .epoch) script settings ⟨true, false⟩ (fun _ => 0) = some summary ∧
      summary.timedOut = false) ∧
      script.Starts 1 ∧ script.Starts 3 ∧ ¬ script.Overdue 16 := by
  intro settings script
  have valid : settings.flaw? = none := by decide
  let summary := play (fun _ => .epoch) script settings ⟨true, false⟩ (fun _ => 0)
    ⟨1024, by decide, by decide⟩
  have reported : run (fun _ => .epoch) script settings ⟨true, false⟩ (fun _ => 0) =
      some summary := rfl
  have patient : summary.timedOut = false := by decide
  have apart : ∀ i, script.Starts i → ∀ k ≤ script.length, script.time k ≠ script.time i + 16 := by
    have never : ∀ i ≤ script.length, ∀ k ≤ script.length,
        script.time k ≠ script.time i + 16 := by decide
    exact fun i starts => never i starts.arrived
  obtain ⟨_, verdict⟩ := run_verdict (fun _ => .epoch) script settings ⟨true, false⟩
    (fun _ => 0) valid
  obtain ⟨overdue_iff, _⟩ := (verdict summary reported).2.2 16 rfl rfl apart
  refine ⟨⟨summary, reported, patient⟩, ⟨by decide, by decide, by decide, by decide⟩,
    ⟨by decide, by decide, by decide, by decide⟩, fun overdue => ?_⟩
  rw [overdue_iff.mpr overdue] at patient
  cases patient

/-- A busy period without end is overdue, and no event arrives at the limit. With a capacity for
which there is a queue the waiter gives up; with one for which there is none, nothing is reported,
although the settings are valid. -/
theorem verdict_without_queue :
    let script : Script := [⟨⟨.opened, ⟨"A", "x"⟩⟩, 0⟩]
    let settings (capacity : Nat) : Settings := { barrier := { waitLimit := some 50, capacity } }
    let report (capacity : Nat) : Option Summary :=
      run (fun _ => .epoch) script (settings capacity) ⟨true, false⟩ fun _ => 0
    (settings (mostRoom + 1)).flaw? = none ∧ script.Lasts 1 ∧
      (∀ k ≤ script.length, script.time k ≠ script.time 1 + 50) ∧
      (report mostRoom).map Summary.timedOut = some true ∧ report (mostRoom + 1) = none := by
  intro script settings report
  refine ⟨by decide, ⟨⟨by decide, by decide, by decide, by decide⟩, ?_⟩, by decide, by decide,
    by decide⟩
  intro k later arrived
  obtain rfl : k = 1 := Nat.le_antisymm arrived later
  decide

end Quiescence.Replay
