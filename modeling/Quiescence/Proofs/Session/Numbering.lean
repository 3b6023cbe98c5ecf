import Quiescence.Proofs.Session.Adds
import Quiescence.Proofs.Session.Chronicle

/-! # The numbers of the waits

The waits of a run are numbered 1, 2, 3 and so on, in the order in which they begin, and the active
one is the last of them. A number is never given twice, so nothing that comes late with the number
of a wait that is over, be it a drop or a deadline, can take the wait that is active now for its
own: it leaves the barrier as it is.
-/

namespace Quiescence

/-- The number of a wait that has begun. -/
def Gate.Start.number? : Gate.Start → Option Nat
  | .begun number => some number
  | .quiescent | .refused => none

/-- How the caller of a step sleeps, if the step tries to begin a wait. -/
def Step.sleeper? : Step → Option Sleeper
  | .wait .. => some .task
  | .block _ | .park .. => some .thread
  | _ => none

theorem Gate.number?_start (sleeper : Sleeper) (g : Gate) : (g.start sleeper).1.number? =
    if g.ledger.isEmpty then none else if g.hasWaiter then none else some (g.lastWait + 1) := by
  unfold start
  split
  · rfl
  · split <;> rfl

/-! ## Numbers in a row -/

/-- The numbers that are given while the last number goes from `first` to `last`. -/
structure Numbers (first : Nat) (given : List Nat) (last : Nat) : Prop where
  le : first ≤ last
  eq_range : given = List.range' (first + 1) (last - first)

namespace Numbers

variable {first middle last : Nat} {early late : List Nat}

theorem none (first : Nat) : Numbers first [] first := ⟨Nat.le_refl _, by simp⟩

theorem one (first : Nat) : Numbers first [first + 1] (first + 1) := ⟨Nat.le_succ _, by simp⟩

theorem append (before : Numbers first early middle) (after : Numbers middle late last) :
    Numbers first (early ++ late) last := by
  obtain ⟨below, rfl⟩ := before
  obtain ⟨above, rfl⟩ := after
  refine ⟨Nat.le_trans below above, ?_⟩
  have split : last - first = (middle - first) + (last - middle) := by omega
  have next : first + 1 + (middle - first) = middle + 1 := by omega
  rw [split, ← List.range'_append_1, next]

end Numbers

namespace Session

variable {s : Session} {x : Step} {slot : String} {n : Nat}

/-- The number that a step is given for the wait that it begins. -/
def granted (s : Session) (x : Step) : Option Nat :=
  x.sleeper?.bind fun sleeper => ((s.cleared x).barrier.gate.start sleeper).1.number?

/-- The numbers that are given in some steps, one after the other. -/
def grants (s : Session) : List Step → List Nat
  | [] => []
  | x :: rest => (s.granted x).toList ++ (s.step x).session.grants rest

theorem poll_lastWait (s : Session) (slot : String) :
    (s.poll slot).2.barrier.gate.lastWait = s.barrier.gate.lastWait := by
  rw [poll_session]
  split
  · rfl
  · exact abandon_lastWait s slot

private theorem begin_numbers (slot : String) {sleeper : Sleeper} {wait : Nat → Slot}
    (suits : ∀ n, (wait n).sleeper = sleeper) (s : Session) :
    Numbers s.barrier.gate.lastWait
      ((s.abandon slot).barrier.gate.start sleeper).1.number?.toList
      (s.begin slot sleeper wait).2.barrier.gate.lastWait := by
  rw [begin_eq slot suits, Gate.number?_start, ← abandon_lastWait s slot]
  split
  · exact .none _
  · split
    · exact .none _
    · rw [poll_lastWait]
      exact .one _

private theorem block_numbers (limit : Option Nat) (s : Session) :
    Numbers s.barrier.gate.lastWait (s.barrier.gate.start .thread).1.number?.toList
      (s.barrier.block limit).2.gate.lastWait := by
  rw [block_eq, Gate.number?_start]
  split
  · exact .none _
  · split
    · exact .none _
    · cases limit.or s.barrier.waitLimit with
      | none => exact .one _
      | some time =>
        simp only [Gate.rouse_lastWait]
        exact .one _

namespace Sound

/-- No wait begins unless somebody tries to wait. -/
theorem lastWait_of_other (sound : s.Sound) (single : x.isSingle) (other : x.isWait = false) :
    (s.step x).session.barrier.gate.lastWait = s.barrier.gate.lastWait := by
  rcases (sound.move_step single).wait_cases with ⟨same, _⟩ | ⟨_, waits, _⟩
  · exact same
  · rw [other] at waits
    cases waits

private theorem lastWait_applies (sound : s.Sound) (events : List Event) :
    (s.after (events.map .apply)).barrier.gate.lastWait = s.barrier.gate.lastWait := by
  induction events generalizing s with
  | nil => rfl
  | cons event rest ih =>
    rw [List.map_cons, after_cons, ih (sound.step rfl), sound.lastWait_of_other rfl rfl]

/-- A step gives the next number or none. -/
theorem numbers_step (sound : s.Sound) (x : Step) :
    Numbers s.barrier.gate.lastWait (s.granted x).toList
      (s.step x).session.barrier.gate.lastWait := by
  cases x with
  | wait slot limit =>
    let deadline := (limit.or s.barrier.waitLimit).map (s.clock + ·)
    have suits (n : Nat) : (Slot.task n deadline).sleeper = .task := rfl
    exact begin_numbers slot suits s
  | park slot limit =>
    have suits (n : Nat) : (Slot.thread n).sleeper = .thread := rfl
    obtain ⟨limited, session⟩ := park_session slot limit (s := s)
    simp only [Session.step, quietly, session]
    exact begin_numbers slot suits s
  | block limit => exact block_numbers limit s
  | feed capacity events =>
    -- A feed is taken apart into events, and no event begins a wait.
    rw [← after_parts, parts, sound.lastWait_applies]
    exact .none _
  | _ =>
    rw [sound.lastWait_of_other rfl rfl]
    exact .none _

theorem numbers_after (sound : s.Sound) (steps : List Step) :
    Numbers s.barrier.gate.lastWait (s.grants steps) (s.after steps).barrier.gate.lastWait := by
  induction steps generalizing s with
  | nil => exact .none _
  | cons x rest ih => exact (sound.numbers_step x).append (ih (sound.after [x]))

end Sound

/-! ## Whoever comes late -/

/-- Nobody who comes late with the number of this wait does anything to the barrier, and whoever
comes because his time is up learns of a success. -/
structure Stale (s : Session) (n : Nat) : Prop where
  /-- The wait that is active now began later. -/
  newer : ∀ m, s.barrier.gate.isActive m → n < m
  /-- To take the wait back does nothing. -/
  retract : s.barrier.gate.retract n = s.barrier.gate
  /-- To end it because its time is up does nothing. -/
  lapse : s.barrier.gate.lapse n = (.ok (), s.barrier.gate)
  /-- If a thread does so, it goes on, and nothing else happens. -/
  rouse : s.barrier.gate.rouse n =
    (.ok (), { s.barrier.gate.unpark n with released := s.barrier.gate.released ++ [n] })
  /-- When its task is dropped, or its slot is used for another wait, the slot is emptied. -/
  abandon : ∀ slot, s.taskIn? slot = some n → s.abandon slot = s.vacate slot
  /-- The slot is emptied too when its task is polled after the deadline. -/
  poll : ∀ slot deadline, s.slots.lookup slot = some (.task n (some deadline)) →
    deadline ≤ s.clock → s.poll slot = (.ok, s.vacate slot)
  /-- When the time of its thread is up, the thread goes on if it still sleeps. -/
  timeUp : s.timeUp n = s ∨ s.timeUp n = s.withGate (s.barrier.gate.rouse n).2

theorem abandon_of_inactive (inactive : s.barrier.gate.isActive n = false)
    (task : s.taskIn? slot = some n) : s.abandon slot = s.vacate slot := by
  obtain ⟨deadline, found⟩ := taskIn?_eq_some_iff.mp task
  simp only [abandon, found, Gate.retract_eq_self inactive]
  rfl

theorem poll_of_inactive {deadline : Nat} (inactive : s.barrier.gate.isActive n = false)
    (found : s.slots.lookup slot = some (.task n (some deadline))) (late : deadline ≤ s.clock) :
    s.poll slot = (.ok, s.vacate slot) := by
  have answer : (s.poll slot).1 = .ok := by
    rw [poll_answer, found]
    simp [late, inactive]
  refine Prod.ext answer ?_
  rw [poll_session, answer, if_neg nofun]
  exact abandon_of_inactive inactive (taskIn?_eq_some_iff.mpr ⟨_, found⟩)

theorem timeUp_of_inactive (inactive : s.barrier.gate.isActive n = false) :
    s.timeUp n = s ∨ s.timeUp n = s.withGate (s.barrier.gate.rouse n).2 := by
  rw [timeUp_eq]
  split
  · exact .inr (by simp [inactive, withGate])
  · exact .inl rfl

/-- A wait that has begun and is not active any more is stale. -/
theorem Sound.stale (sound : s.Sound) (begun : n ≤ s.barrier.gate.lastWait)
    (inactive : s.barrier.gate.isActive n = false) : s.Stale n where
  newer m active := by
    have last := sound.gate.latest m active
    refine Nat.lt_of_le_of_ne (last ▸ begun) fun same => ?_
    rw [same, active] at inactive
    cases inactive
  retract := Gate.retract_eq_self inactive
  lapse := Gate.lapse_of_inactive inactive
  rouse := Gate.rouse_of_inactive inactive
  abandon _ task := abandon_of_inactive inactive task
  poll _ _ found late := poll_of_inactive inactive found late
  timeUp := timeUp_of_inactive inactive

/-! ## The numbers of a run -/

theorem grants_new (limit : Option Nat) (steps : List Step) : (new limit).grants steps =
    List.range' 1 ((new limit).after steps).barrier.gate.lastWait :=
  ((sound_new limit).numbers_after steps).eq_range

/-- How the waits of a run are numbered, up to any point of it. -/
structure Numbered (limit : Option Nat) (steps : List Step) : Prop where
  /-- The numbers are 1, 2, 3 and so on up to the last one. -/
  consecutive : (new limit).grants steps =
    List.range' 1 ((new limit).after steps).barrier.gate.lastWait
  /-- No number is given twice. -/
  ascending : ((new limit).grants steps).Pairwise (· < ·)
  /-- A word of 64 bits can hold every number. -/
  fits : ((new limit).after steps).barrier.gate.lastWait < 2 ^ 64
  /-- The active wait has the last number. -/
  latest : ∀ n, ((new limit).after steps).barrier.gate.isActive n →
    n = ((new limit).after steps).barrier.gate.lastWait
  /-- Every number is that of the active wait or of one that has ended. -/
  fate : ∀ n ∈ (new limit).grants steps, ((new limit).after steps).barrier.gate.isActive n ∨
    ∃ how, .ended n how ∈ (new limit).chronicle steps
  /-- The number of a wait that was released, timed out or was withdrawn is of no use any more. -/
  stale : ∀ n how, .ended n how ∈ (new limit).chronicle steps → ((new limit).after steps).Stale n

/-- As long as fewer than 2^64 waits have begun, every wait has a number of its own, and nobody can
do anything with the number once the wait has ended. -/
theorem stale_waits_are_harmless (limit : Option Nat) (steps : List Step)
    (few : ((new limit).grants steps).length < 2 ^ 64) : Numbered limit steps := by
  have sound := (sound_new limit).after steps
  have consecutive := grants_new limit steps
  refine ⟨consecutive, ?_, ?_, sound.gate.latest, fun n given => ?_, fun n how ended => ?_⟩
  · rw [consecutive]
    exact List.pairwise_lt_range'
  · rwa [consecutive, List.length_range'] at few
  · rw [consecutive, List.mem_range'_1] at given
    exact active_or_ended limit steps (by omega) (by omega)
  · obtain ⟨begun, inactive⟩ := inactive_of_ended limit steps ended
    exact sound.stale begun inactive

/-- A task that was released and whose deadline has passed since, beside a newer one that waits. -/
theorem stale_task_beside_newer :
    let steps : List Step := [.apply ⟨.opened, ⟨"A", "x"⟩⟩, .wait "early" (some 5),
      .apply ⟨.closed, ⟨"A", "x"⟩⟩, .apply ⟨.opened, ⟨"B", "y"⟩⟩, .wait "late" none, .advance 9]
    let s := (new none).after steps
    ((new none).grants steps).length < 2 ^ 64 ∧ (new none).grants steps = [1, 2] ∧
      .ended 1 .released ∈ (new none).chronicle steps ∧ s.barrier.gate.isActive 2 ∧
      s.abandon "early" = s.vacate "early" ∧ s.poll "early" = (.ok, s.vacate "early") ∧
      s.barrier.gate.lapse 1 = (.ok (), s.barrier.gate) := by
  intro steps s
  have grants : (new none).grants steps = [1, 2] := by decide
  have few : ((new none).grants steps).length < 2 ^ 64 := by rw [grants]; decide
  have ended : .ended 1 .released ∈ (new none).chronicle steps := by decide
  have task : s.taskIn? "early" = some 1 := by decide
  have stale := (stale_waits_are_harmless none steps few).stale 1 .released ended
  exact ⟨few, grants, ended, by decide, stale.abandon "early" task,
    stale.poll "early" 5 (by decide) (by decide), stale.lapse⟩

end Session

end Quiescence
