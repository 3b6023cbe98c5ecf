import Quiescence.Proofs.Session.Chronicle

/-! # Every wait ends once

The chronicle of a run and the barrier agree at all times: the wait that is live in the one is the
active wait of the other. An ending stands in the chronicle exactly if the operation gave the wait
reason to end in that way, and a waiter is turned away exactly if another wait is live, which the
refusal leaves alone.
-/

namespace Quiescence.Session

variable {s : Session} {x : Step} {n : Nat}

/-! ## Endings and their reasons -/

/-- The reason that a wait has to end at a step. -/
def Ends (s : Session) (x : Step) (n : Nat) : Ending → Prop
  | .released => s.barrier.gate.isActive n ∧ x.isMutation ∧ s.empties x
  | .timedOut => s.barrier.gate.isActive n ∧ s.ranOut x n ∨ .began n ∈ s.marks x ∧ s.fleeting x
  | .withdrawn => s.barrier.gate.isActive n ∧ s.displaces x n

namespace Sound

/-- A wait that begins is over by the end of the step exactly if it had no time. -/
theorem over_iff_fleeting (sound : s.Sound) (single : x.isSingle)
    (new : (s.step x).session.barrier.gate.lastWait ≠ s.barrier.gate.lastWait) :
    (s.step x).session.barrier.gate.isActive (s.step x).session.barrier.gate.lastWait = false ↔
      s.fleeting x := by
  rcases (sound.move_step single).wait_cases with ⟨same, _⟩ | ⟨last, _, _, _, next⟩
  · exact absurd same new
  · cases fleeting : s.fleeting x with
    | true =>
      have idle : (s.step x).session.barrier.gate.wait = .idle := by simpa [fleeting] using next
      simp [Gate.isActive_of_idle idle]
    | false =>
      have active := Gate.isActive_iff.mpr (by simpa [fleeting] using next)
      simp [last, active]

/-- An ending is noted exactly if there is reason for it. -/
theorem ended_mem_marks_iff (sound : s.Sound) (single : x.isSingle) (how : Ending) :
    .ended n how ∈ s.marks x ↔ s.Ends x n how := by
  have reasons (active : s.barrier.gate.isActive n) :
      (s.step x).session.barrier.gate.isActive n = false ↔
        s.empties x ∨ s.ranOut x n ∨ s.displaces x n := by
    rw [sound.isActive_step single active, Bool.not_eq_false', Bool.or_eq_true, Bool.or_eq_true,
      or_assoc]
  have emptied (empties : s.empties x) : s.ranOut x n = false ∧ s.displaces x n = false := by
    have mutation := sound.isMutation_of_empties single empties
    have spares := displaces?_of_isMutation mutation
    exact ⟨ranOut_of_isMutation mutation n, displaces_eq_false spares n⟩
  have displaced (displaces : s.displaces x n) : s.ranOut x n = false := by
    obtain ⟨_, taken, _⟩ := displaces?_of_displaces displaces
    exact ranOut_of_displaces? taken n
  rw [marks, List.mem_append, ended_mem_closings_iff, mem_beginnings_iff]
  cases how with
  | released =>
    simp only [reduceCtorEq, Mark.ended.injEq, and_false, or_false, Ends]
    refine and_congr_right fun active => ?_
    rw [reasons active, ending]
    cases empties : s.empties x with
    | true => simp [sound.isMutation_of_empties single empties]
    | false => cases s.ranOut x n <;> simp
  | timedOut =>
    refine or_congr (and_congr_right fun active => ?_) ?_
    · rw [reasons active, ending]
      cases empties : s.empties x with
      | true => simp [emptied empties]
      | false => cases s.ranOut x n <;> simp
    · rw [began_mem_marks_iff, and_assoc]
      refine and_congr_right fun new => ?_
      rw [sound.over_iff_fleeting single new, and_comm]
      simp
  | withdrawn =>
    simp only [reduceCtorEq, Mark.ended.injEq, and_false, or_false, Ends]
    refine and_congr_right fun active => ?_
    rw [reasons active, ending]
    cases empties : s.empties x with
    | true => simp [emptied empties]
    | false =>
      cases ranOut : s.ranOut x n with
      | true =>
        have kept : s.displaces x n = false := by
          by_contra taken
          rw [displaced (by simpa using taken)] at ranOut
          cases ranOut
        simp [kept]
      | false => simp

/-! ## Refusals -/

private theorem begin_refused (sound : s.Sound) (slot : String) {sleeper : Sleeper}
    {wait : Nat → Slot} (suits : ∀ n, (wait n).sleeper = sleeper)
    (numbered : ∀ n, (wait n).number = n) :
    ((s.begin slot sleeper wait).1 = .refused .waitActive ↔
      s.barrier.gate.ledger.isEmpty = false ∧ (s.abandon slot).barrier.gate.hasWaiter) ∧
    ((s.begin slot sleeper wait).1 = .refused .waitActive →
      (s.begin slot sleeper wait).2.barrier.gate = (s.abandon slot).barrier.gate) := by
  rcases begin_cases slot suits s with
    ⟨empty, outcome⟩ | ⟨filled, busy, outcome⟩ | ⟨filled, idle, outcome⟩
  · rw [abandon_ledger] at empty
    simp [outcome, empty]
  · rw [abandon_ledger] at filled
    simp [outcome, filled, busy]
  · have free : (s.abandon slot).barrier.gate.hasWaiter = false :=
      Gate.hasWaiter_eq_false_iff.mpr idle
    have granted : (s.begin slot sleeper wait).1 ≠ .refused .waitActive := by
      rw [outcome, (sound.abandon slot).poll_entered filled (abandon_vacant s slot) (numbered _)]
      split
      · simp
      · simp
    simp [granted, free]

private theorem block_refused (s : Session) (limit : Option Nat) :
    ((s.barrier.block limit).1 = .refused .waitActive ↔
      s.barrier.gate.ledger.isEmpty = false ∧ s.barrier.gate.hasWaiter) ∧
    ((s.barrier.block limit).1 = .refused .waitActive →
      (s.barrier.block limit).2.gate = s.barrier.gate) := by
  unfold Barrier.block
  rcases Gate.start_cases .thread s.barrier.gate with
    ⟨empty, start⟩ | ⟨filled, busy, start⟩ | ⟨filled, idle, start⟩
  · simp [start, empty]
  · simp [start, filled, busy]
  · have free : s.barrier.gate.hasWaiter = false := Gate.hasWaiter_eq_false_iff.mpr idle
    simp only [start, free]
    cases limit.or s.barrier.waitLimit with
    | none => simp
    | some time =>
      have granted (g : Gate) (n : Nat) : Answer.ofWait (g.rouse n).1 ≠ .refused .waitActive := by
        rw [Gate.rouse_outcome, Gate.lapse_outcome]
        split
        · simp [Answer.ofWait]
        · simp [Answer.ofWait]
      simp [granted]

/-- An attempt to wait is refused if somebody else waits for something open, and then it does no
more than take its slot. -/
theorem refused_iff (sound : s.Sound) (waits : x.isWait) :
    ((s.step x).answer = .refused .waitActive ↔
      s.barrier.gate.ledger.isEmpty = false ∧ (s.cleared x).barrier.gate.hasWaiter) ∧
    ((s.step x).answer = .refused .waitActive →
      (s.step x).session.barrier.gate = (s.cleared x).barrier.gate) := by
  cases x with
  | wait slot limit => exact sound.begin_refused slot (fun _ => rfl) fun _ => rfl
  | park slot limit =>
    obtain ⟨limited, session⟩ := park_session slot limit (s := s)
    simp only [Session.step, quietly, park_answer, session]
    exact sound.begin_refused slot (fun _ => rfl) fun _ => rfl
  | block limit => exact block_refused s limit
  | _ => cases waits

end Sound

/-! ## The law of waits -/

/-- How the waits of a run go, up to any point of it. -/
structure Orderly (limit : Option Nat) (steps : List Step) : Prop where
  /-- A wait has yet to begin, or it is live, or it has ended once and in one way. -/
  fate : ∀ n, ∃! fate, Told n ((new limit).chronicle steps) fate
  /-- The live wait is the one that is active. -/
  active : ∀ n, ((new limit).after steps).barrier.gate.isActive n ↔
    Told n ((new limit).chronicle steps) .live
  /-- A live wait is that of a task in a slot or of a parked thread. -/
  owner : ∀ n, Told n ((new limit).chronicle steps) .live →
    (∃ slot, ((new limit).after steps).taskIn? slot = some n) ∨
      n ∈ ((new limit).after steps).barrier.gate.parked
  /-- A wait that is over stays over. -/
  final : ∀ n how, Told n ((new limit).chronicle steps) (.past how) → ∀ more,
    Told n ((new limit).chronicle (steps ++ more)) (.past how) ∧
      ((new limit).after (steps ++ more)).barrier.gate.isActive n = false
  /-- Somebody is waiting exactly while one wait is live. -/
  waiting : ((new limit).after steps).barrier.gate.hasWaiter ↔
    ∃! n, Told n ((new limit).chronicle steps) .live
  /-- The next operation notes an ending exactly if it gives reason for it. -/
  ends : ∀ x, x.isSingle → ∀ n how, .ended n how ∈ ((new limit).after steps).marks x ↔
    ((new limit).after steps).Ends x n how
  /-- The next attempt to wait is refused exactly if something is open and another wait is live. -/
  refused : ∀ x, x.isWait →
    ((((new limit).after steps).step x).answer = .refused .waitActive ↔
      ((new limit).after steps).barrier.gate.ledger.isEmpty = false ∧
        ∃ n, Told n ((new limit).chronicle steps) .live ∧
          ((new limit).after steps).displaces x n = false)
  /-- The refusal leaves the other wait active. -/
  undisturbed : ∀ x, x.isWait →
    (((new limit).after steps).step x).answer = .refused .waitActive →
      ∀ n, Told n ((new limit).chronicle steps) .live →
        ((new limit).after steps).displaces x n = false →
          (((new limit).after steps).step x).session.barrier.gate.isActive n

/-- Every wait that begins ends at most once and for one reason, and the barrier knows at all times
which wait is live. -/
theorem waits_end_once (limit : Option Nat) (steps : List Step) : Orderly limit steps := by
  have sound := (sound_new limit).after steps
  have fates (steps : List Step) (n : Nat) := (annals_chronicle limit steps).exists_fate n
  have active (steps : List Step) (n : Nat) := (told_live_iff limit steps n).symm
  refine ⟨fun n => ?_, active steps, fun n live => ?_, fun n how past more => ?_, ?_,
    fun x single n how => sound.ended_mem_marks_iff single how, fun x waits => ?_,
    fun x waits refused n live spared => ?_⟩
  · obtain ⟨fate, told, _⟩ := fates steps n
    exact ⟨fate, told, fun other second => second.unique told⟩
  · obtain ⟨sleeper, waiting⟩ := Gate.isActive_iff.mp ((active steps n).mpr live)
    cases sleeper with
    | task => exact .inl (sound.taskIn_of_active waiting)
    | thread => exact .inr (sound.gate.asleep n waiting)
  · obtain ⟨fate, told, _⟩ := fates (steps ++ more) n
    have noted : .ended n how ∈ (new limit).chronicle (steps ++ more) := by
      rw [chronicle_append]
      exact List.mem_append_left _ ((past.ended_iff how).mpr rfl)
    obtain rfl := (told.ended_iff how).mp noted
    refine ⟨told, Bool.eq_false_iff.mpr fun still => ?_⟩
    cases told.unique ((active (steps ++ more) n).mp still)
  · simp only [Gate.hasWaiter_iff, active steps]
    constructor
    · rintro ⟨n, live⟩
      refine ⟨n, live, fun m other => ?_⟩
      exact Gate.isActive_unique ((active steps m).mpr other) ((active steps n).mpr live)
    · rintro ⟨n, live, _⟩
      exact ⟨n, live⟩
  · rw [(sound.refused_iff waits).1, Gate.hasWaiter_iff]
    simp only [cleared_isActive, Bool.and_eq_true, Bool.not_eq_true', active steps]
  · rw [(sound.refused_iff waits).2 refused, cleared_isActive, (active steps n).mpr live, spared]
    rfl

end Quiescence.Session
