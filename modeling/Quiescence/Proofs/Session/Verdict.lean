import Quiescence.Proofs.Session.Lifetime

/-! # The verdict of a wait

What a task learns from a poll does not depend on who else waited or was polled, nor on what is open
by now. If nothing was open at some time since the wait began, the answer is a success; otherwise
the deadline decides.
-/

namespace Quiescence.Session

variable {s : Session} {slot : String} {x : Step} {n : Nat}

/-- The answer to a poll of a wait with this deadline, given the chronicle since it began. -/
def verdict (s : Session) (deadline : Option Nat) (since : List Mark) : Answer :=
  if .emptied ∈ since then .ok
  else if deadline.any (· ≤ s.clock) then .refused (.timedOut s.barrier.gate.ledger.count)
  else .pending

/-- Whether the wait in a slot is neither dropped nor found to be over during some steps. -/
def keeps (slot : String) (s : Session) : List Step → Prop
  | [] => True
  | x :: rest => x.displaces? ≠ some slot ∧ (x = .poll slot → (s.poll slot).1 = .pending) ∧
    (s.step x).session.keeps slot rest

theorem keeps_append (slot : String) (s : Session) (first second : List Step) :
    s.keeps slot (first ++ second) ↔ s.keeps slot first ∧ (s.after first).keeps slot second := by
  induction first generalizing s with
  | nil => simp [keeps]
  | cons x rest ih => simp only [List.cons_append, keeps, ih, after_cons, and_assoc]

private theorem keeps_applies (slot : String) (s : Session) (events : List Event) :
    s.keeps slot (events.map .apply) := by
  induction events generalizing s with
  | nil => trivial
  | cons event rest ih => exact ⟨nofun, nofun, ih _⟩

theorem keeps_operations {steps : List Step} (kept : s.keeps slot steps) :
    s.keeps slot (s.operations steps) := by
  induction steps generalizing s with
  | nil => trivial
  | cons x rest ih =>
    obtain ⟨kept, unfinished, later⟩ := kept
    rw [operations, keeps_append, after_parts]
    refine ⟨?_, ih later⟩
    cases x with
    | feed capacity events => exact keeps_applies slot s _
    | _ => exact ⟨kept, unfinished, trivial⟩

/-- Where nothing is open, the first poll of a wait succeeds. -/
theorem first_poll_quiescent (slot : String) (own : Option Nat)
    (empty : s.barrier.gate.ledger.isEmpty) : (s.step (.wait slot own)).answer = .ok := by
  have suits (n : Nat) :
      (Slot.task n ((own.or s.barrier.waitLimit).map (s.clock + ·))).sleeper = .task := rfl
  rcases begin_cases slot suits s with ⟨_, outcome⟩ | ⟨filled, _⟩ | ⟨filled, _⟩
  · exact congrArg Prod.fst outcome
  · simp [empty] at filled
  · simp [empty] at filled

namespace Sound

private theorem kept_singles (sound : s.Sound) {steps : List Step}
    (singles : ∀ x ∈ steps, x.isSingle) (kept : s.keeps slot steps) {held : Slot}
    (found : s.slots.lookup slot = some held) :
    (s.after steps).slots.lookup slot = some held ∧
      ∀ n ∈ s.barrier.gate.released, n ∈ (s.after steps).barrier.gate.released := by
  induction steps generalizing s with
  | nil => exact ⟨found, fun _ => id⟩
  | cons x rest ih =>
    obtain ⟨kept, unfinished, later⟩ := kept
    obtain ⟨single, others⟩ := List.forall_mem_cons.mp singles
    have move := sound.move_step single
    obtain ⟨stays, released⟩ :=
      ih (sound.step single) others later (move.lookup found kept unfinished)
    exact ⟨stays, fun n early => released n (move.released early)⟩

/-- A wait that is left in its slot stays there, and a released wait stays released. -/
theorem kept_after (sound : s.Sound) {more : List Step} (kept : s.keeps slot more) {held : Slot}
    (found : s.slots.lookup slot = some held) :
    (s.after more).slots.lookup slot = some held ∧
      ∀ n ∈ s.barrier.gate.released, n ∈ (s.after more).barrier.gate.released := by
  rw [← after_operations]
  exact sound.kept_singles (fun _ => isSingle_of_mem_operations) (keeps_operations kept) found

variable {deadline : Option Nat}

/-- While a task is left in its slot, its wait goes on until it is released. -/
theorem held_after (sound : s.Sound) {steps : List Step} (singles : ∀ x ∈ steps, x.isSingle)
    (kept : s.keeps slot steps) (found : s.slots.lookup slot = some (.task n deadline))
    (waiting : s.barrier.gate.wait = .active n .task) :
    if .emptied ∈ s.history steps then n ∈ (s.after steps).barrier.gate.released
    else (s.after steps).barrier.gate.wait = .active n .task := by
  induction steps generalizing s with
  | nil => simpa [history] using waiting
  | cons x rest ih =>
    obtain ⟨kept, unfinished, later⟩ := kept
    obtain ⟨single, others⟩ := List.forall_mem_cons.mp singles
    have stays := (sound.move_step single).lookup found kept unfinished
    simp only [history, List.mem_append, emptied_mem_marks_iff, after_cons]
    cases empties : s.empties x with
    | true =>
      have released := sound.task_released single empties waiting
      simpa using ((sound.step single).kept_singles others later stays).2 n released
    | false =>
      have waits := sound.hold_step single found kept unfinished waiting empties
      simpa using ih (sound.step single) others later stays waits

/-- The poll of a task that has been left in its slot since its wait was active. -/
theorem poll_held (sound : s.Sound) {more : List Step} (kept : s.keeps slot more)
    (found : s.slots.lookup slot = some (.task n deadline))
    (waiting : s.barrier.gate.wait = .active n .task) :
    ((s.after more).poll slot).1 = (s.after more).verdict deadline (s.chronicle more) ∧
      (.emptied ∉ s.chronicle more → (s.after more).barrier.gate.isActive n) := by
  have stays := (sound.kept_after kept found).1
  have held := sound.held_after (fun _ => isSingle_of_mem_operations) (keeps_operations kept) found
    waiting
  rw [after_operations] at held
  unfold verdict chronicle
  by_cases emptied : .emptied ∈ s.history (s.operations more)
  · rw [if_pos emptied] at held ⊢
    rw [poll_answer, stays]
    exact ⟨if_pos held, fun filled => absurd emptied filled⟩
  · rw [if_neg emptied] at held ⊢
    have active := Gate.isActive_iff.mpr ⟨_, held⟩
    exact ⟨(sound.after more).poll_active stays active, fun _ => active⟩

/-- The first poll of a wait that begins gives the verdict on the spot; a wait that is pending is in
its slot and active. -/
theorem first_poll_begun (sound : s.Sound) (slot : String) (own : Option Nat)
    (filled : s.barrier.gate.ledger.isEmpty = false)
    (free : (s.abandon slot).barrier.gate.wait = .idle) :
    let first := s.step (.wait slot own)
    let deadline := (own.or s.barrier.waitLimit).map (s.clock + ·)
    let number := s.barrier.gate.lastWait + 1
    first.session.barrier.gate.lastWait = number ∧ first.answer = s.verdict deadline [] ∧
      (first.answer = .pending → first.session.slots.lookup slot = some (.task number deadline) ∧
        first.session.barrier.gate.wait = .active number .task) := by
  intro first deadline number
  have start : (first.answer, first.session) = s.begin slot .task (.task · deadline) := rfl
  have suits (n : Nat) : (Slot.task n deadline).sleeper = .task := rfl
  rcases begin_cases slot suits s with ⟨empty, _⟩ | ⟨_, busy, _⟩ | ⟨_, idle, outcome⟩
  · simp [filled] at empty
  · rw [Gate.hasWaiter_eq_false_iff.mpr free] at busy
    cases busy
  · have vacant := abandon_vacant s slot
    have still : (s.abandon slot).barrier.gate.ledger.isEmpty = false := by simpa using filled
    rw [(sound.abandon slot).poll_entered still vacant rfl, abandon_clock, abandon_ledger,
      abandon_lastWait] at outcome
    have last : ((s.abandon slot).entered slot (.task number deadline)).barrier.gate.lastWait =
        number := congrArg (· + 1) (abandon_lastWait s slot)
    have wait : ((s.abandon slot).entered slot (.task number deadline)).barrier.gate.wait =
        .active number .task := congrArg (Wait.active · .task) last
    have turn := start.trans outcome
    by_cases due : (Slot.task number deadline).isDue s.clock
    · rw [if_pos due] at turn
      obtain ⟨answer, session⟩ := Prod.mk.inj turn
      refine ⟨?_, ?_, fun pending => ?_⟩
      · rw [session, abandon_lastWait, last]
      · rw [answer, verdict, if_neg List.not_mem_nil]
        exact (if_pos due).symm
      · rw [answer] at pending
        cases pending
    · rw [if_neg due] at turn
      obtain ⟨answer, session⟩ := Prod.mk.inj turn
      refine ⟨?_, ?_, fun _ => ?_⟩
      · rw [session, last]
      · rw [answer, verdict, if_neg List.not_mem_nil]
        exact (if_neg due).symm
      · rw [session, wait]
        exact ⟨lookup_entered vacant, rfl⟩

end Sound

theorem after_waitLimit (s : Session) (steps : List Step) :
    (s.after steps).barrier.waitLimit = s.barrier.waitLimit := by
  have singles (s : Session) {steps : List Step} (singles : ∀ x ∈ steps, x.isSingle) :
      (s.after steps).barrier.waitLimit = s.barrier.waitLimit := by
    induction steps generalizing s with
    | nil => rfl
    | cons x rest ih =>
      obtain ⟨single, others⟩ := List.forall_mem_cons.mp singles
      rw [after_cons, ih _ others, step_waitLimit single]
  rw [← after_operations]
  exact singles s fun _ => isSingle_of_mem_operations

/-- What became of what was open decides every wait of a task. The first poll succeeds if nothing is
open and is refused if another wait is live. Otherwise the wait begins, and from then on until it is
over or dropped each poll gives the verdict of the chronicle since, whatever else has happened. -/
theorem wait_verdict (limit : Option Nat) (steps : List Step) (slot : String) (own : Option Nat) :
    let s := (new limit).after steps
    let other n := Told n ((new limit).chronicle steps) .live ∧ s.taskIn? slot ≠ some n
    let deadline := (own.or limit).map (s.clock + ·)
    let first := s.step (.wait slot own)
    (s.barrier.gate.ledger.isEmpty → first.answer = .ok) ∧
    (s.barrier.gate.ledger.isEmpty = false → (∃ n, other n) →
      first.answer = .refused .waitActive) ∧
    (s.barrier.gate.ledger.isEmpty = false → (¬ ∃ n, other n) →
      .began (s.barrier.gate.lastWait + 1) ∈ s.marks (.wait slot own) ∧
      first.answer = s.verdict deadline [] ∧ 1 ≤ s.barrier.gate.ledger.count ∧
      (first.answer = .pending →
        first.session.barrier.gate.isActive (s.barrier.gate.lastWait + 1) ∧
        ∀ more, first.session.keeps slot more →
          let t := first.session.after more
          let since := first.session.chronicle more
          (t.step (.poll slot)).answer = t.verdict deadline since ∧
            (.emptied ∉ since → 1 ≤ t.barrier.gate.ledger.count))) := by
  intro s other deadline first
  have sound : s.Sound := (sound_new limit).after steps
  have default : s.barrier.waitLimit = limit := after_waitLimit (new limit) steps
  have busy : (∃ n, other n) ↔ (s.abandon slot).barrier.gate.hasWaiter := by
    simp only [Gate.hasWaiter_iff, abandon_isActive, Bool.and_eq_true, bne_iff_ne, other,
      told_live_iff]
    rfl
  refine ⟨first_poll_quiescent slot own, fun filled waiter => ?_, fun filled free => ?_⟩
  · exact (sound.refused_iff rfl).1.mpr ⟨filled, busy.mp waiter⟩
  · have idle : (s.abandon slot).barrier.gate.wait = .idle :=
      Gate.hasWaiter_eq_false_iff.mp (Bool.eq_false_iff.mpr fun waiter => free (busy.mpr waiter))
    have begins := sound.first_poll_begun slot own filled idle
    rw [default] at begins
    obtain ⟨last, answer, entered⟩ := begins
    have began : .began (s.barrier.gate.lastWait + 1) ∈ s.marks (.wait slot own) := by
      refine began_mem_marks_iff.mpr ⟨?_, last.symm⟩
      rw [last]
      exact Nat.succ_ne_self _
    refine ⟨began, answer, Ledger.isEmpty_eq_false_iff.mp filled, fun pending => ?_⟩
    obtain ⟨found, waiting⟩ := entered pending
    have next : first.session.Sound := sound.step rfl
    refine ⟨Gate.isActive_iff.mpr ⟨_, waiting⟩, fun more kept => ?_⟩
    obtain ⟨verdict, still⟩ := next.poll_held kept found waiting
    refine ⟨verdict, fun filled => ?_⟩
    have busy := Gate.hasWaiter_iff.mpr ⟨_, still filled⟩
    exact Ledger.isEmpty_eq_false_iff.mp ((next.after more).gate.occupied busy)

end Quiescence.Session
