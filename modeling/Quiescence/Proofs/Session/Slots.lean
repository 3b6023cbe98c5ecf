import Quiescence.Proofs.Barrier.Effects
import Quiescence.Proofs.Session.Run

/-! # What the steps of a session do to its slots

Whatever ends the hold of a slot on its wait, be it a drop, the slot being used again or the poll
that ends the wait, is one and the same operation: the slot is abandoned. Only the start of a wait
fills a slot.
-/

namespace Quiescence

/-- The number of the wait in a slot. -/
def Slot.number : Slot → Nat
  | .task number _ | .thread number => number

/-- How the owner of the wait in a slot sleeps. -/
def Slot.sleeper : Slot → Sleeper
  | .task .. => .task
  | .thread _ => .thread

/-- Whether the wait in a slot is a task's and has reached its deadline. -/
def Slot.isDue (clock : Nat) : Slot → Bool
  | .task _ deadline => deadline.any (· ≤ clock)
  | .thread _ => false

/-- Steps that change what is open, once. -/
def Step.isMutation : Step → Bool
  | .apply _ | .evict _ | .evictAll => true
  | _ => false

/-- Steps that change neither what is open nor who is registered. -/
def Step.isQuiet : Step → Bool
  | .apply _ | .evict _ | .evictAll | .feed .. | .observe .. | .unobserve _ => false
  | _ => true

/-- Steps that try to begin a wait. -/
def Step.isWait : Step → Bool
  | .wait .. | .block _ | .park .. => true
  | _ => false

/-- The slot that a step takes from the wait in it. -/
def Step.displaces? : Step → Option String
  | .drop slot | .wait slot _ | .park slot _ => some slot
  | _ => none

/-- The barrier `after` differs from `b` in its waits at most. -/
structure Barrier.Undisturbed (b after : Barrier) : Prop where
  ledger : after.gate.ledger = b.gate.ledger
  audience : after.audience = b.audience
  waitLimit : after.waitLimit = b.waitLimit

namespace Session

variable {s : Session}

/-- The number of the task that waits in a slot. -/
def taskIn? (s : Session) (slot : String) : Option Nat :=
  match s.slots.lookup slot with
  | some (.task number _) => some number
  | some (.thread _) | none => none

theorem taskIn?_eq_some_iff {slot : String} {n : Nat} :
    s.taskIn? slot = some n ↔ ∃ deadline, s.slots.lookup slot = some (.task n deadline) := by
  unfold taskIn?
  generalize s.slots.lookup slot = held
  rcases held with _ | ⟨number, deadline⟩ | number <;> simp

/-! ## Abandoning a slot -/

section Abandon

variable (s : Session) (slot : String)

@[simp]
theorem abandon_slots : (s.abandon slot).slots = s.slots.filter (·.1 != slot) := by
  unfold abandon
  split
  · rfl
  · rfl
  · next absent => exact (List.filter_key_eq_self absent).symm

theorem abandon_vacant : (s.abandon slot).slots.lookup slot = none := by
  rw [abandon_slots, List.lookup_filter_key, if_pos rfl]

theorem abandon_gate : (s.abandon slot).barrier.gate =
    match s.taskIn? slot with
    | some n => s.barrier.gate.retract n
    | none => s.barrier.gate := by
  unfold abandon taskIn?
  cases s.slots.lookup slot with
  | none => rfl
  | some held => cases held <;> rfl

@[simp]
theorem abandon_clock : (s.abandon slot).clock = s.clock := by unfold abandon; split <;> rfl

@[simp]
theorem abandon_overdue : (s.abandon slot).overdue = s.overdue := by unfold abandon; split <;> rfl

@[simp]
theorem abandon_ledger : (s.abandon slot).barrier.gate.ledger = s.barrier.gate.ledger := by
  rw [abandon_gate]
  split
  · exact Gate.retract_ledger _ _
  · rfl

@[simp]
theorem abandon_lastWait : (s.abandon slot).barrier.gate.lastWait = s.barrier.gate.lastWait := by
  rw [abandon_gate]
  split
  · exact Gate.retract_lastWait _ _
  · rfl

@[simp]
theorem abandon_released : (s.abandon slot).barrier.gate.released = s.barrier.gate.released := by
  rw [abandon_gate]
  split
  · exact Gate.retract_released _ _
  · rfl

theorem abandon_undisturbed : s.barrier.Undisturbed (s.abandon slot).barrier where
  ledger := abandon_ledger s slot
  audience := by unfold abandon; split <;> rfl
  waitLimit := by unfold abandon; split <;> rfl

/-- Of the waits, only that of the abandoned task ends. -/
theorem abandon_isActive (n : Nat) : (s.abandon slot).barrier.gate.isActive n =
    (s.barrier.gate.isActive n && s.taskIn? slot != some n) := by
  rw [abandon_gate]
  cases task : s.taskIn? slot with
  | none => simp
  | some m =>
    rw [Gate.retract_isActive, Bool.eq_iff_iff]
    simp

theorem abandon_wait : (s.abandon slot).barrier.gate.wait = .idle ∨
    (s.abandon slot).barrier.gate.wait = s.barrier.gate.wait := by
  rw [abandon_gate]
  split
  · exact Gate.retract_wait_cases _ _
  · exact .inr rfl

end Abandon

/-! ## Polls -/

/-- What a poll finds out about the wait in a slot. -/
theorem poll_answer (slot : String) : (s.poll slot).1 =
    match s.slots.lookup slot with
    | none => .noSuchSlot
    | some (.thread n) =>
      if n ∈ s.barrier.gate.released then .ok
      else match s.overdue.lookup n with
        | some fault => .refused fault
        | none => .pending
    | some (.task n deadline) =>
      if n ∈ s.barrier.gate.released then .ok
      else if deadline.any (· ≤ s.clock) then
        if s.barrier.gate.isActive n then .refused (.timedOut s.barrier.gate.ledger.count) else .ok
      else .pending := by
  unfold poll
  generalize s.slots.lookup slot = held
  cases held with
  | none => rfl
  | some held =>
    cases held with
    | thread n =>
      simp only [List.contains_iff_mem]
      split
      · rfl
      · cases s.overdue.lookup n <;> rfl
    | task n deadline =>
      simp only [List.contains_iff_mem, Gate.lapse_outcome]
      split
      · rfl
      · split
        · split <;> rfl
        · rfl

/-- A poll that does not leave the wait pending abandons its slot. -/
theorem poll_session (slot : String) :
    (s.poll slot).2 = if (s.poll slot).1 = .pending then s else s.abandon slot := by
  unfold poll abandon
  cases found : s.slots.lookup slot with
  | none => simp
  | some held =>
    cases held with
    | thread n =>
      simp only
      split
      · simp
      · split <;> simp
    | task n deadline =>
      simp only
      split
      · simp
      · split
        · have decided : ∀ outcome, Answer.ofWait outcome ≠ .pending := by
            intro outcome
            cases outcome <;> nofun
          simp only [decided, if_false, Gate.lapse_gate]
          rw [show (s.withGate (s.barrier.gate.retract n)).slots.lookup slot =
            some (.task n deadline) from found]
          simp [withGate, vacate, Gate.retract_retract]
        · simp

/-! ## Starts -/

/-- The session in which the next wait has begun, in an empty slot. -/
def entered (slot : String) (held : Slot) (s : Session) : Session :=
  { s.withGate (s.barrier.gate.begun held.sleeper) with slots := s.slots ++ [(slot, held)] }

/-- The three ways in which a wait is put into a slot, which is abandoned first in any case. -/
theorem begin_cases (slot : String) {sleeper : Sleeper} {wait : Nat → Slot}
    (suits : ∀ n, (wait n).sleeper = sleeper) (s : Session) :
    let cleared := s.abandon slot
    (cleared.barrier.gate.ledger.isEmpty ∧ s.begin slot sleeper wait = (.ok, cleared)) ∨
    (cleared.barrier.gate.ledger.isEmpty = false ∧ cleared.barrier.gate.hasWaiter ∧
      s.begin slot sleeper wait = (.refused .waitActive, cleared)) ∨
    (cleared.barrier.gate.ledger.isEmpty = false ∧ cleared.barrier.gate.wait = .idle ∧
      s.begin slot sleeper wait =
        (cleared.entered slot (wait (cleared.barrier.gate.lastWait + 1))).poll slot) := by
  simp only [«begin», entered, suits]
  rcases Gate.start_cases sleeper (s.abandon slot).barrier.gate with
    ⟨empty, start⟩ | ⟨filled, busy, start⟩ | ⟨filled, idle, start⟩
  · exact .inl ⟨empty, by rw [start]⟩
  · exact .inr (.inl ⟨filled, busy, by rw [start]⟩)
  · exact .inr (.inr ⟨filled, idle, by rw [start]⟩)

theorem park_answer (slot : String) (limit : Option Nat) :
    (s.park slot limit).1 = (s.begin slot .thread .thread).1 := by
  unfold park
  simp only
  split <;> rfl

/-- Parking a thread notes at most its limit beside the start of its wait. -/
theorem park_session (slot : String) (limit : Option Nat) : ∃ limited,
    (s.park slot limit).2 = { (s.begin slot .thread .thread).2 with limited } := by
  unfold park
  simp only
  split
  · exact ⟨_, rfl⟩
  · exact ⟨_, rfl⟩

/-! ## The other steps -/

/-- A mutation makes a change of the gate and carries out what follows it, or it is refused. -/
theorem step_mutation {step : Step} (mutation : step.isMutation) :
    (∃ fault, s.step step = ⟨s, [], .refused fault⟩) ∨
    ∃ (α : Type) (value : α) (answer : α → Answer) (gate : Gate) (effects : List Effect),
      s.barrier.gate.Change gate effects ∧ (∀ value observer, answer value ≠ .panicked observer) ∧
      s.step step = s.ofOutcome answer (Barrier.perform value effects { s.barrier with gate }) := by
  cases step with
  | apply event =>
    simp only [step, Barrier.apply]
    cases applied : s.barrier.gate.apply s.now event with
    | error fault => exact .inl ⟨fault, rfl⟩
    | ok result =>
      obtain ⟨gate, effects⟩ := result
      exact .inr ⟨_, _, _, gate, effects, Gate.change_of_apply applied, by simp, rfl⟩
  | evict context =>
    exact .inr ⟨_, _, _, _, _, Gate.change_of_evict context s.barrier.gate, by simp, rfl⟩
  | evictAll =>
    exact .inr ⟨_, _, _, _, _, Gate.change_of_evictAll s.barrier.gate, by simp, rfl⟩
  | _ => cases mutation

theorem mutation_overdue {step : Step} (mutation : step.isMutation) :
    (s.step step).session.overdue = s.overdue := by
  cases step <;> first | rfl | cases mutation

theorem poll_undisturbed (slot : String) : s.barrier.Undisturbed (s.poll slot).2.barrier := by
  rw [poll_session]
  split
  · exact ⟨rfl, rfl, rfl⟩
  · exact abandon_undisturbed s slot

theorem begin_undisturbed (slot : String) {sleeper : Sleeper} {wait : Nat → Slot}
    (suits : ∀ n, (wait n).sleeper = sleeper) :
    s.barrier.Undisturbed (s.begin slot sleeper wait).2.barrier := by
  have cleared := abandon_undisturbed s slot
  rcases begin_cases slot suits s with ⟨_, outcome⟩ | ⟨_, _, outcome⟩ | ⟨_, _, outcome⟩
  · rw [outcome]
    exact cleared
  · rw [outcome]
    exact cleared
  · rw [outcome]
    obtain ⟨ledger, audience, waitLimit⟩ := poll_undisturbed slot
      (s := (s.abandon slot).entered slot (wait ((s.abandon slot).barrier.gate.lastWait + 1)))
    exact ⟨ledger.trans cleared.ledger, audience.trans cleared.audience,
      waitLimit.trans cleared.waitLimit⟩

private theorem block_undisturbed (limit : Option Nat) :
    s.barrier.Undisturbed (s.barrier.block limit).2 := by
  unfold Barrier.block
  rcases Gate.start_cases .thread s.barrier.gate with ⟨_, start⟩ | ⟨_, _, start⟩ | ⟨_, _, start⟩
  · simp only [start]
    exact ⟨rfl, rfl, rfl⟩
  · simp only [start]
    exact ⟨rfl, rfl, rfl⟩
  · simp only [start]
    split
    · exact ⟨rfl, rfl, rfl⟩
    · exact ⟨Gate.rouse_ledger _ _, rfl, rfl⟩

private theorem timeUp_undisturbed (number : Nat) :
    s.barrier.Undisturbed (s.timeUp number).barrier := by
  have ledger := Gate.rouse_ledger s.barrier.gate number
  unfold timeUp
  split
  · split
    · next roused =>
      rw [roused] at ledger
      exact ⟨ledger, rfl, rfl⟩
    · next roused =>
      rw [roused] at ledger
      exact ⟨ledger, rfl, rfl⟩
  · exact ⟨rfl, rfl, rfl⟩

/-- Of the barrier, a quiet step changes the waits at most, and it calls nobody back. -/
theorem step_undisturbed {step : Step} (quiet : step.isQuiet) :
    s.barrier.Undisturbed (s.step step).session.barrier ∧ (s.step step).log = [] := by
  cases step with
  | apply | evict | evictAll | feed | observe | unobserve => cases quiet
  | poll slot => exact ⟨poll_undisturbed slot, rfl⟩
  | drop slot => exact ⟨abandon_undisturbed s slot, rfl⟩
  | wait slot => exact ⟨begin_undisturbed slot fun _ => rfl, rfl⟩
  | park slot limit =>
    obtain ⟨limited, session⟩ := park_session slot limit (s := s)
    simp only [Session.step, quietly, session]
    exact ⟨begin_undisturbed slot fun _ => rfl, trivial⟩
  | block limit => exact ⟨block_undisturbed limit, rfl⟩
  | timeUp number => exact ⟨timeUp_undisturbed number, rfl⟩
  | _ => exact ⟨⟨rfl, rfl, rfl⟩, rfl⟩

/-- The limit of a barrier never changes. -/
theorem step_waitLimit {step : Step} (single : step.isSingle) :
    (s.step step).session.barrier.waitLimit = s.barrier.waitLimit := by
  by_cases mutation : step.isMutation
  · rcases step_mutation mutation (s := s) with
      ⟨_, refused⟩ | ⟨_, value, _, gate, effects, _, _, changed⟩
    · rw [refused]
    · rw [changed]
      exact Barrier.perform_waitLimit value effects { s.barrier with gate }
  · cases step with
    | feed => cases single
    | apply | evict | evictAll => exact absurd rfl mutation
    | observe | unobserve => rfl
    | _ => exact (step_undisturbed rfl).1.waitLimit

end Session

end Quiescence
