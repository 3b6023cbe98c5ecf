import Quiescence.Proofs.Barrier.Parks
import Quiescence.Proofs.Session.Feeding

/-! # Sessions where a thread waits instead of a task

Two runs are compared that differ in one untimed wait: a task makes it in the first run and a thread
in the second. As long as no step takes the slot of this wait away before the wait is over, every
step that ends without a panic has the same answer and makes the same callbacks in both.
-/

namespace Quiescence

/-- The wait in a slot, which a thread makes if it has this number. -/
def Slot.park (n : Nat) : Slot → Slot
  | .task number deadline => if number = n then .thread number else .task number deadline
  | .thread number => .thread number

theorem Slot.park_of_ne {n : Nat} {held : Slot} (differ : held.number ≠ n) :
    held.park n = held := by
  cases held with
  | task => exact if_neg differ
  | thread => rfl

namespace Session

variable {s other : Session} {slot : String} {n : Nat} {x : Step}

/-- In the session `other` an untimed wait, that of number `n`, is a thread's, where in `s` it is a
task's. -/
structure Parks (other : Session) (n : Nat) (s : Session) : Prop where
  barrier : other.barrier.Parks n s.barrier
  prompt : other.barrier.gate.Prompt n
  clock : other.clock = s.clock
  slots : ∀ slot, other.slots.lookup slot = (s.slots.lookup slot).map (Slot.park n)
  limited : other.limited = s.limited
  overdue : other.overdue = s.overdue
  untimed : ∀ slot deadline, s.slots.lookup slot = some (.task n deadline) → deadline = none
  unlimited : n ∉ s.limited
  intime : s.overdue.lookup n = none

/-- The turn `other` leaves a thread in the place of a task, and is as the other one apart from
this. -/
structure Turn.Parks (other : Turn) (n : Nat) (turn : Turn) : Prop where
  session : other.session.Parks n turn.session
  answer : other.answer = turn.answer
  log : other.log = turn.log

namespace Parks

/-! ## Waits that begin and end -/

/-- A slot may be abandoned unless the compared task still waits there. -/
theorem abandon (parks : other.Parks n s) (slot : String)
    (spared : s.taskIn? slot = some n → s.barrier.gate.isActive n = false) :
    (other.abandon slot).Parks n (s.abandon slot) := by
  have undisturbed := abandon_undisturbed s slot
  have undisturbedOther := abandon_undisturbed other slot
  have gate : (other.abandon slot).barrier.gate.Parks n (s.abandon slot).barrier.gate ∧
      (other.abandon slot).barrier.gate.Prompt n := by
    have same := And.intro parks.barrier.gate parks.prompt
    unfold taskIn? at spared
    rw [abandon_gate, abandon_gate, taskIn?, taskIn?, parks.slots]
    cases found : s.slots.lookup slot with
    | none => exact same
    | some held =>
      cases held with
      | thread number => exact same
      | task number deadline =>
        by_cases own : number = n
        · subst own
          rw [found] at spared
          simpa [Slot.park, Gate.retract_eq_self (spared rfl)] using same
        · simp only [Option.map_some, Slot.park, if_neg own]
          exact ⟨parks.barrier.gate.retract own, parks.prompt.retract own⟩
  refine ⟨⟨gate.1, ?_, ?_⟩, gate.2, ?_, fun name => ?_, ?_, ?_, fun name deadline => ?_, ?_, ?_⟩
  · rw [undisturbed.audience, undisturbedOther.audience, parks.barrier.audience]
  · rw [undisturbed.waitLimit, undisturbedOther.waitLimit, parks.barrier.waitLimit]
  · rw [abandon_clock, abandon_clock, parks.clock]
  · rw [abandon_slots, abandon_slots, List.lookup_filter_key, List.lookup_filter_key]
    split
    · rfl
    · exact parks.slots name
  · rw [abandon_limited, abandon_limited, parks.limited]
  · rw [abandon_overdue, abandon_overdue, parks.overdue]
  · rw [abandon_slots, List.lookup_filter_key]
    split
    · nofun
    · exact parks.untimed name deadline
  · rw [abandon_limited]
    exact parks.unlimited
  · rw [abandon_overdue]
    exact parks.intime

/-- A poll finds out the same about every wait, the compared one included. -/
theorem poll_answer (parks : other.Parks n s) (slot : String) :
    (other.poll slot).1 = (s.poll slot).1 := by
  have gate := parks.barrier.gate
  have released := gate.released_iff parks.prompt
  rw [Session.poll_answer, Session.poll_answer, parks.slots]
  cases found : s.slots.lookup slot with
  | none => rfl
  | some held =>
    cases held with
    | thread number => simp only [Option.map_some, Slot.park, released, parks.overdue]
    | task number deadline =>
      by_cases own : number = n
      · subst own
        obtain rfl := parks.untimed slot deadline found
        simp [Slot.park, released, parks.overdue, parks.intime]
      · simp only [Option.map_some, Slot.park, if_neg own, released, gate.isActive, gate.ledger,
          parks.clock]

theorem poll (parks : other.Parks n s) (sound : s.Sound) (slot : String) :
    (other.poll slot).2.Parks n (s.poll slot).2 := by
  rw [poll_session, poll_session, parks.poll_answer]
  split
  · exact parks
  · next decided =>
    refine parks.abandon slot fun task => Bool.eq_false_iff.mpr fun active => decided ?_
    -- without a deadline, the task has been woken, and then it is not active any more
    obtain ⟨deadline, found⟩ := taskIn?_eq_some_iff.mp task
    obtain rfl := parks.untimed slot deadline found
    exact (sound.poll_active found active).trans (if_neg nofun)

theorem entered (parks : other.Parks n s) (idle : s.barrier.gate.wait = .idle) {held : Slot}
    (number : held.number = s.barrier.gate.lastWait + 1) (vacant : s.slots.lookup slot = none) :
    (other.entered slot held).Parks n (s.entered slot held) := by
  have gate := parks.barrier.gate
  have differ : held.number ≠ n := by
    have begun := gate.begun
    omega
  have begun : n ≤ other.barrier.gate.lastWait := gate.lastWait ▸ gate.begun
  refine ⟨⟨gate.begin idle held.sleeper, parks.barrier.audience, parks.barrier.waitLimit⟩,
    parks.prompt.begin begun (gate.idle idle) held.sleeper, parks.clock, fun name => ?_,
    parks.limited, parks.overdue, fun name deadline found => ?_, parks.unlimited, parks.intime⟩
  · simp only [Session.entered, List.lookup_append, parks.slots]
    by_cases own : name = slot
    · subst own
      simp [vacant, Slot.park_of_ne differ]
    · simp [List.lookup_cons, beq_false_of_ne own]
  · simp only [Session.entered, List.lookup_append] at found
    by_cases own : name = slot
    · subst own
      simp only [vacant, List.lookup_cons_self, Option.none_or, Option.some.injEq] at found
      exact absurd (congrArg Slot.number found) differ
    · refine parks.untimed name deadline ?_
      simpa [List.lookup_cons, beq_false_of_ne own] using found

/-- The next wait begins alike in both sessions, or is turned away alike. -/
theorem begin (parks : other.Parks n s) (sound : s.Sound) (slot : String)
    (spared : s.taskIn? slot = some n → s.barrier.gate.isActive n = false) {sleeper : Sleeper}
    {wait : Nat → Slot} (suits : ∀ n, (wait n).sleeper = sleeper)
    (numbered : ∀ n, (wait n).number = n) :
    (other.begin slot sleeper wait).2.Parks n (s.begin slot sleeper wait).2 ∧
      (other.begin slot sleeper wait).1 = (s.begin slot sleeper wait).1 := by
  have abandoned := parks.abandon slot spared
  have sound := sound.abandon slot
  have vacant := abandon_vacant s slot
  rw [begin_eq slot suits, begin_eq slot suits]
  generalize s.abandon slot = cleared at *
  generalize other.abandon slot = clearedOther at *
  have gate := abandoned.barrier.gate
  simp only [gate.ledger, gate.hasWaiter, gate.lastWait]
  split
  · exact ⟨abandoned, rfl⟩
  · next filled =>
    split
    · exact ⟨abandoned, rfl⟩
    · next free =>
      have idle := Gate.hasWaiter_eq_false_iff.mp (Bool.eq_false_iff.mpr free)
      have number := numbered (cleared.barrier.gate.lastWait + 1)
      have entered := abandoned.entered idle number vacant
      have next : (cleared.entered slot (wait (cleared.barrier.gate.lastWait + 1))).Sound :=
        sound.seat (Bool.eq_false_iff.mpr filled) (.taken vacant number) rfl rfl rfl
      exact ⟨entered.poll next slot, entered.poll_answer slot⟩

theorem park (parks : other.Parks n s) (sound : s.Sound) (slot : String) (limit : Option Nat)
    (spared : s.taskIn? slot = some n → s.barrier.gate.isActive n = false) :
    (other.park slot limit).2.Parks n (s.park slot limit).2 ∧
      (other.park slot limit).1 = (s.park slot limit).1 := by
  have suits : ∀ n, (Slot.thread n).sleeper = .thread := fun _ => rfl
  obtain ⟨begun, answer⟩ := parks.begin sound slot spared suits fun _ => rfl
  have last := parks.barrier.gate.begun
  have fresh (held : Slot)
      (found : (s.begin slot .thread .thread).2.slots.lookup slot = some held) :
      held.number ≠ n := by
    have number := (begin_lookup suits (fun _ => rfl) found).1
    omega
  refine ⟨?_, by rw [park_answer, park_answer, answer]⟩
  simp only [Session.park, begun.slots, parks.barrier.waitLimit]
  cases found : (s.begin slot .thread .thread).2.slots.lookup slot with
  | none => exact begun
  | some held =>
    have differ := fresh held found
    rw [Option.map_some, Slot.park_of_ne differ]
    cases held with
    | task number deadline => exact begun
    | thread number =>
      cases limit.or s.barrier.waitLimit with
      | none => exact begun
      | some time =>
        refine { begun with limited := ?_, unlimited := ?_ }
        · rw [begun.limited]
        · rw [List.mem_append, List.mem_singleton, not_or]
          exact ⟨begun.unlimited, Ne.symm differ⟩

theorem block (parks : other.Parks n s) (limit : Option Nat) :
    (other.barrier.block limit).2.Parks n (s.barrier.block limit).2 ∧
      (other.barrier.block limit).2.gate.Prompt n ∧
      (other.barrier.block limit).1 = (s.barrier.block limit).1 := by
  have barrier := parks.barrier
  have gate := barrier.gate
  have differ : s.barrier.gate.lastWait + 1 ≠ n := by
    have begun := gate.begun
    omega
  rw [block_eq, block_eq]
  simp only [gate.ledger, gate.hasWaiter, gate.lastWait, barrier.waitLimit]
  split
  · exact ⟨barrier, parks.prompt, rfl⟩
  · split
    · exact ⟨barrier, parks.prompt, rfl⟩
    · next free =>
      have idle := Gate.hasWaiter_eq_false_iff.mp (Bool.eq_false_iff.mpr free)
      have begun := gate.begin idle .thread
      have prompt := parks.prompt.begin (gate.lastWait ▸ gate.begun) (gate.idle idle) .thread
      split
      · exact ⟨⟨begun, barrier.audience, rfl⟩, prompt, rfl⟩
      · refine ⟨⟨begun.rouse differ, barrier.audience, rfl⟩, prompt.rouse differ, ?_⟩
        rw [Gate.rouse_outcome, Gate.rouse_outcome, begun.lapse]

/-- No time is ever up for the compared thread, and for the others alike in both sessions. -/
theorem timeUp (parks : other.Parks n s) (m : Nat) : (other.timeUp m).Parks n (s.timeUp m) := by
  have barrier := parks.barrier
  rw [timeUp_eq, timeUp_eq, parks.limited]
  by_cases sleeps : m ∈ s.limited ∧ m ∈ s.barrier.gate.parked
  · have own : m ≠ n := fun same => parks.unlimited (same ▸ sleeps.1)
    rw [if_pos sleeps, if_pos ⟨sleeps.1, (barrier.gate.parked m own).mpr sleeps.2⟩]
    refine ⟨⟨barrier.gate.rouse own, barrier.audience, barrier.waitLimit⟩, parks.prompt.rouse own,
      parks.clock, parks.slots, parks.limited, ?_, parks.untimed, parks.unlimited, ?_⟩
    · simp only [parks.overdue, barrier.gate.isActive, barrier.gate.ledger]
    · simp only [List.lookup_append, parks.intime, Option.none_or]
      split
      · simp [List.lookup_cons, beq_false_of_ne (Ne.symm own)]
      · rfl
  · have asleep : ¬ (m ∈ s.limited ∧ m ∈ other.barrier.gate.parked) := by
      rintro ⟨limited, slept⟩
      have own : m ≠ n := fun same => parks.unlimited (same ▸ limited)
      exact sleeps ⟨limited, (barrier.gate.parked m own).mp slept⟩
    rw [if_neg sleeps, if_neg asleep]
    exact parks

/-! ## Steps -/

/-- Whoever looks at the barrier sees the same in both sessions. -/
theorem question (parks : other.Parks n s) (asks : x.isQuestion) :
    (other.step x).Parks n (s.step x) := by
  have gate := parks.barrier.gate
  have answer := question_congr asks gate.ledger gate.hasWaiter parks.barrier.waitLimit
  cases x with
  | isOpen | usesContext | isEmpty | rows | describe | waitLimit => exact ⟨parks, answer, rfl⟩
  | _ => cases asks

end Parks

/-- An operation that ends without a panic leaves no thread asleep whose wait it has ended. -/
theorem prompt_of_mutation (mutation : x.isMutation) (prompt : s.barrier.gate.Prompt n)
    (calm : (s.step x).answer.isPanic = false) : (s.step x).session.barrier.gate.Prompt n := by
  rcases step_mutation mutation (s := s) with
    ⟨_, refused⟩ | ⟨_, value, answer, gate, effects, change, _, changed⟩
  · rw [refused]
    exact prompt
  · rw [changed] at calm ⊢
    rcases Barrier.perform_reply value effects { s.barrier with gate } with done | ⟨_, panicked⟩
    · exact Barrier.prompt_of_perform change prompt done
    · simp [ofOutcome, panicked, Answer.isPanic] at calm

namespace Parks

/-- An operation goes alike in both sessions if it does on their barriers, unless an observer
panics. -/
private theorem of_outcome (parks : other.Parks n s) (mutation : x.isMutation)
    (calm : (s.step x).answer.isPanic = false) {α : Type} {answer : α → Answer}
    {outcomeOther outcome : Outcome α} (went : outcomeOther.Parks n outcome)
    (stepOther : other.step x = other.ofOutcome answer outcomeOther)
    (step : s.step x = s.ofOutcome answer outcome) : (other.step x).Parks n (s.step x) := by
  have same : (other.step x).answer = (s.step x).answer := by
    rw [stepOther, step]
    simp only [Session.ofOutcome, went.reply]
  have prompt := prompt_of_mutation mutation parks.prompt (by rw [same, calm])
  rw [stepOther] at prompt same ⊢
  rw [step] at same ⊢
  exact ⟨{ parks with barrier := went.barrier, prompt := prompt }, same, went.log⟩

theorem mutation (parks : other.Parks n s) (mutation : x.isMutation)
    (calm : (s.step x).answer.isPanic = false) : (other.step x).Parks n (s.step x) := by
  have barrier := parks.barrier
  have now : other.now = s.now := by simp only [Session.now, parks.clock]
  cases x with
  | apply event =>
    exact parks.of_outcome mutation calm (barrier.apply s.now event) (by rw [← now]; rfl) rfl
  | evict context => exact parks.of_outcome mutation calm (barrier.evict context) rfl rfl
  | evictAll => exact parks.of_outcome mutation calm barrier.evictAll rfl rfl
  | _ => cases mutation

theorem step_single (parks : other.Parks n s) (sound : s.Sound) (single : x.isSingle)
    (calm : (s.step x).answer.isPanic = false)
    (spared : s.barrier.gate.isActive n → s.displaces x n = false) :
    (other.step x).Parks n (s.step x) := by
  have barrier := parks.barrier
  have gate := barrier.gate
  have past {slot : String} (displaces : x.displaces? = some slot)
      (task : s.taskIn? slot = some n) : s.barrier.gate.isActive n = false := by
    refine Bool.eq_false_iff.mpr fun active => ?_
    have kept := spared active
    simp [Session.displaces, displaces, task] at kept
  cases x with
  | feed => cases single
  | apply | evict | evictAll => exact parks.mutation rfl calm
  | observe observer reactions =>
    refine ⟨{ parks with barrier := ⟨gate, ?_, barrier.waitLimit⟩ }, rfl, rfl⟩
    exact congrArg (Audience.register observer reactions) barrier.audience
  | unobserve observer =>
    refine ⟨{ parks with barrier := ⟨gate, ?_, barrier.waitLimit⟩ }, ?_, rfl⟩
    · exact congrArg (Audience.remove observer) barrier.audience
    · exact congrArg (fun a : Audience => Answer.flag (a.listens observer)) barrier.audience
  | isOpen | usesContext | isEmpty | rows | describe | waitLimit => exact parks.question rfl
  | wait slot limit =>
    have suits : ∀ n, (Slot.task n ((limit.or s.barrier.waitLimit).map (s.clock + ·))).sleeper =
      .task := fun _ => rfl
    obtain ⟨session, answer⟩ := parks.begin sound slot (past rfl) suits fun _ => rfl
    simp only [Session.step, quietly, barrier.waitLimit, parks.clock]
    exact ⟨session, answer, rfl⟩
  | park slot limit =>
    obtain ⟨session, answer⟩ := parks.park sound slot limit (past rfl)
    exact ⟨session, answer, rfl⟩
  | block limit =>
    obtain ⟨parked, prompt, answer⟩ := parks.block limit
    exact ⟨{ parks with barrier := parked, prompt := prompt }, answer, rfl⟩
  | poll slot => exact ⟨parks.poll sound slot, parks.poll_answer slot, rfl⟩
  | drop slot =>
    refine ⟨parks.abandon slot (past rfl), ?_, rfl⟩
    simp only [Session.step, parks.slots, Option.isSome_map]
  | timeUp number => exact ⟨parks.timeUp number, rfl, rfl⟩
  | advance ms =>
    refine ⟨{ parks with clock := ?_ }, rfl, rfl⟩
    exact congrArg (· + ms) parks.clock

/-- Events go alike, one after the other. -/
theorem applies (parks : other.Parks n s) (sound : s.Sound) {events : List Event}
    (calm : s.Calm (events.map .apply)) :
    (other.after (events.map .apply)).Parks n (s.after (events.map .apply)) ∧
      other.answers (events.map .apply) = s.answers (events.map .apply) ∧
      other.callbacks (events.map .apply) = s.callbacks (events.map .apply) := by
  induction events generalizing s other with
  | nil => exact ⟨parks, rfl, rfl⟩
  | cons event rest ih =>
    obtain ⟨gentle, others⟩ := List.forall_mem_cons.mp calm
    have spared (_ : s.barrier.gate.isActive n) : s.displaces (.apply event) n = false :=
      displaces_eq_false rfl n
    obtain ⟨session, answer, log⟩ := parks.step_single sound rfl gentle spared
    obtain ⟨after, answers, callbacks⟩ := ih session (sound.step rfl) others
    refine ⟨after, ?_, ?_⟩
    · rw [List.map_cons, Session.answers, Session.answers, answer, answers]
    · rw [List.map_cons, Session.callbacks, Session.callbacks, log, callbacks]

/-- Every step that ends without a panic goes alike in both sessions, unless it takes the slot away
from the compared task. -/
theorem step (parks : other.Parks n s) (sound : s.Sound)
    (calm : (s.step x).answer.isPanic = false)
    (spared : s.barrier.gate.isActive n → s.displaces x n = false) :
    (other.step x).Parks n (s.step x) := by
  cases x with
  | feed capacity events =>
    rcases Nat.lt_or_ge mostRoom capacity with large | fits
    · rw [step_feed_of_large large, step_feed_of_large large]
      exact ⟨parks, rfl, rfl⟩
    · have whole : s.Calm (events.map .apply) := by
        by_contra uneasy
        obtain ⟨prior, event, rest, rfl, early, panics⟩ := exists_first_panic uneasy
        rw [feed_of_panic early panics fits] at calm
        cases calm
      obtain ⟨after, answers, callbacks⟩ := parks.applies sound whole
      have wholeOther : other.Calm (events.map .apply) := by
        rw [Calm, answers]
        exact whole
      rw [feed_of_calm whole fits, feed_of_calm wholeOther fits]
      exact ⟨after, by rw [answers], callbacks⟩
  | _ => exact parks.step_single sound rfl calm spared

end Parks

end Session

end Quiescence
