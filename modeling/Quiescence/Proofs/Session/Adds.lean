import Quiescence.Proofs.Barrier.Adds
import Quiescence.Proofs.Session.Move

/-! # Sessions with one more wait

Two runs are compared that differ in one wait which only one of them makes. While this wait lasts,
nobody else can wait; once it is over, and no slot holds it any more, every step has the same answer
and makes the same callbacks in both.
-/

namespace Quiescence

/-- The wait in a slot under its new number. -/
def Slot.renumber (k : Nat) : Slot → Slot
  | .task number deadline => .task (Quiescence.renumber k number) deadline
  | .thread number => .thread (Quiescence.renumber k number)

/-- The step when there is one more wait, whose number is `k`. -/
def Step.renumber (k : Nat) : Step → Step
  | .timeUp number => .timeUp (Quiescence.renumber k number)
  | x => x

/-- Steps that only look at the barrier. -/
def Step.isQuestion : Step → Bool
  | .isOpen _ | .usesContext _ | .isEmpty | .rows | .describe | .waitLimit => true
  | _ => false

@[simp]
theorem Slot.number_renumber (k : Nat) (held : Slot) :
    (held.renumber k).number = Quiescence.renumber k held.number := by cases held <;> rfl

@[simp]
theorem Slot.sleeper_renumber (k : Nat) (held : Slot) :
    (held.renumber k).sleeper = held.sleeper := by cases held <;> rfl

theorem Slot.renumber_of_lt {k : Nat} {held : Slot} (early : held.number < k) :
    held.renumber k = held := by
  cases held with
  | task number deadline => exact congrArg (Slot.task · deadline) (Quiescence.renumber_of_lt early)
  | thread number => exact congrArg Slot.thread (Quiescence.renumber_of_lt early)

namespace Session

variable {s more : Session} {k : Nat} {slot : String} {x : Step}

/-! ## Steps in one piece -/

@[simp]
theorem abandon_limited (s : Session) (slot : String) : (s.abandon slot).limited = s.limited := by
  unfold abandon
  split <;> rfl

theorem abandon_of_vacant (vacant : s.slots.lookup slot = none) : s.abandon slot = s := by
  simp only [abandon, vacant]

theorem poll_of_vacant (vacant : s.slots.lookup slot = none) :
    s.poll slot = (.noSuchSlot, s) := by
  simp only [poll, vacant]

theorem begin_eq (slot : String) {sleeper : Sleeper} {wait : Nat → Slot}
    (suits : ∀ n, (wait n).sleeper = sleeper) (s : Session) :
    let cleared := s.abandon slot
    let gate := cleared.barrier.gate
    s.begin slot sleeper wait =
      if gate.ledger.isEmpty then (.ok, cleared)
      else if gate.hasWaiter then (.refused .waitActive, cleared)
      else (cleared.entered slot (wait (gate.lastWait + 1))).poll slot := by
  intro cleared gate
  rcases begin_cases slot suits s with
    ⟨empty, outcome⟩ | ⟨filled, busy, outcome⟩ | ⟨filled, idle, outcome⟩
  · rw [if_pos empty, outcome]
  · rw [if_neg (Bool.eq_false_iff.mp filled), if_pos busy, outcome]
  · have free := Gate.hasWaiter_eq_false_iff.mpr idle
    rw [if_neg (Bool.eq_false_iff.mp filled), if_neg (Bool.eq_false_iff.mp free), outcome]

/-- Either an attempt to wait leaves its slot empty, or the next wait is in it and goes on. -/
theorem begin_settles (s : Session) (slot : String) {sleeper : Sleeper} (wait : Nat → Slot)
    (suits : ∀ n, (wait n).sleeper = sleeper) :
    ((s.begin slot sleeper wait).1 ≠ .pending ∧
      (s.begin slot sleeper wait).2.slots.lookup slot = none) ∨
    ((s.begin slot sleeper wait).1 = .pending ∧ (s.abandon slot).barrier.gate.wait = .idle ∧
      (s.begin slot sleeper wait).2 =
        (s.abandon slot).entered slot (wait (s.barrier.gate.lastWait + 1))) := by
  rcases begin_cases slot suits s with ⟨_, outcome⟩ | ⟨_, _, outcome⟩ | ⟨_, idle, outcome⟩
  · rw [outcome]
    exact .inl ⟨nofun, abandon_vacant s slot⟩
  · rw [outcome]
    exact .inl ⟨nofun, abandon_vacant s slot⟩
  · rw [abandon_lastWait] at outcome
    rw [outcome, poll_session]
    split
    · next pending => exact .inr ⟨pending, idle, rfl⟩
    · next decided => exact .inl ⟨decided, abandon_vacant _ slot⟩

/-- An attempt to wait leaves nothing else in its slot than the wait that has begun. -/
theorem begin_lookup {sleeper : Sleeper} {wait : Nat → Slot} {held : Slot}
    (suits : ∀ n, (wait n).sleeper = sleeper) (numbered : ∀ n, (wait n).number = n)
    (found : (s.begin slot sleeper wait).2.slots.lookup slot = some held) :
    held.number = s.barrier.gate.lastWait + 1 ∧
      (s.begin slot sleeper wait).2.barrier.gate.lastWait = held.number := by
  rcases begin_settles s slot wait suits with ⟨_, vacant⟩ | ⟨_, _, session⟩
  · rw [vacant] at found
    cases found
  · rw [session, lookup_entered (abandon_vacant s slot)] at found
    obtain rfl := Option.some.inj found
    rw [numbered, session]
    exact ⟨rfl, congrArg (· + 1) (abandon_lastWait s slot)⟩

theorem block_eq (b : Barrier) (limit : Option Nat) : b.block limit =
    if b.gate.ledger.isEmpty then (.ok, b)
    else if b.gate.hasWaiter then (.refused .waitActive, b)
    else
      let number := b.gate.lastWait + 1
      let begun := b.gate.begun .thread
      match limit.or b.waitLimit with
      | none => (.stuck, { b with gate := begun })
      | some _ => (.ofWait (begun.rouse number).1, { b with gate := (begun.rouse number).2 }) := by
  unfold Barrier.block
  generalize limit.or b.waitLimit = time
  rcases Gate.start_cases .thread b.gate with
    ⟨empty, start⟩ | ⟨filled, busy, start⟩ | ⟨filled, idle, start⟩
  · rw [start, if_pos empty]
  · rw [start, if_neg (Bool.eq_false_iff.mp filled), if_pos busy]
  · have free := Gate.hasWaiter_eq_false_iff.mpr idle
    cases time with
    | none => rw [start, if_neg (Bool.eq_false_iff.mp filled), if_neg (Bool.eq_false_iff.mp free)]
    | some => rw [start, if_neg (Bool.eq_false_iff.mp filled), if_neg (Bool.eq_false_iff.mp free)]

theorem timeUp_eq (number : Nat) (s : Session) : s.timeUp number =
    if number ∈ s.limited ∧ number ∈ s.barrier.gate.parked then
      { s.withGate (s.barrier.gate.rouse number).2 with
        overdue := s.overdue ++
          if s.barrier.gate.isActive number then
            [(number, .timedOut s.barrier.gate.ledger.count)]
          else [] }
    else s := by
  have outcome := Gate.rouse_outcome s.barrier.gate number
  rw [Gate.lapse_outcome] at outcome
  simp only [timeUp, Bool.and_eq_true, List.contains_iff_mem]
  split
  · cases roused : s.barrier.gate.rouse number with
    | mk result gate =>
      rw [roused] at outcome
      cases active : s.barrier.gate.isActive number with
      | true =>
        rw [active] at outcome
        obtain rfl : result = .error (.timedOut s.barrier.gate.ledger.count) := outcome
        rfl
      | false =>
        rw [active] at outcome
        obtain rfl : result = .ok () := outcome
        simp [withGate]
  · rfl

/-- Whoever looks at a barrier sees what is open, whether anybody waits, and the limit. -/
theorem question_congr {other : Session} (asks : x.isQuestion)
    (ledger : other.barrier.gate.ledger = s.barrier.gate.ledger)
    (waiter : other.barrier.gate.hasWaiter = s.barrier.gate.hasWaiter)
    (waitLimit : other.barrier.waitLimit = s.barrier.waitLimit) :
    (other.step x).answer = (s.step x).answer := by
  have described : other.barrier.describe = s.barrier.describe := by
    unfold Barrier.describe
    rw [ledger, waiter, waitLimit]
  cases x with
  | isOpen h => exact congrArg (fun ledger : Ledger => Answer.flag (ledger.contains h)) ledger
  | usesContext context =>
    exact congrArg (fun ledger : Ledger => Answer.flag (ledger.usesContext context)) ledger
  | isEmpty => exact congrArg (fun ledger : Ledger => Answer.flag ledger.isEmpty) ledger
  | rows => exact congrArg (fun ledger : Ledger => Answer.rows ledger.rows) ledger
  | describe => exact congrArg Answer.text described
  | waitLimit => exact congrArg Answer.limit waitLimit
  | _ => cases asks

/-! ## One more wait -/

/-- The session `more` has everything that `s` has, and a wait of number `k` in addition. -/
structure Adds (more : Session) (k : Nat) (s : Session) : Prop where
  barrier : more.barrier.Adds k s.barrier
  clock : more.clock = s.clock
  slots : ∀ slot, (more.slots.lookup slot).filter (·.number != k) =
    (s.slots.lookup slot).map (Slot.renumber k)
  limited : ∀ n, renumber k n ∈ more.limited ↔ n ∈ s.limited
  overdue : ∀ n, more.overdue.lookup (renumber k n) = s.overdue.lookup n

namespace Adds

theorem vacant_of_own (adds : more.Adds k s) {held : Slot}
    (found : more.slots.lookup slot = some held) (own : held.number = k) :
    s.slots.lookup slot = none := by
  have same := adds.slots slot
  rw [found, Option.filter_some, if_neg (by simpa using own)] at same
  exact Option.map_eq_none_iff.mp same.symm

/-- A slot holds the additional wait, or it holds the same wait in both sessions. -/
theorem lookup_cases (adds : more.Adds k s) (slot : String) :
    (∃ held, more.slots.lookup slot = some held ∧ held.number = k ∧ s.slots.lookup slot = none) ∨
    more.slots.lookup slot = (s.slots.lookup slot).map (Slot.renumber k) := by
  have same := adds.slots slot
  cases found : more.slots.lookup slot with
  | none => exact .inr (by simpa [found] using same)
  | some held =>
    by_cases own : held.number = k
    · exact .inl ⟨held, rfl, own, adds.vacant_of_own found own⟩
    · rw [found, Option.filter_some, if_pos (by simpa using own)] at same
      exact .inr same

theorem abandon (adds : more.Adds k s) (slot : String) :
    (more.abandon slot).Adds k (s.abandon slot) := by
  have undisturbed := abandon_undisturbed s slot
  have undisturbedMore := abandon_undisturbed more slot
  have gate : (more.abandon slot).barrier.gate.Adds k (s.abandon slot).barrier.gate := by
    rw [abandon_gate, abandon_gate]
    unfold taskIn?
    rcases adds.lookup_cases slot with ⟨held, found, rfl, vacant⟩ | same
    · rw [found, vacant]
      cases held with
      | task number deadline => exact adds.barrier.gate.retract_own
      | thread number => exact adds.barrier.gate
    · rw [same]
      cases s.slots.lookup slot with
      | none => exact adds.barrier.gate
      | some held =>
        cases held with
        | task number deadline => exact adds.barrier.gate.retract number
        | thread number => exact adds.barrier.gate
  refine ⟨⟨gate, ?_, ?_⟩, ?_, fun name => ?_, fun n => ?_, fun n => ?_⟩
  · rw [undisturbed.audience, undisturbedMore.audience, adds.barrier.audience]
  · rw [undisturbed.waitLimit, undisturbedMore.waitLimit, adds.barrier.waitLimit]
  · rw [abandon_clock, abandon_clock, adds.clock]
  · rw [abandon_slots, abandon_slots, List.lookup_filter_key, List.lookup_filter_key]
    split
    · rfl
    · exact adds.slots name
  · rw [abandon_limited, abandon_limited, adds.limited]
  · rw [abandon_overdue, abandon_overdue, adds.overdue]

theorem poll (adds : more.Adds k s) (slot : String) :
    (more.poll slot).2.Adds k (s.poll slot).2 ∧
      ((∀ held, more.slots.lookup slot = some held → held.number ≠ k) →
        (more.poll slot).1 = (s.poll slot).1) := by
  rcases adds.lookup_cases slot with ⟨held, found, own, vacant⟩ | same
  · refine ⟨?_, fun others => absurd own (others held found)⟩
    have abandoned := adds.abandon slot
    rw [abandon_of_vacant vacant] at abandoned
    rw [poll_of_vacant vacant, poll_session]
    split
    · exact adds
    · exact abandoned
  · have answer : (more.poll slot).1 = (s.poll slot).1 := by
      rw [poll_answer, poll_answer, same]
      cases s.slots.lookup slot with
      | none => rfl
      | some held =>
        have gate := adds.barrier.gate
        cases held with
        | thread n =>
          simp only [Option.map_some, Slot.renumber, gate.released, adds.overdue]
        | task n deadline =>
          simp only [Option.map_some, Slot.renumber, gate.released, gate.isActive, gate.ledger,
            adds.clock]
    refine ⟨?_, fun _ => answer⟩
    rw [poll_session, poll_session, answer]
    split
    · exact adds
    · exact adds.abandon slot

theorem entered (adds : more.Adds k s) (held : Slot) (vacant : s.slots.lookup slot = none)
    (vacantMore : more.slots.lookup slot = none) :
    (more.entered slot (held.renumber k)).Adds k (s.entered slot held) := by
  refine ⟨⟨?_, adds.barrier.audience, adds.barrier.waitLimit⟩, adds.clock, fun name => ?_,
    adds.limited, adds.overdue⟩
  · have gate := adds.barrier.gate.begin held.sleeper
    have task := Slot.sleeper_renumber k held
    simp only [Session.entered, withGate, task]
    exact gate
  · simp only [Session.entered, List.lookup_append]
    by_cases own : name = slot
    · subst own
      simp [vacant, vacantMore]
    · have other := adds.slots name
      simpa [List.lookup_cons, beq_false_of_ne own] using other

/-- Once the additional wait is over, attempts to wait go alike. -/
theorem begin (adds : more.Adds k s) (past : more.barrier.gate.isActive k = false) (slot : String)
    {sleeper : Sleeper} {wait : Nat → Slot} (suits : ∀ n, (wait n).sleeper = sleeper)
    (renumbered : ∀ n, (wait n).renumber k = wait (renumber k n)) :
    (more.begin slot sleeper wait).2.Adds k (s.begin slot sleeper wait).2 ∧
      (more.begin slot sleeper wait).1 = (s.begin slot sleeper wait).1 := by
  have abandoned := adds.abandon slot
  have past : (more.abandon slot).barrier.gate.isActive k = false := by
    rw [abandon_isActive, past, Bool.false_and]
  have vacant := abandon_vacant s slot
  have vacantMore := abandon_vacant more slot
  rw [begin_eq slot suits, begin_eq slot suits]
  generalize s.abandon slot = cleared at *
  generalize more.abandon slot = clearedMore at *
  have gate := abandoned.barrier.gate
  simp only [gate.ledger, gate.hasWaiter past]
  split
  · exact ⟨abandoned, rfl⟩
  · split
    · exact ⟨abandoned, rfl⟩
    · rw [gate.next, ← renumbered]
      have entered :=
        abandoned.entered (wait (cleared.barrier.gate.lastWait + 1)) vacant vacantMore
      obtain ⟨polled, answer⟩ := entered.poll slot
      refine ⟨polled, answer fun held found => ?_⟩
      rw [lookup_entered vacantMore] at found
      obtain rfl := Option.some.inj found
      simp

theorem park (adds : more.Adds k s) (past : more.barrier.gate.isActive k = false) (slot : String)
    (limit : Option Nat) :
    (more.park slot limit).2.Adds k (s.park slot limit).2 ∧
      (more.park slot limit).1 = (s.park slot limit).1 := by
  have suits : ∀ n, (Slot.thread n).sleeper = .thread := fun _ => rfl
  obtain ⟨begun, answer⟩ := adds.begin past slot suits fun _ => rfl
  have fresh : ∀ held, (more.begin slot .thread .thread).2.slots.lookup slot = some held →
      held.number ≠ k := by
    intro held found
    have number := (begin_lookup suits (fun _ => rfl) found).1
    have below := adds.barrier.gate.begun
    omega
  have same : (more.begin slot .thread .thread).2.slots.lookup slot =
      ((s.begin slot .thread .thread).2.slots.lookup slot).map (Slot.renumber k) := by
    rcases begun.lookup_cases slot with ⟨held, found, own, _⟩ | same
    · exact absurd own (fresh held found)
    · exact same
  refine ⟨?_, by rw [park_answer, park_answer, answer]⟩
  simp only [Session.park, same, adds.barrier.waitLimit]
  cases (s.begin slot .thread .thread).2.slots.lookup slot with
  | none => exact begun
  | some held =>
    cases held with
    | task number deadline => exact begun
    | thread number =>
      cases limit.or s.barrier.waitLimit with
      | none => exact begun
      | some time =>
        refine ⟨begun.barrier, begun.clock, begun.slots, fun n => ?_, begun.overdue⟩
        simp [Slot.renumber, begun.limited]

theorem block (adds : more.Adds k s) (past : more.barrier.gate.isActive k = false)
    (limit : Option Nat) :
    (more.barrier.block limit).2.Adds k (s.barrier.block limit).2 ∧
      (more.barrier.block limit).1 = (s.barrier.block limit).1 := by
  have barrier := adds.barrier
  rw [block_eq, block_eq]
  simp only [barrier.gate.ledger, barrier.gate.hasWaiter past, barrier.waitLimit]
  split
  · exact ⟨barrier, rfl⟩
  · split
    · exact ⟨barrier, rfl⟩
    · have begun := barrier.gate.begin .thread
      rw [barrier.gate.next]
      split
      · exact ⟨⟨begun, barrier.audience, rfl⟩, rfl⟩
      · refine ⟨⟨begun.rouse _, barrier.audience, rfl⟩, ?_⟩
        rw [Gate.rouse_outcome, Gate.rouse_outcome, begun.lapse]

theorem timeUp (adds : more.Adds k s) (n : Nat) :
    (more.timeUp (renumber k n)).Adds k (s.timeUp n) := by
  have barrier := adds.barrier
  have called : renumber k n ∈ more.limited ∧ renumber k n ∈ more.barrier.gate.parked ↔
      n ∈ s.limited ∧ n ∈ s.barrier.gate.parked :=
    and_congr (adds.limited n) (barrier.gate.parked n)
  rw [timeUp_eq, timeUp_eq]
  by_cases sleeps : n ∈ s.limited ∧ n ∈ s.barrier.gate.parked
  · rw [if_pos sleeps, if_pos (called.mpr sleeps)]
    refine ⟨⟨barrier.gate.rouse n, barrier.audience, barrier.waitLimit⟩, adds.clock, adds.slots,
      adds.limited, fun m => ?_⟩
    simp only [barrier.gate.isActive, barrier.gate.ledger, List.lookup_append, adds.overdue]
    split
    · by_cases same : m = n
      · simp [same]
      · have differ : renumber k m ≠ renumber k n := mt renumber_inj.mp same
        simp [List.lookup_cons, beq_false_of_ne same, beq_false_of_ne differ]
    · rfl
  · rw [if_neg sleeps, if_neg (mt called.mp sleeps)]
    exact adds

/-- The thread of the additional wait may run out of time. -/
theorem timeUp_own (adds : more.Adds k s) : (more.timeUp k).Adds k s := by
  have barrier := adds.barrier
  rw [timeUp_eq]
  split
  · refine ⟨⟨barrier.gate.rouse_own, barrier.audience, barrier.waitLimit⟩, adds.clock, adds.slots,
      adds.limited, fun m => ?_⟩
    have other : (renumber k m == k) = false := beq_false_of_ne renumber_ne
    simp only [List.lookup_append, adds.overdue]
    split
    · simp [List.lookup_cons, other]
    · simp
  · exact adds

end Adds

/-! ## Steps -/

/-- The wait of this number has begun and is over, and no slot holds it. -/
structure Forgets (more : Session) (k : Nat) : Prop where
  begun : k ≤ more.barrier.gate.lastWait
  past : more.barrier.gate.isActive k = false
  unheld : ∀ held ∈ more.slots, held.2.number ≠ k

theorem Adds.lookup_of_forgets (adds : more.Adds k s) (forgets : more.Forgets k) (slot : String) :
    more.slots.lookup slot = (s.slots.lookup slot).map (Slot.renumber k) := by
  rcases adds.lookup_cases slot with ⟨held, found, own, _⟩ | same
  · exact absurd own (forgets.unheld _ (List.mem_of_lookup_eq_some found))
  · exact same

/-- A change begins no wait. -/
theorem isActive_of_change {n : Nat} (changes : x.isQuiet = false)
    (active : (more.step x).session.barrier.gate.isActive n) : more.barrier.gate.isActive n := by
  by_cases mutation : x.isMutation
  · rcases step_mutation mutation (s := more) with
      ⟨_, refused⟩ | ⟨_, value, _, gate, effects, change, _, changed⟩
    · rwa [refused] at active
    · rw [changed, Session.ofOutcome, Barrier.perform_isActive] at active
      rcases change.wait_cases with idle | same
      · rw [Gate.isActive_of_idle idle] at active
        cases active
      · rwa [← Gate.isActive_congr same]
  · cases x with
    | apply | evict | evictAll => exact absurd rfl mutation
    | feed capacity events =>
      rw [step_feed_session] at active
      exact Barrier.isActive_of_drainQueue active
    | observe | unobserve => exact active
    | _ => cases changes

/-- The turn `more` leaves a wait of number `k` in addition, and is as the other one apart from
this. -/
structure Turn.Adds (more : Turn) (k : Nat) (turn : Turn) : Prop where
  session : more.session.Adds k turn.session
  answer : more.answer = turn.answer
  log : more.session.barrier.gate.isActive k = false → more.log = turn.log

namespace Adds

theorem ofOutcome {α : Type} (adds : more.Adds k s) {outcomeMore outcome : Outcome α}
    (went : outcomeMore.Adds k outcome) (answer : α → Answer) :
    (more.ofOutcome answer outcomeMore).Adds k (s.ofOutcome answer outcome) where
  session := ⟨went.barrier, adds.clock, adds.slots, adds.limited, adds.overdue⟩
  answer := by simp only [Session.ofOutcome, went.reply]
  log := went.log

/-- Changes go alike unless they release the additional wait. -/
theorem change (adds : more.Adds k s) (changes : x.isQuiet = false)
    (kept : more.barrier.gate.isActive k → (more.step x).session.barrier.gate.isActive k) :
    (more.step x).Adds k (s.step x) := by
  have barrier := adds.barrier
  have now : more.now = s.now := by simp only [Session.now, adds.clock]
  cases x with
  | apply event =>
    have went := adds.ofOutcome (barrier.apply more.now event kept) fun _ => Answer.ok
    have same : s.step (.apply event) =
        s.ofOutcome (fun _ => .ok) (s.barrier.apply more.now event) := by
      rw [now]
      rfl
    rw [same]
    exact went
  | evict context => exact adds.ofOutcome (barrier.evict context kept) .names
  | evictAll => exact adds.ofOutcome (barrier.evictAll kept) .handles
  | feed capacity events =>
    rcases Nat.lt_or_ge mostRoom capacity with large | fits
    · rw [step_feed_of_large large, step_feed_of_large large]
      exact ⟨adds, rfl, fun _ => rfl⟩
    · rw [step_feed_of_fits fits] at kept
      have kept : more.barrier.gate.isActive k →
          (more.barrier.drainQueue more.now events ⟨0, 0⟩).barrier.gate.isActive k := kept
      have went := adds.ofOutcome (barrier.drainQueue more.now events ⟨0, 0⟩ kept) .fed
      rw [step_feed_of_fits fits, step_feed_of_fits fits, ← now]
      exact ⟨went.session, congrArg Answer.ofFeed went.answer, went.log⟩
  | observe observer reactions =>
    refine ⟨⟨⟨barrier.gate, ?_, barrier.waitLimit⟩, adds.clock, adds.slots, adds.limited,
      adds.overdue⟩, rfl, fun _ => rfl⟩
    exact congrArg (Audience.register observer reactions) barrier.audience
  | unobserve observer =>
    refine ⟨⟨⟨barrier.gate, ?_, barrier.waitLimit⟩, adds.clock, adds.slots, adds.limited,
      adds.overdue⟩, ?_, fun _ => rfl⟩
    · exact congrArg (Audience.remove observer) barrier.audience
    · exact congrArg (fun a : Audience => Answer.flag (a.listens observer)) barrier.audience
  | _ => cases changes

/-- Whoever looks at the barrier sees the same, once the additional wait is over. -/
theorem question (adds : more.Adds k s) (past : more.barrier.gate.isActive k = false)
    (asks : x.isQuestion) : (more.step (x.renumber k)).answer = (s.step x).answer := by
  have gate := adds.barrier.gate
  have same : x.renumber k = x := by cases x <;> first | rfl | cases asks
  rw [same]
  exact question_congr asks gate.ledger (gate.hasWaiter past) adds.barrier.waitLimit

theorem step (adds : more.Adds k s) (x : Step)
    (kept : more.barrier.gate.isActive k → x.isWait = false ∧
      (x.isQuiet = false → (more.step x).session.barrier.gate.isActive k)) :
    (more.step (x.renumber k)).session.Adds k (s.step x).session ∧
      (more.Forgets k → (more.step (x.renumber k)).answer = (s.step x).answer ∧
        (more.step (x.renumber k)).log = (s.step x).log) := by
  have barrier := adds.barrier
  have past (waits : x.isWait) : more.barrier.gate.isActive k = false := by
    refine Bool.eq_false_iff.mpr fun active => ?_
    rw [(kept active).1] at waits
    cases waits
  cases x with
  | apply | evict | evictAll | feed | observe | unobserve =>
    obtain ⟨session, answer, log⟩ := adds.change rfl fun active => (kept active).2 rfl
    refine ⟨session, fun forgets => ⟨answer, log (Bool.eq_false_iff.mpr fun active => ?_)⟩⟩
    have before := isActive_of_change rfl active
    rw [forgets.past] at before
    cases before
  | wait slot limit =>
    have suits : ∀ n, (Slot.task n ((limit.or s.barrier.waitLimit).map (s.clock + ·))).sleeper =
      .task := fun _ => rfl
    obtain ⟨session, answer⟩ := adds.begin (past rfl) slot suits fun _ => rfl
    simp only [Step.renumber, Session.step, quietly, barrier.waitLimit, adds.clock]
    exact ⟨session, fun _ => ⟨answer, trivial⟩⟩
  | park slot limit =>
    obtain ⟨session, answer⟩ := adds.park (past rfl) slot limit
    exact ⟨session, fun _ => ⟨answer, rfl⟩⟩
  | block limit =>
    obtain ⟨parked, answer⟩ := adds.block (past rfl) limit
    exact ⟨⟨parked, adds.clock, adds.slots, adds.limited, adds.overdue⟩, fun _ => ⟨answer, rfl⟩⟩
  | poll slot =>
    obtain ⟨session, answer⟩ := adds.poll slot
    refine ⟨session, fun forgets => ⟨answer fun held found => ?_, rfl⟩⟩
    exact forgets.unheld _ (List.mem_of_lookup_eq_some found)
  | drop slot =>
    refine ⟨adds.abandon slot, fun forgets => ⟨?_, rfl⟩⟩
    have found := adds.lookup_of_forgets forgets slot
    simp only [Step.renumber, Session.step, found, Option.isSome_map]
  | timeUp number => exact ⟨adds.timeUp number, fun _ => ⟨rfl, rfl⟩⟩
  | advance ms =>
    exact ⟨⟨barrier, congrArg (· + ms) adds.clock, adds.slots, adds.limited, adds.overdue⟩,
      fun _ => ⟨rfl, rfl⟩⟩
  | isOpen | usesContext | isEmpty | rows | describe | waitLimit =>
    exact ⟨adds, fun forgets => ⟨adds.question forgets.past rfl, rfl⟩⟩

end Adds

end Session

end Quiescence
