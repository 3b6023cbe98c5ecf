import Quiescence.Proofs.Barrier.Records
import Quiescence.Proofs.Session.Account

/-! # The last event wins

As long as nothing is closed by force and nobody panics, the events of a run decide everything about
the handles, however they are fed and whatever else happens beside them: an event is accepted or
refused by what the latest event before it did to its handle, and in the end a handle is open if it
was opened last.
-/

namespace Quiescence

/-- Whether a step closes handles without an event. -/
def Step.isForced : Step → Bool
  | .evict _ | .evictAll => true
  | _ => false

/-- Whether a request was refused. -/
def Answer.isRefusal : Answer → Bool
  | .refused _ => true
  | _ => false

/-- The answer to an event. -/
def Answer.ofFault? : Option Fault → Answer
  | none => .ok
  | some fault => .refused fault

namespace Session

variable {s : Session} {x : Step} {steps : List Step} {past : Past}

theorem flatMap_events_applies (events : List Event) :
    (events.map Step.apply).flatMap Step.events = events := by
  induction events with
  | nil => rfl
  | cons event rest ih => exact congrArg (event :: ·) ih

/-- What a step leaves in the ledger is what its events say. -/
theorem step_records (records : s.barrier.gate.ledger.Records past) (unforced : x.isForced = false)
    (calm : (s.step x).answer.isPanic = false) :
    (s.step x).session.barrier.gate.ledger.Records (past ++ x.events) := by
  cases x with
  | evict | evictAll => cases unforced
  | apply event => exact (Barrier.apply_records records s.now event).1
  | feed capacity events =>
    rw [step_feed_session]
    exact (Barrier.drainQueue_records records (drainQueue_ne_panicked calm)).2.1
  | observe | unobserve => exact (List.append_nil past).symm ▸ records
  | _ =>
    rw [(step_undisturbed rfl).1.ledger]
    exact (List.append_nil past).symm ▸ records

theorem after_records (records : s.barrier.gate.ledger.Records past)
    (unforced : ∀ x ∈ steps, x.isForced = false) (calm : s.Calm steps) :
    (s.after steps).barrier.gate.ledger.Records (past ++ steps.flatMap Step.events) := by
  induction steps generalizing s past with
  | nil => rwa [List.flatMap_nil, List.append_nil]
  | cons x rest ih =>
    obtain ⟨gentle, others⟩ := List.forall_mem_cons.mp unforced
    obtain ⟨now, later⟩ := List.forall_mem_cons.mp calm
    rw [List.flatMap_cons, ← List.append_assoc]
    exact ih (step_records records gentle now) others later

/-- Every event of a run arrives, in its order. -/
theorem operations_events (records : s.barrier.gate.ledger.Records past)
    (unforced : ∀ x ∈ steps, x.isForced = false) (calm : s.Calm steps) :
    (s.operations steps).flatMap Step.events = steps.flatMap Step.events ∧
      ∀ x ∈ s.operations steps, x.isForced = false := by
  induction steps generalizing s past with
  | nil => exact ⟨rfl, nofun⟩
  | cons x rest ih =>
    obtain ⟨gentle, others⟩ := List.forall_mem_cons.mp unforced
    obtain ⟨now, later⟩ := List.forall_mem_cons.mp calm
    obtain ⟨arrived, forced⟩ := ih (step_records records gentle now) others later
    have parts : (s.parts x).flatMap Step.events = x.events ∧
        ∀ y ∈ s.parts x, y.isForced = false := by
      cases x with
      | evict | evictAll => cases gentle
      | feed capacity events =>
        obtain ⟨arrive, _⟩ := Barrier.drainQueue_records records (drainQueue_ne_panicked now)
        rw [Session.parts, arrive]
        refine ⟨flatMap_events_applies _, fun y member => ?_⟩
        obtain ⟨event, _, rfl⟩ := List.mem_map.mp member
        rfl
      | _ => exact ⟨List.append_nil _, fun y member => List.mem_singleton.mp member ▸ rfl⟩
    rw [operations, List.flatMap_append, arrived, parts.1]
    exact ⟨rfl, fun y member => (List.mem_append.mp member).elim (parts.2 y) (forced y)⟩

/-- The answer to an event, unless an observer panics. -/
theorem answer_apply (records : s.barrier.gate.ledger.Records past) {event : Event}
    (calm : (s.step (.apply event)).answer.isPanic = false) :
    (s.step (.apply event)).answer = .ofFault? (past.fault? event) := by
  have answer := (Barrier.apply_records records s.now event).2
  cases verdict : past.fault? event with
  | some fault =>
    simp only [verdict] at answer
    simp only [step, ofOutcome, answer, Answer.ofFault?]
  | none =>
    simp only [verdict] at answer
    rcases answer with reply | ⟨observer, reply⟩
    · simp only [step, ofOutcome, reply, Answer.ofFault?]
    · simp [step, ofOutcome, reply, Answer.isPanic] at calm

theorem answer_feed (records : s.barrier.gate.ledger.Records past) {capacity : Nat}
    (fits : capacity ≤ mostRoom) {events : List Event}
    (calm : (s.step (.feed capacity events)).answer.isPanic = false) :
    ∃ report, (s.step (.feed capacity events)).answer = .fed report ∧
      report.applied = (past.accepted events).length ∧
      report.applied + report.rejected = events.length := by
  have quiet := drainQueue_ne_panicked calm
  rw [Step.events, if_pos fits] at quiet
  obtain ⟨_, _, counted, reply, applied, total⟩ := Barrier.drainQueue_records records quiet
  refine ⟨counted, ?_, ?_, ?_⟩
  · simp only [step_feed_of_fits fits, ofOutcome, reply, Answer.ofFeed]
  · simpa using applied
  · simpa using total

/-- Without forced closes and panics, the events before an event decide whether it is accepted, and
all of them decide what is open and modified in the end. -/
theorem last_event_wins (limit : Option Nat) (steps : List Step)
    (unforced : ∀ x ∈ steps, x.isForced = false) (calm : (new limit).Calm steps) :
    let operations := (new limit).operations steps
    let past : Past := steps.flatMap Step.events
    let ledger := ((new limit).after steps).barrier.gate.ledger
    operations.flatMap Step.events = past ∧
    (∀ prior event rest, operations = prior ++ Step.apply event :: rest →
      (((new limit).after prior).step (.apply event)).answer =
        .ofFault? (Past.fault? (prior.flatMap Step.events) event)) ∧
    (∀ prior capacity events rest, steps = prior ++ Step.feed capacity events :: rest →
      capacity ≤ mostRoom →
      ∃ report, (((new limit).after prior).step (.feed capacity events)).answer = .fed report ∧
        report.applied = (Past.accepted (prior.flatMap Step.events) events).length ∧
        report.applied + report.rejected = events.length) ∧
    (∀ h, ledger.contains h ↔ past.isOpen h) ∧
    (∀ h, (∃ entry, ledger.entry? h = some entry ∧ entry.modifiedAt.isSome) ↔ past.isMarked h) ∧
    ledger.count + (Past.accepted [] past).countP (·.kind = .closed) =
      (Past.accepted [] past).countP (·.kind = .opened) := by
  intro operations past ledger
  have fresh : (new limit).barrier.gate.ledger.Records [] := Ledger.records_empty
  obtain ⟨arrive, gentle⟩ := operations_events fresh unforced calm
  have records : ledger.Records past := after_records fresh unforced calm
  refine ⟨arrive, fun prior event rest split => ?_, fun prior capacity events rest split fits => ?_,
    fun h => ?_, fun h => (records.isMarked_iff h).symm, records.count⟩
  · have whole := calm.operations
    rw [show (new limit).operations steps = _ from split] at gentle whole
    obtain ⟨early, late⟩ := calm_append.mp whole
    have before := after_records fresh (List.forall_mem_append.mp gentle).1 early
    exact answer_apply before (List.forall_mem_cons.mp late).1
  · rw [split] at unforced calm
    obtain ⟨early, late⟩ := calm_append.mp calm
    have before := after_records fresh (List.forall_mem_append.mp unforced).1 early
    exact answer_feed before fits (List.forall_mem_cons.mp late).1
  · rw [records.contains_eq]

/-- In the middle of a feed a handle is reported open a second time, which is refused. It is closed
and opened anew, and is not modified any more. -/
theorem handle_reopened_in_feed :
    let h : Handle := ⟨"A", "x"⟩
    let start : List Step := [.observe "p" {}, .apply ⟨.opened, h⟩, .wait "t" none]
    let events : List Event := [⟨.modified, h⟩, ⟨.opened, h⟩, ⟨.closed, h⟩, ⟨.opened, h⟩]
    let middle := (new none).after (start ++ [Step.apply ⟨.modified, h⟩])
    let last := ((new none).after (start ++ [Step.feed 1 events])).barrier.gate.ledger
    (new none).Calm (start ++ [Step.feed 1 events]) ∧
      (middle.step (.apply ⟨.opened, h⟩)).answer = .refused (.alreadyOpen h) ∧
      last.contains h ∧ ¬ ∃ entry, last.entry? h = some entry ∧ entry.modifiedAt.isSome := by
  intro h start events middle last
  have answers : (new none).answers (start ++ [Step.feed 1 events]) =
      [.ok, .ok, .pending, .fed ⟨3, 1⟩] := by
    decide
  have calm : (new none).Calm (start ++ [Step.feed 1 events]) := by
    rw [Calm, answers]
    decide
  have arrive : ((new none).after start).barrier.arriving ((new none).after start).now
      (Step.feed 1 events).events = events := by decide
  have operations : (new none).operations (start ++ [Step.feed 1 events]) =
      (start ++ [Step.apply ⟨.modified, h⟩]) ++
        Step.apply ⟨.opened, h⟩ :: [Step.apply ⟨.closed, h⟩, Step.apply ⟨.opened, h⟩] := by
    rw [operations_append]
    exact congrArg (fun arrived => start ++ (arrived.map Step.apply ++ [])) arrive
  obtain ⟨_, verdict, _, contains, marked, _⟩ :=
    last_event_wins none (start ++ [Step.feed 1 events]) (by decide) calm
  refine ⟨calm, ?_, (contains h).mpr (by decide), fun modified => ?_⟩
  · rw [verdict _ _ _ operations]
    decide
  · exact absurd ((marked h).mp modified) (by decide)

end Session

end Quiescence
