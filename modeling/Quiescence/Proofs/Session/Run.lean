import Quiescence.Session
import Quiescence.Proofs.Barrier.Delivery

/-! # Runs of a session, one operation at a time

A feed changes the barrier as often as it has events, so a run is looked at operation by operation:
every feed is taken apart into the applications of the events that arrive. The run taken apart
passes through the states in the middle of a feed and ends where the run itself ends. If there can
be no queue for a feed, no event arrives.
-/

namespace Quiescence

/-- A step that changes the barrier at most once; only a feed is not. -/
def Step.isSingle : Step → Bool
  | .feed .. => false
  | _ => true

/-- The events that a step hands to the barrier. -/
def Step.events : Step → List Event
  | .apply event => [event]
  | .feed capacity events => if capacity ≤ mostRoom then events else []
  | _ => []

/-- The answer to a feed, in which an observer may have panicked. -/
def Answer.ofFeed : Answer → Answer
  | .panicked _ => .feedPanicked
  | answer => answer

namespace Session

/-! ## Feeds -/

section Feeds

variable {capacity : Nat}

theorem step_feed_of_fits (fits : capacity ≤ mostRoom) (events : List Event) (s : Session) :
    s.step (.feed capacity events) =
      let turn := s.ofOutcome .fed (s.barrier.drainQueue s.now events ⟨0, 0⟩)
      { turn with answer := turn.answer.ofFeed } := by
  obtain ⟨room, made⟩ := Room.exists_ofCapacity? fits
  simp only [step, made, Barrier.feed_eq_drainQueue]
  generalize s.ofOutcome .fed (s.barrier.drainQueue s.now events ⟨0, 0⟩) = turn
  obtain ⟨session, log, answer⟩ := turn
  cases answer <;> rfl

theorem step_feed_of_large (large : mostRoom < capacity) (events : List Event) (s : Session) :
    s.step (.feed capacity events) = ⟨s, [], .noQueue⟩ := by
  simp only [step, Room.ofCapacity?_eq_none_iff.mpr large]
  rfl

theorem step_feed_session (capacity : Nat) (events : List Event) (s : Session) :
    (s.step (.feed capacity events)).session =
      { s with barrier :=
          (s.barrier.drainQueue s.now (Step.feed capacity events).events ⟨0, 0⟩).barrier } := by
  rcases Nat.lt_or_ge mostRoom capacity with large | fits
  · rw [step_feed_of_large large, Step.events, if_neg (Nat.not_le.mpr large)]
    rfl
  · rw [step_feed_of_fits fits, Step.events, if_pos fits]
    rfl

theorem step_feed_log (capacity : Nat) (events : List Event) (s : Session) :
    (s.step (.feed capacity events)).log =
      (s.barrier.drainQueue s.now (Step.feed capacity events).events ⟨0, 0⟩).log := by
  rcases Nat.lt_or_ge mostRoom capacity with large | fits
  · rw [step_feed_of_large large, Step.events, if_neg (Nat.not_le.mpr large)]
    rfl
  · rw [step_feed_of_fits fits, Step.events, if_pos fits]
    rfl

end Feeds

/-! ## Operations -/

/-- The session after some steps. -/
def after (s : Session) (steps : List Step) : Session := (s.run steps).1

@[simp]
theorem after_nil (s : Session) : s.after [] = s := rfl

@[simp]
theorem after_cons (s : Session) (step : Step) (rest : List Step) :
    s.after (step :: rest) = (s.step step).session.after rest := rfl

theorem after_append (s : Session) (first second : List Step) :
    s.after (first ++ second) = (s.after first).after second := by
  induction first generalizing s with
  | nil => rfl
  | cons step rest ih => exact ih _

/-- The operations that a step consists of. -/
def parts (s : Session) : Step → List Step
  | .feed capacity events =>
    (s.barrier.arriving s.now (Step.feed capacity events).events).map .apply
  | step => [step]

/-- The callbacks of some steps, in order. -/
def callbacks (s : Session) : List Step → List Callback
  | [] => []
  | step :: rest => (s.step step).log ++ (s.step step).session.callbacks rest

/-- The answers to some steps, in order. -/
def answers (s : Session) : List Step → List Answer
  | [] => []
  | step :: rest => (s.step step).answer :: (s.step step).session.answers rest

private theorem after_applies (s : Session) (events : List Event) :
    s.after (events.map .apply) =
      { s with
        barrier := events.foldl (fun b event => (b.apply s.now event).barrier) s.barrier } := by
  induction events generalizing s with
  | nil => rfl
  | cons event rest ih => exact ih _

private theorem callbacks_applies (s : Session) (events : List Event) :
    s.callbacks (events.map .apply) = s.barrier.callbacks s.now events := by
  induction events generalizing s with
  | nil => rfl
  | cons event rest ih => exact congrArg (_ ++ ·) (ih _)

/-- A feed does what the arriving events do, one after the other. -/
private theorem feed_parts (s : Session) (capacity : Nat) (events : List Event) :
    s.after (s.parts (.feed capacity events)) = (s.step (.feed capacity events)).session ∧
      s.callbacks (s.parts (.feed capacity events)) = (s.step (.feed capacity events)).log := by
  rw [step_feed_session, step_feed_log, Barrier.drainQueue_barrier, Barrier.drainQueue_log]
  exact ⟨after_applies s _, callbacks_applies s _⟩

theorem after_parts (s : Session) (step : Step) :
    s.after (s.parts step) = (s.step step).session := by
  cases step with
  | feed capacity events => exact (feed_parts s capacity events).1
  | _ => rfl

theorem callbacks_parts (s : Session) (step : Step) :
    s.callbacks (s.parts step) = (s.step step).log := by
  cases step with
  | feed capacity events => exact (feed_parts s capacity events).2
  | _ => exact List.append_nil _

/-- The operations of a run, in order. -/
def operations (s : Session) : List Step → List Step
  | [] => []
  | step :: rest => s.parts step ++ (s.step step).session.operations rest

theorem after_operations (s : Session) (steps : List Step) :
    s.after (s.operations steps) = s.after steps := by
  induction steps generalizing s with
  | nil => rfl
  | cons step rest ih => rw [operations, after_append, after_parts, ih, after_cons]

theorem callbacks_append (s : Session) (first second : List Step) :
    s.callbacks (first ++ second) = s.callbacks first ++ (s.after first).callbacks second := by
  induction first generalizing s with
  | nil => rfl
  | cons step rest ih =>
    rw [List.cons_append, callbacks, callbacks, ih, after_cons, List.append_assoc]

theorem answers_append (s : Session) (first second : List Step) :
    s.answers (first ++ second) = s.answers first ++ (s.after first).answers second := by
  induction first generalizing s with
  | nil => rfl
  | cons step rest ih =>
    rw [List.cons_append, answers, answers, ih, after_cons, List.cons_append]

theorem callbacks_operations (s : Session) (steps : List Step) :
    s.callbacks (s.operations steps) = s.callbacks steps := by
  induction steps generalizing s with
  | nil => rfl
  | cons step rest ih =>
    rw [operations, callbacks_append, callbacks_parts, after_parts, ih, callbacks]

theorem operations_append (s : Session) (first second : List Step) :
    s.operations (first ++ second) = s.operations first ++ (s.after first).operations second := by
  induction first generalizing s with
  | nil => rfl
  | cons step rest ih =>
    rw [List.cons_append, operations, operations, ih, after_cons, List.append_assoc]

theorem isSingle_of_mem_operations {s : Session} {steps : List Step} {step : Step}
    (member : step ∈ s.operations steps) : step.isSingle := by
  induction steps generalizing s with
  | nil => cases member
  | cons first rest ih =>
    rcases List.mem_append.mp member with part | later
    · cases first with
      | feed capacity events =>
        obtain ⟨event, _, rfl⟩ := List.mem_map.mp part
        rfl
      | _ => exact List.mem_singleton.mp part ▸ rfl
    · exact ih later

end Session

end Quiescence
