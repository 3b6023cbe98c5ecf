import Quiescence.Barrier.Feed

/-! # A queue delivers its events one by one

How much room a queue has decides only how often the consumer gets to empty it. The barrier sees the
events in the order in which they were put in, and a panic is the end: the event at which it happens
is the last one that arrives.
-/

namespace Quiescence

/-! ## Queues that can be made -/

namespace Room

variable {capacity : Nat}

theorem ofCapacity?_eq_none_iff : ofCapacity? capacity = none ↔ mostRoom < capacity := by
  rw [ofCapacity?, dite_eq_right_iff]
  unfold mostRoom
  simp only [reduceCtorEq, imp_false]
  omega

theorem exists_ofCapacity? (fits : capacity ≤ mostRoom) :
    ∃ room, ofCapacity? capacity = some room :=
  Option.ne_none_iff_exists'.mp fun none => Nat.not_lt.mpr fits (ofCapacity?_eq_none_iff.mp none)

theorem size_of_ofCapacity? {room : Room} (made : ofCapacity? capacity = some room) :
    room.size = max capacity 1 := by
  unfold ofCapacity? at made
  split at made <;> cases made
  rfl

end Room

namespace Barrier

variable {now : Moment}

/-! ## What arrives -/

/-- The events that arrive: all of them, or those up to the first one at which an observer
panics. -/
def arriving (now : Moment) : List Event → Barrier → List Event
  | [], _ => []
  | event :: rest, b =>
    let outcome := b.apply now event
    match outcome.reply with
    | .panicked _ => [event]
    | .done () | .refused _ => event :: arriving now rest outcome.barrier

theorem drainQueue_append (first second : List Event) (report : FeedReport) (b : Barrier) :
    b.drainQueue now (first ++ second) report =
      let front := b.drainQueue now first report
      match front.reply with
      | .done counted =>
        let back := front.barrier.drainQueue now second counted
        { back with log := front.log ++ back.log }
      | .refused _ | .panicked _ => front := by
  induction first generalizing report b with
  | nil => rfl
  | cons event rest ih =>
    simp only [List.cons_append, drainQueue]
    cases ended : (b.apply now event).reply with
    | panicked observer => rfl
    | done _ | refused _ =>
      simp only [ih]
      generalize (b.apply now event).barrier.drainQueue now rest _ = middle
      obtain ⟨barrier, log, reply⟩ := middle
      cases reply with
      | done counted => simp only [List.append_assoc]
      | refused _ | panicked _ => rfl

/-- Room in the queue makes no difference. -/
theorem feedThrough_eq_drainQueue (room : Nat) (events queued : List Event) (report : FeedReport)
    (b : Barrier) :
    b.feedThrough now room events queued report = b.drainQueue now (queued ++ events) report := by
  induction events generalizing queued report b with
  | nil => rw [feedThrough, List.append_nil]
  | cons event rest ih =>
    unfold feedThrough
    split
    · rw [ih, List.append_assoc, List.singleton_append]
    · rw [drainQueue_append]
      cases ended : (b.drainQueue now queued report).reply with
      | done counted => simp only [ended, ih, List.singleton_append]
      | refused _ | panicked _ => simp only [ended]

theorem feed_eq_drainQueue (room : Room) (events : List Event) (b : Barrier) :
    b.feed now room events = b.drainQueue now events ⟨0, 0⟩ :=
  feedThrough_eq_drainQueue _ events [] _ b

theorem drainQueue_barrier (events : List Event) (report : FeedReport) (b : Barrier) :
    (b.drainQueue now events report).barrier =
      (b.arriving now events).foldl (fun b event => (b.apply now event).barrier) b := by
  induction events generalizing report b with
  | nil => rfl
  | cons event rest ih =>
    simp only [drainQueue, arriving]
    cases ended : (b.apply now event).reply with
    | panicked observer => rfl
    | done _ | refused _ => exact ih _ _

/-- The callbacks of some events that are applied one after the other. -/
def callbacks (now : Moment) : List Event → Barrier → List Callback
  | [], _ => []
  | event :: rest, b =>
    (b.apply now event).log ++ callbacks now rest (b.apply now event).barrier

theorem drainQueue_log (events : List Event) (report : FeedReport) (b : Barrier) :
    (b.drainQueue now events report).log = b.callbacks now (b.arriving now events) := by
  induction events generalizing report b with
  | nil => rfl
  | cons event rest ih =>
    simp only [drainQueue, arriving]
    cases ended : (b.apply now event).reply with
    | panicked observer => simp only [callbacks, List.append_nil]
    | done _ | refused _ => simp only [callbacks, ih]

/-- A feed calls back what the arriving events call back. -/
theorem feed_log (room : Room) (events : List Event) (b : Barrier) :
    (b.feed now room events).log = b.callbacks now (b.arriving now events) := by
  rw [feed_eq_drainQueue, drainQueue_log]

/-- What a feed makes of a barrier is what the arriving events make of it, one after the other. -/
theorem feed_barrier (room : Room) (events : List Event) (b : Barrier) :
    (b.feed now room events).barrier =
      (b.arriving now events).foldl (fun b event => (b.apply now event).barrier) b := by
  rw [feed_eq_drainQueue, drainQueue_barrier]

end Barrier

end Quiescence
