import Quiescence.Proofs.Barrier.Delivery

/-! # A queue may be emptied at any pace

How producers and the consumer of a queue take turns is left to chance: an event can be put in
whenever there is room, and the consumer can take the first one out whenever there is one. As long
as there is room for one event at all, every way in which they take turns comes to an end, and they
all end alike.
-/

namespace Quiescence

/-- The report after one more event; there is none if an observer panicked. -/
def FeedReport.count? (report : FeedReport) : Reply Unit → Option FeedReport
  | .done () => some { report with applied := report.applied + 1 }
  | .refused _ => some { report with rejected := report.rejected + 1 }
  | .panicked _ => none

namespace Barrier

variable {now : Moment} {room : Nat}

/-- The ways in which events get through a queue with room for `room`, which holds `queued`
already. -/
inductive Feeds (now : Moment) (room : Nat) :
    List Event → List Event → FeedReport → Barrier → Outcome FeedReport → Prop
  /-- Everything has been put in and taken out. -/
  | finished {report : FeedReport} {b : Barrier} :
      Feeds now room [] [] report b ⟨b, [], .done report⟩
  /-- There is room for the next event. -/
  | put {event : Event} {rest queued : List Event} {report : FeedReport} {b : Barrier}
      {outcome : Outcome FeedReport} (fits : queued.length < room)
      (later : Feeds now room rest (queued ++ [event]) report b outcome) :
      Feeds now room (event :: rest) queued report b outcome
  /-- The consumer takes the first event out. -/
  | took {event : Event} {events queued : List Event} {report counted : FeedReport} {b : Barrier}
      {outcome : Outcome FeedReport}
      (counts : report.count? (b.apply now event).reply = some counted)
      (later : Feeds now room events queued counted (b.apply now event).barrier outcome) :
      Feeds now room events (event :: queued) report b
        { outcome with log := (b.apply now event).log ++ outcome.log }
  /-- An observer panics when the consumer takes the first event out. -/
  | broke {event : Event} {events queued : List Event} {report : FeedReport} {b : Barrier}
      {observer : String} (panicked : (b.apply now event).reply = .panicked observer) :
      Feeds now room events (event :: queued) report b
        ⟨(b.apply now event).barrier, (b.apply now event).log, .panicked observer⟩

theorem drainQueue_of_count {event : Event} {report counted : FeedReport} {b : Barrier}
    (counts : report.count? (b.apply now event).reply = some counted) (rest : List Event) :
    b.drainQueue now (event :: rest) report =
      let later := (b.apply now event).barrier.drainQueue now rest counted
      { later with log := (b.apply now event).log ++ later.log } := by
  simp only [drainQueue]
  cases reply : (b.apply now event).reply with
  | panicked => simp [reply, FeedReport.count?] at counts
  | done | refused =>
    rw [reply] at counts
    obtain rfl := Option.some.inj counts
    rfl

theorem drainQueue_of_panic {event : Event} {report : FeedReport} {b : Barrier} {observer : String}
    (panicked : (b.apply now event).reply = .panicked observer) (rest : List Event) :
    b.drainQueue now (event :: rest) report =
      ⟨(b.apply now event).barrier, (b.apply now event).log, .panicked observer⟩ := by
  simp only [drainQueue, panicked]

variable {events queued : List Event} {report : FeedReport} {b : Barrier}

/-- However they take turns, the consumer sees the events in the order in which they come. -/
theorem Feeds.eq_drainQueue {outcome : Outcome FeedReport}
    (feeds : Feeds now room events queued report b outcome) :
    outcome = b.drainQueue now (queued ++ events) report := by
  induction feeds with
  | finished => rfl
  | put _ _ ih => rw [ih, List.append_assoc, List.singleton_append]
  | took counts _ ih =>
    subst ih
    exact (drainQueue_of_count counts _).symm
  | broke panicked => exact (drainQueue_of_panic panicked _).symm

/-- Whatever the consumer finds behind the first event, it can take the first event out. -/
theorem feeds_take (event : Event)
    (later : ∀ (report : FeedReport) (b : Barrier),
      Feeds now room events queued report b (b.drainQueue now (queued ++ events) report))
    (report : FeedReport) (b : Barrier) :
    Feeds now room events (event :: queued) report b
      (b.drainQueue now (event :: queued ++ events) report) := by
  rw [List.cons_append]
  cases reply : (b.apply now event).reply with
  | panicked observer =>
    rw [drainQueue_of_panic reply]
    exact .broke reply
  | done | refused =>
    have counts := congrArg report.count? reply
    rw [drainQueue_of_count counts]
    exact .took counts (later _ _)

/-- A consumer that empties the queue whenever it can gets to the end. -/
theorem feeds_drainQueue (room_pos : 0 < room) (events queued : List Event) (report : FeedReport)
    (b : Barrier) :
    Feeds now room events queued report b (b.drainQueue now (queued ++ events) report) := by
  induction events generalizing queued report b with
  | nil =>
    induction queued generalizing report b with
    | nil => exact .finished
    | cons event _ taken => exact feeds_take event taken report b
  | cons next rest ih =>
    induction queued generalizing report b with
    | nil => exact .put room_pos (ih [next] report b)
    | cons event _ taken => exact feeds_take event taken report b

/-- Every pace leads to the outcome of a feed, and a feed has a pace. -/
theorem feeds_iff_feed (room : Room) (outcome : Outcome FeedReport) :
    Feeds now room.size events [] ⟨0, 0⟩ b outcome ↔ outcome = b.feed now room events := by
  rw [feed_eq_drainQueue]
  constructor
  · exact Feeds.eq_drainQueue
  · rintro rfl
    exact feeds_drainQueue room.pos events [] _ b

end Barrier

end Quiescence
