import Quiescence.Barrier

/-! # Feeding a barrier

Events can be handed to a barrier through a queue of bounded room: a producer puts them in as long
as there is room and otherwise waits until the consumer has emptied the queue. The consumer applies
the events in the order in which they were put in, counts the refused ones and goes on; a panicking
observer ends it for good. Nobody can make a queue with more room than a semaphore has permits.
-/

namespace Quiescence

/-- The most events that a queue can have room for. -/
def mostRoom : Nat := 2305843009213693951

/-- For how many events a queue has room. -/
structure Room where
  size : Nat
  pos : 0 < size
  le_most : size ≤ mostRoom
deriving DecidableEq

namespace Room

/-- The room of a queue of this capacity, if there can be such a queue. A capacity of zero is raised
to one. -/
def ofCapacity? (capacity : Nat) : Option Room :=
  if fits : max capacity 1 ≤ mostRoom then
    some ⟨max capacity 1, Nat.lt_of_lt_of_le Nat.one_pos (Nat.le_max_right capacity 1), fits⟩
  else none

/-- The words of the panic in which an attempt to make a queue with more room ends. -/
def panicMessage : String :=
  "a semaphore may not have more than MAX_PERMITS permits (" ++ toString mostRoom ++ ")"

end Room

/-- How many events were accepted and how many were refused. -/
structure FeedReport where
  applied : Nat
  rejected : Nat
deriving DecidableEq

namespace Barrier

/-- Applies queued events in order, and counts on from `report`. -/
def drainQueue (now : Moment) : List Event → FeedReport → Barrier → Outcome FeedReport
  | [], report, b => ⟨b, [], .done report⟩
  | event :: rest, report, b =>
    let first := b.apply now event
    match first.reply with
    | .panicked observer => ⟨first.barrier, first.log, .panicked observer⟩
    | .done () =>
      let later := drainQueue now rest { report with applied := report.applied + 1 } first.barrier
      { later with log := first.log ++ later.log }
    | .refused _ =>
      let later := drainQueue now rest { report with rejected := report.rejected + 1 } first.barrier
      { later with log := first.log ++ later.log }

/-- Puts events into a queue with room for `room`, which holds `queued` already, and lets the
consumer empty it whenever it is full and at the end. -/
def feedThrough (now : Moment) (room : Nat) :
    List Event → List Event → FeedReport → Barrier → Outcome FeedReport
  | [], queued, report, b => b.drainQueue now queued report
  | event :: rest, queued, report, b =>
    if queued.length < room then feedThrough now room rest (queued ++ [event]) report b
    else
      let first := b.drainQueue now queued report
      match first.reply with
      | .done report =>
        let later := feedThrough now room rest [event] report first.barrier
        { later with log := first.log ++ later.log }
      | .refused _ | .panicked _ => first

/-- Hands events to the barrier through a queue. -/
def feed (now : Moment) (room : Room) (events : List Event) (b : Barrier) : Outcome FeedReport :=
  feedThrough now room.size events [] ⟨0, 0⟩ b

end Barrier

end Quiescence
