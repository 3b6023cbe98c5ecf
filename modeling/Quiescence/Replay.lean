import Quiescence.Barrier.Feed
import Quiescence.Script
import Quiescence.Settings
import Quiescence.Summary

/-! # Replaying a script

The events of a script are fed to a fresh barrier as they arrive, on a clock that only their delays
move; the queue is empty again before the next event arrives. Beside them a waiter may be at work.
It waits for the barrier to become empty, with the configured time limit, then sleeps until
something is opened, and waits again; the first wait that runs out of time ends its work for good.
It is a task of its own. How far it gets between two events that arrive at the same time is left
open, but the clock never moves before it has had its turn and has gone on as far as it can.
After the last event time goes on until the waiter has come to an end, unless it would wait for
ever. All this needs a queue: settings may ask for one that nobody can make.
-/

namespace Quiescence

/-- What a replay is asked to do beside applying the events. -/
structure ReplayMode where
  /-- Whether a waiter is at work. -/
  wait : Bool
  /-- Whether everything that is still open is closed in the end. -/
  forceClose : Bool
deriving DecidableEq

/-- The state of the waiter. -/
inductive Watch where
  /-- There is no waiter. -/
  | off
  /-- It is about to begin a wait. -/
  | looking
  /-- Its wait has begun, and lasts until a time on the clock if it has a limit. -/
  | waiting (number : Nat) (deadline : Option Nat)
  /-- Its wait is over, and it sleeps until something is opened or the script ends. -/
  | resting
  /-- Its wait has run out of time. -/
  | gaveUp
  /-- The script had ended, and nothing was open. -/
  | done
deriving DecidableEq

/-- A replay under way. -/
structure Replay where
  barrier : Barrier
  /-- The room of the queue through which events are fed. -/
  room : Room
  /-- The time since the replay began, in milliseconds. -/
  clock : Nat
  applied : Nat
  rejected : Nat
  watch : Watch
  /-- Whether something was opened since the waiter last heeded that. -/
  signalled : Bool
  /-- Whether the script has ended. -/
  delivered : Bool

/-- The observer that signals to the waiter that something was opened. -/
def signaller : String := "open signal"

/-- Whether the waiter is signalled in a callback. -/
def Callback.isSignal : Callback → Bool
  | .told observer (.opened _) _ => observer == signaller
  | _ => false

namespace Replay

/-- The replay before its first event. -/
def start (settings : Settings) (mode : ReplayMode) (room : Room) : Replay where
  barrier := (Barrier.new settings.barrier.waitLimit).observe signaller {}
  room
  clock := 0
  applied := 0
  rejected := 0
  watch := if mode.wait then .looking else .off
  signalled := false
  delivered := false

/-! ## The waiter -/

/-- The wait has returned without running out of time. -/
def conclude (r : Replay) : Replay :=
  { r with watch := if r.delivered && r.barrier.gate.ledger.isEmpty then .done else .resting }

/-- The waiter makes a step, unless it is held up. Nobody else ever waits. -/
def step (r : Replay) : Replay :=
  match r.watch with
  | .looking =>
    match r.barrier.gate.start .task with
    | (.begun number, gate) =>
      { r with
        barrier := { r.barrier with gate }
        watch := .waiting number (r.barrier.waitLimit.map (r.clock + ·)) }
    | (.quiescent, _) | (.refused, _) => r.conclude
  | .waiting number _ => if r.barrier.gate.released.contains number then r.conclude else r
  | .resting =>
    if r.signalled then { r with watch := .looking, signalled := false }
    else if r.delivered then { r with watch := .looking }
    else r
  | .off | .gaveUp | .done => r

/-- The waiter makes some steps. -/
def steps : Replay → Nat → Replay
  | r, 0 => r
  | r, n + 1 => r.step.steps n

/-- The waiter goes on as far as it can, which takes at most three steps. -/
def turn (r : Replay) : Replay := r.steps 3

/-- Lets the clock run to `time`; a wait whose deadline is reached by then runs out of time. -/
def passTo (time : Nat) (r : Replay) : Replay :=
  let r := { r with clock := time }
  match r.watch with
  | .waiting number (some deadline) =>
    if deadline ≤ time then
      match r.barrier.gate.lapse number with
      | (.error _, gate) => { r with barrier := { r.barrier with gate }, watch := .gaveUp }
      | (.ok (), _) => r.conclude
    else r
  | _ => r

/-- Nothing arrives for some time. The clock does not move before the waiter has had its turn. -/
def pass (delay : Nat) (r : Replay) : Replay :=
  if delay = 0 then r else r.turn.passTo (r.clock + delay)

/-! ## The script -/

/-- Feeds an event to the barrier at the present time, which `stamp` turns into a moment. -/
def take (stamp : Nat → Moment) (event : Event) (r : Replay) : Replay :=
  let outcome := r.barrier.feed (stamp r.clock) r.room [event]
  let r := { r with
    barrier := outcome.barrier
    signalled := r.signalled || outcome.log.any Callback.isSignal }
  match outcome.reply with
  | .done report =>
    { r with applied := r.applied + report.applied, rejected := r.rejected + report.rejected }
  | .refused _ | .panicked _ => r

/-- The next event of the script arrives. `pace` says how many steps the waiter makes before
anything else can happen. -/
def arrive (stamp : Nat → Moment) (pace : Replay → Nat) (r : Replay) (next : Arrival) : Replay :=
  let r := (r.pass next.delay).take stamp next.event
  r.steps (pace r)

/-- The replay after the last event. -/
def arriveAll (stamp : Nat → Moment) (pace : Replay → Nat) (script : Script) (r : Replay) :
    Replay :=
  script.foldl (arrive stamp pace) r

/-- The waiter hears that the script has ended. -/
def finish (r : Replay) : Replay := { r with delivered := true }.turn

/-- Whether the waiter waits and nothing will ever end its wait. -/
def stalls (r : Replay) : Bool :=
  r.watch != .off && r.barrier.waitLimit.isNone && !r.barrier.gate.ledger.isEmpty

/-- Lets the clock run until the waiter has come to an end. -/
def sitOut (r : Replay) : Replay :=
  match r.watch with
  | .waiting _ (some deadline) => r.passTo (max r.clock deadline)
  | _ => r

/-- The summary of a replay whose script has ended. -/
def summary (events : Nat) (mode : ReplayMode) (r : Replay) : Summary :=
  let ledger := r.barrier.gate.ledger
  { events
    applied := r.applied
    rejected := r.rejected
    quiescent := ledger.rows.isEmpty
    timedOut := !r.stalls && r.sitOut.watch == .gaveUp
    stalled := r.stalls
    forceClosed := if mode.forceClose then r.barrier.gate.evictAll.1.length else 0
    remaining := ledger.rows }

/-- Replays a script through a queue. `stamp` says at which moment the clock of the replay shows a
time, and `pace` how far the waiter gets between two events that arrive at the same time. -/
def play (stamp : Nat → Moment) (script : Script) (settings : Settings) (mode : ReplayMode)
    (pace : Replay → Nat) (room : Room) : Summary :=
  (((start settings mode room).arriveAll stamp pace script).finish).summary script.length mode

/-- Replays a script. If there can be no queue of the capacity that is set, the replay panics before
its first event, and there is no summary. -/
def run (stamp : Nat → Moment) (script : Script) (settings : Settings) (mode : ReplayMode)
    (pace : Replay → Nat := fun _ => 0) : Option Summary :=
  (Room.ofCapacity? settings.barrier.capacity).map (play stamp script settings mode pace)

end Replay

end Quiescence
