import Quiescence.Ledger
import Quiescence.Event
import Quiescence.Observer

/-! # The gate

The gate is the part of a barrier that observers cannot touch: the ledger of open handles and the
one waiter that may be waiting for it to become empty. A wait carries a number that is never used
again, so whoever comes late with the number of a wait that is over changes nothing.

A waiting task is released at the very change that empties the ledger. A waiting thread is parked:
the change makes its wait inactive, but the thread goes on only at the next signal. Each change says
which notices and signals follow it, in their order; the change itself comes before all of them.
-/

namespace Quiescence

/-- How a waiter sleeps. -/
inductive Sleeper where
  | task
  | thread
deriving DecidableEq

/-- The one waiter a gate may have. -/
inductive Wait where
  | idle
  | active (number : Nat) (sleeper : Sleeper)
deriving DecidableEq

/-- What follows a change, in order. -/
inductive Effect where
  | tell (notice : Notice)
  | signal
deriving DecidableEq

/-- The ledger and its waiter. -/
structure Gate where
  ledger : Ledger
  wait : Wait
  /-- The number of the last wait that began. -/
  lastWait : Nat
  /-- The waits whose sleeper has been woken because the ledger became empty. -/
  released : List Nat
  /-- The waits whose thread sleeps until a signal. -/
  parked : List Nat
deriving DecidableEq

namespace Gate

/-- Nothing is open and nobody has waited yet. -/
def new : Gate := ⟨.empty, .idle, 0, [], []⟩

/-- Whether somebody is waiting. -/
def hasWaiter (g : Gate) : Bool := g.wait != .idle

/-- Whether the wait of this number is the active one. -/
def isActive (g : Gate) (number : Nat) : Bool :=
  match g.wait with
  | .idle => false
  | .active n _ => n == number

/-! ## Waits -/

/-- How an attempt to wait turns out at first. -/
inductive Start where
  /-- Nothing is open, so there is nothing to wait for. -/
  | quiescent
  /-- Somebody else is waiting. -/
  | refused
  /-- The wait has begun under this number. -/
  | begun (number : Nat)
deriving DecidableEq

/-- Begins a wait, unless the ledger is empty or somebody is waiting. -/
def start (sleeper : Sleeper) (g : Gate) : Start × Gate :=
  if g.ledger.isEmpty then (.quiescent, g)
  else if g.hasWaiter then (.refused, g)
  else
    let number := g.lastWait + 1
    (.begun number,
      { g with
        wait := .active number sleeper
        lastWait := number
        parked := match sleeper with
          | .task => g.parked
          | .thread => g.parked ++ [number] })

/-- Ends the wait of this number without a release, if it is still active. -/
def retract (number : Nat) (g : Gate) : Gate :=
  if g.isActive number then { g with wait := .idle } else g

/-- Ends the wait of this number because its time is up. A release that came first counts. -/
def lapse (number : Nat) (g : Gate) : Except Fault Unit × Gate :=
  if g.isActive number then (.error (.timedOut g.ledger.count), g.retract number)
  else (.ok (), g)

/-- Takes a thread that does not sleep any more from the parked ones. -/
def unpark (number : Nat) (g : Gate) : Gate :=
  { g with parked := g.parked.filter (· != number) }

/-- Lets a parked thread go on because its time is up, without a signal. It too finds out only now
whether its wait was released. -/
def rouse (number : Nat) (g : Gate) : Except Fault Unit × Gate :=
  match g.lapse number with
  | (.error fault, gate) => (.error fault, gate.unpark number)
  | (.ok (), gate) => (.ok (), { gate.unpark number with released := gate.released ++ [number] })

/-- Ends the active wait because the ledger is empty: a task is woken on the spot. -/
def release (g : Gate) : Gate :=
  match g.wait with
  | .idle => g
  | .active number .task => { g with wait := .idle, released := g.released ++ [number] }
  | .active _ .thread => { g with wait := .idle }

/-- Wakes every parked thread: those whose wait is over go on, the others park again. -/
def signal (g : Gate) : Gate :=
  { g with
    released := g.released ++ g.parked.filter fun n => !g.isActive n
    parked := g.parked.filter g.isActive }

/-! ## Changes -/

/-- Releases the waiter if the ledger is empty. -/
def releaseIfEmpty (g : Gate) : Gate := if g.ledger.isEmpty then g.release else g

/-- What follows when a change has struck `closed` from the ledger: the closes are told, and if
nothing is open any more, the waiter gets its signal and quiescence is told. -/
def closing (before after : Gate) (closed : List Handle) : List Effect :=
  closed.map (.tell <| .closed ·) ++
    if after.ledger.isEmpty then
      (if before.hasWaiter then [.signal] else []) ++ [.tell .quiescent]
    else []

/-- Takes in one event. -/
def apply (now : Moment) (event : Event) (g : Gate) : Except Fault (Gate × List Effect) :=
  match event.kind with
  | .opened => do
    let ledger ← g.ledger.add now event.handle
    return ({ g with ledger }, [.tell (.opened event.handle)])
  | .modified => do
    let ledger ← g.ledger.mark now event.handle
    return ({ g with ledger }, [.tell (.modified event.handle)])
  | .closed => do
    let ledger ← g.ledger.remove event.handle
    let after := releaseIfEmpty { g with ledger }
    return (after, closing g after [event.handle])

/-- Closes everything that a context holds. -/
def evict (context : String) (g : Gate) : List String × Gate × List Effect :=
  match g.ledger.clearContext context with
  | ([], _) => ([], g, [])
  | (names, ledger) =>
    let after := releaseIfEmpty { g with ledger }
    (names, after, closing g after (names.map (⟨context, ·⟩)))

/-- Closes everything. -/
def evictAll (g : Gate) : List Handle × Gate × List Effect :=
  match g.ledger.clear with
  | ([], _) => ([], g, [])
  | (closed, ledger) =>
    let after := release { g with ledger }
    (closed, after, closing g after closed)

end Gate

end Quiescence
