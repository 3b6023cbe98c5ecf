import Quiescence.Barrier.Feed
import Quiescence.Text.Span

/-! # Sessions

A session is one barrier together with everything that acts on it: a clock that moves only when it
is told to, and named slots that hold waits. A wait begins when it is put into its slot. A task
learns what became of it only when its slot is polled, so a deadline that has passed does nothing
before that; the slot is emptied by the poll that ends the wait. A parked thread does not go by the
clock of the session: that its time is up is a step of its own.
-/

namespace Quiescence

/-- A wait in a slot. -/
inductive Slot where
  /-- A waiting task, with the time on the clock at which it gives up. -/
  | task (number : Nat) (deadline : Option Nat)
  /-- A parked thread. -/
  | thread (number : Nat)
deriving DecidableEq

/-- A barrier, a clock in milliseconds, and the waits that have not ended. -/
structure Session where
  barrier : Barrier
  clock : Nat
  slots : List (String × Slot)
  /-- The waits whose thread has a limit. -/
  limited : List Nat
  /-- The waits whose thread has run out of time, with what it found. -/
  overdue : List (Nat × Fault)

/-- One thing that is done to a barrier or asked of it. A wait without a limit of its own takes the
limit of the barrier. -/
inductive Step where
  | apply (event : Event)
  | evict (context : String)
  | evictAll
  | feed (capacity : Nat) (events : List Event)
  | observe (observer : String) (reactions : Reactions)
  | unobserve (observer : String)
  | isOpen (handle : Handle)
  | usesContext (context : String)
  | isEmpty
  | rows
  | describe
  | waitLimit
  | wait (slot : String) (limit : Option Nat)
  | poll (slot : String)
  | drop (slot : String)
  | advance (ms : Nat)
  /-- Parks the caller itself, on the spot. -/
  | block (limit : Option Nat)
  /-- Parks another thread, whose wait is put into a slot. -/
  | park (slot : String) (limit : Option Nat := none)
  /-- The time of the thread that sleeps in the wait of this number is up. -/
  | timeUp (number : Nat)

/-- The answer to a step. -/
inductive Answer where
  | ok
  | refused (fault : Fault)
  | panicked (observer : String)
  | flag (value : Bool)
  | names (names : List String)
  | handles (handles : List Handle)
  | rows (rows : List Row)
  | text (text : String)
  | limit (limit : Option Nat)
  | fed (report : FeedReport)
  /-- An observer panicked while a queue was being emptied. -/
  | feedPanicked
  /-- Nobody can make a queue of this capacity, and the attempt panicked. -/
  | noQueue
  | pending
  | noSuchSlot
  /-- The caller has parked itself and nobody is left to wake it. -/
  | stuck
deriving DecidableEq

/-- The answer that a wait gives when it is over. -/
def Answer.ofWait : Except Fault Unit → Answer
  | .ok () => .ok
  | .error fault => .refused fault

namespace Barrier

/-- The description of a barrier for diagnostics. -/
def describe (b : Barrier) : String :=
  "QuiescenceBarrier \x7b open: " ++ toString b.gate.ledger.count ++ ", waiting: "
    ++ toString b.gate.hasWaiter ++ ", wait_timeout: " ++ Text.spanOption b.waitLimit ++ ", .. \x7d"

/-- Parks the caller until its time is up: nobody else is there to change the barrier meanwhile. -/
def block (limit : Option Nat) (b : Barrier) : Answer × Barrier :=
  match b.gate.start .thread with
  | (.quiescent, _) => (.ok, b)
  | (.refused, _) => (.refused .waitActive, b)
  | (.begun number, gate) =>
    match limit.or b.waitLimit with
    | none => (.stuck, { b with gate })
    | some _ => (.ofWait (gate.rouse number).1, { b with gate := (gate.rouse number).2 })

end Barrier

namespace Session

/-- A session over a new barrier. -/
def new (waitLimit : Option Nat) : Session := ⟨.new waitLimit, 0, [], [], []⟩

/-- The moment that the clock shows. -/
def now (s : Session) : Moment := Moment.epoch.after s.clock

/-- Changes the gate and nothing else. -/
def withGate (s : Session) (gate : Gate) : Session := { s with barrier := { s.barrier with gate } }

/-- Empties a slot. -/
def vacate (slot : String) (s : Session) : Session :=
  { s with slots := s.slots.filter (·.1 != slot) }

/-- Ends the wait in a slot, if there is one. A task takes its wait along; a thread cannot be
stopped. -/
def abandon (slot : String) (s : Session) : Session :=
  match s.slots.lookup slot with
  | some (.task number _) => (s.vacate slot).withGate (s.barrier.gate.retract number)
  | some (.thread _) => s.vacate slot
  | none => s

/-- Looks once at the wait in a slot. A release counts even when the deadline has passed. A task
that is over is abandoned like any other: it takes its wait along if that is still active. -/
def poll (slot : String) (s : Session) : Answer × Session :=
  match s.slots.lookup slot with
  | none => (.noSuchSlot, s)
  | some (.thread number) =>
    if s.barrier.gate.released.contains number then (.ok, s.vacate slot)
    else match s.overdue.lookup number with
      | some fault => (.refused fault, s.vacate slot)
      | none => (.pending, s)
  | some (.task number deadline) =>
    if s.barrier.gate.released.contains number then (.ok, s.abandon slot)
    else if deadline.any (· ≤ s.clock) then
      let (outcome, gate) := s.barrier.gate.lapse number
      (.ofWait outcome, (s.withGate gate).abandon slot)
    else (.pending, s)

/-- Puts a new wait into a slot and looks at it once. A wait that was there is abandoned first. -/
def begin (slot : String) (sleeper : Sleeper) (wait : Nat → Slot) (s : Session) :
    Answer × Session :=
  let s := s.abandon slot
  match s.barrier.gate.start sleeper with
  | (.quiescent, _) => (.ok, s)
  | (.refused, _) => (.refused .waitActive, s)
  | (.begun number, gate) =>
    poll slot { s.withGate gate with slots := s.slots ++ [(slot, wait number)] }

/-- Parks a thread and puts its wait into a slot. A thread with a limit will run out of time. -/
def park (slot : String) (limit : Option Nat) (s : Session) : Answer × Session :=
  let (answer, parked) := s.begin slot .thread .thread
  match parked.slots.lookup slot, limit.or s.barrier.waitLimit with
  | some (.thread number), some _ =>
    (answer, { parked with limited := parked.limited ++ [number] })
  | _, _ => (answer, parked)

/-- Lets the thread of a wait run out of time, if it still sleeps and has a limit. -/
def timeUp (number : Nat) (s : Session) : Session :=
  if s.limited.contains number && s.barrier.gate.parked.contains number then
    match s.barrier.gate.rouse number with
    | (.error fault, gate) =>
      { s.withGate gate with overdue := s.overdue ++ [(number, fault)] }
    | (.ok (), gate) => s.withGate gate
  else s

/-- The session after a step, the callbacks that the step made, and its answer. -/
structure Turn where
  session : Session
  log : List Callback
  answer : Answer

/-- The turn of an operation on the barrier. -/
def ofOutcome {α : Type} (s : Session) (answer : α → Answer) (outcome : Outcome α) : Turn where
  session := { s with barrier := outcome.barrier }
  log := outcome.log
  answer := match outcome.reply with
    | .done value => answer value
    | .refused fault => .refused fault
    | .panicked observer => .panicked observer

/-- The turn of a question. -/
def ask (s : Session) (answer : Answer) : Turn := ⟨s, [], answer⟩

/-- The turn of something that does not concern the observers. -/
def quietly : Answer × Session → Turn
  | (answer, s) => ⟨s, [], answer⟩

/-- Does one step. -/
def step (s : Session) : Step → Turn
  | .apply event => s.ofOutcome (fun _ => .ok) (s.barrier.apply s.now event)
  | .evict context => s.ofOutcome .names (s.barrier.evict context)
  | .evictAll => s.ofOutcome .handles s.barrier.evictAll
  | .feed capacity events =>
    match Room.ofCapacity? capacity with
    | none => s.ask .noQueue
    | some room =>
      let turn := s.ofOutcome .fed (s.barrier.feed s.now room events)
      match turn.answer with
      | .panicked _ => { turn with answer := .feedPanicked }
      | _ => turn
  | .observe observer reactions =>
    ⟨{ s with barrier := s.barrier.observe observer reactions }, [], .ok⟩
  | .unobserve observer =>
    let (found, barrier) := s.barrier.unobserve observer
    ⟨{ s with barrier }, [], .flag found⟩
  | .isOpen handle => s.ask (.flag (s.barrier.gate.ledger.contains handle))
  | .usesContext context => s.ask (.flag (s.barrier.gate.ledger.usesContext context))
  | .isEmpty => s.ask (.flag s.barrier.gate.ledger.isEmpty)
  | .rows => s.ask (.rows s.barrier.gate.ledger.rows)
  | .describe => s.ask (.text s.barrier.describe)
  | .waitLimit => s.ask (.limit s.barrier.waitLimit)
  | .wait slot limit =>
    let deadline := (limit.or s.barrier.waitLimit).map (s.clock + ·)
    quietly (s.begin slot .task (.task · deadline))
  | .poll slot => quietly (s.poll slot)
  | .drop slot => ⟨s.abandon slot, [], .flag (s.slots.lookup slot).isSome⟩
  | .advance ms => ⟨{ s with clock := s.clock + ms }, [], .ok⟩
  | .block limit =>
    let (answer, barrier) := s.barrier.block limit
    ⟨{ s with barrier }, [], answer⟩
  | .park slot limit => quietly (s.park slot limit)
  | .timeUp number => ⟨s.timeUp number, [], .ok⟩

/-- Does the steps one after the other. -/
def run (s : Session) : List Step → Session × List Turn
  | [] => (s, [])
  | step :: rest =>
    let turn := s.step step
    let (last, turns) := run turn.session rest
    (last, turn :: turns)

end Session

end Quiescence
