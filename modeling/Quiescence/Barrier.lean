import Quiescence.Barrier.Gate

/-! # The barrier

A barrier is a gate with an audience. Every change to the gate comes first and is complete; then its
effects are carried out one after the other. An observer that panics ends the operation where it
stands: the change stays, and what was still to follow it, a signal included, does not happen.
-/

namespace Quiescence

/-- A gate, the observers of its changes, and the limit in milliseconds of the waits that name
none. -/
structure Barrier where
  gate : Gate
  audience : Audience
  waitLimit : Option Nat

/-- How an operation on a barrier ended. -/
inductive Reply (α : Type) where
  | done (value : α)
  | refused (fault : Fault)
  | panicked (observer : String)
deriving DecidableEq

/-- The barrier after an operation, the callbacks it made, and how it ended. -/
structure Outcome (α : Type) where
  barrier : Barrier
  log : List Callback
  reply : Reply α

namespace Barrier

/-- A barrier on which nothing is open and that nobody observes. -/
def new (waitLimit : Option Nat) : Barrier := ⟨.new, .empty, waitLimit⟩

/-- The barrier as a callback sees it. -/
def glimpse (b : Barrier) : Glimpse := ⟨b.gate.ledger.count, b.gate.hasWaiter⟩

/-- Carries out the effects of a change, up to a panic, and then answers `value`. -/
def perform {α : Type} (value : α) : List Effect → Barrier → Outcome α
  | [], b => ⟨b, [], .done value⟩
  | .signal :: rest, b => perform value rest { b with gate := b.gate.signal }
  | .tell notice :: rest, b =>
    let told := b.audience.tell notice b.glimpse
    let b := { b with audience := told.audience }
    match told.panic with
    | some observer => ⟨b, told.log, .panicked observer⟩
    | none =>
      let later := perform value rest b
      { later with log := told.log ++ later.log }

/-- Takes in one event. -/
def apply (now : Moment) (event : Event) (b : Barrier) : Outcome Unit :=
  match b.gate.apply now event with
  | .error fault => ⟨b, [], .refused fault⟩
  | .ok (gate, effects) => perform () effects { b with gate }

/-- Closes everything that a context holds, and answers the closed names in ascending order. -/
def evict (context : String) (b : Barrier) : Outcome (List String) :=
  let (names, gate, effects) := b.gate.evict context
  perform names effects { b with gate }

/-- Closes everything, and answers the closed handles in handle order. -/
def evictAll (b : Barrier) : Outcome (List Handle) :=
  let (handles, gate, effects) := b.gate.evictAll
  perform handles effects { b with gate }

/-- Adds a registration of the observer. What it does is settled when its name is first used. -/
def observe (observer : String) (r : Reactions) (b : Barrier) : Barrier :=
  { b with audience := b.audience.register observer r }

/-- Removes every registration of the observer, and answers whether there was one. -/
def unobserve (observer : String) (b : Barrier) : Bool × Barrier :=
  (b.audience.listens observer, { b with audience := b.audience.remove observer })

end Barrier

end Quiescence
