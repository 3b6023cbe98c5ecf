import Quiescence.Proofs.Barrier.Effects
import Quiescence.Proofs.Gate.Parks

/-! # Barriers where a thread waits instead of a task

Whoever is told of a change sees the same barrier, whether a task waits or a thread. When the change
is carried out without a panic, its signal has been given, so the thread has gone on by the end of
the operation that has released the task.
-/

namespace Quiescence

namespace Barrier

variable {b other : Barrier} {n : Nat}

/-- In the barrier `other` a thread sleeps in the wait of number `n`, where in `b` a task does. -/
structure Parks (other : Barrier) (n : Nat) (b : Barrier) : Prop where
  gate : other.gate.Parks n b.gate
  audience : other.audience = b.audience
  waitLimit : other.waitLimit = b.waitLimit

end Barrier

/-- Two operations have gone the same way, with a thread in the place of a task in one of them. -/
structure Outcome.Parks {α : Type} (other : Outcome α) (n : Nat) (outcome : Outcome α) : Prop where
  barrier : other.barrier.Parks n outcome.barrier
  reply : other.reply = outcome.reply
  log : other.log = outcome.log

namespace Barrier

variable {b other : Barrier} {n : Nat} {α : Type}

namespace Parks

theorem glimpse (parks : other.Parks n b) : other.glimpse = b.glimpse := by
  simp only [Barrier.glimpse, parks.gate.ledger, parks.gate.hasWaiter]

theorem perform (parks : other.Parks n b) (value : α) (effects : List Effect) :
    (other.perform value effects).Parks n (b.perform value effects) := by
  induction effects generalizing other b with
  | nil => exact ⟨parks, rfl, rfl⟩
  | cons effect rest ih =>
    cases effect with
    | signal =>
      have signalled : Barrier.Parks { other with gate := other.gate.signal } n
          { b with gate := b.gate.signal } := ⟨parks.gate.signal, parks.audience, parks.waitLimit⟩
      exact ih signalled
    | tell notice =>
      simp only [Barrier.perform, parks.audience, parks.glimpse]
      have informed (audience : Audience) :
          Barrier.Parks { other with audience } n { b with audience } :=
        ⟨parks.gate, rfl, parks.waitLimit⟩
      split
      · exact ⟨informed _, rfl, rfl⟩
      · have later := ih (informed (b.audience.tell notice b.glimpse).audience)
        exact ⟨later.barrier, later.reply, congrArg (_ ++ ·) later.log⟩

theorem apply (parks : other.Parks n b) (now : Moment) (event : Event) :
    (other.apply now event).Parks n (b.apply now event) := by
  unfold Barrier.apply
  rcases parks.gate.apply now event with ⟨fault, refused, refusedOther⟩ |
    ⟨⟨next, _⟩, ⟨nextOther, effects⟩, applied, appliedOther, gate, rfl⟩
  · simp only [refused, refusedOther]
    exact ⟨parks, rfl, rfl⟩
  · simp only [applied, appliedOther]
    have changed : Barrier.Parks { other with gate := nextOther } n { b with gate := next } :=
      ⟨gate, parks.audience, parks.waitLimit⟩
    exact changed.perform () effects

theorem evict (parks : other.Parks n b) (context : String) :
    (other.evict context).Parks n (b.evict context) := by
  obtain ⟨names, gate, effects⟩ := parks.gate.evict context
  have changed : Barrier.Parks { other with gate := (other.gate.evict context).2.1 } n
      { b with gate := (b.gate.evict context).2.1 } := ⟨gate, parks.audience, parks.waitLimit⟩
  simp only [Barrier.evict, names, effects]
  exact changed.perform _ _

theorem evictAll (parks : other.Parks n b) : other.evictAll.Parks n b.evictAll := by
  obtain ⟨handles, gate, effects⟩ := parks.gate.evictAll
  have changed : Barrier.Parks { other with gate := other.gate.evictAll.2.1 } n
      { b with gate := b.gate.evictAll.2.1 } := ⟨gate, parks.audience, parks.waitLimit⟩
  simp only [Barrier.evictAll, handles, effects]
  exact changed.perform _ _

end Parks

/-- An operation that ends without a panic leaves no thread asleep whose wait it has ended. -/
theorem prompt_of_perform {next : Gate} {value : α} {effects : List Effect}
    (change : b.gate.Change next effects) (prompt : b.gate.Prompt n)
    (done : (Barrier.perform value effects { b with gate := next }).reply = .done value) :
    (Barrier.perform value effects { b with gate := next }).barrier.gate.Prompt n := by
  rcases change.prompt prompt with kept | signals
  · rcases perform_gate value effects { b with gate := next } with same | signalled
    · exact same ▸ kept
    · exact signalled ▸ next.prompt_signal n
  · exact perform_gate_of_done done signals ▸ next.prompt_signal n

end Barrier

end Quiescence
