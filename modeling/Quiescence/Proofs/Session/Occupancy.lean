import Quiescence.Proofs.Session.Move

/-! # Nobody waits for nothing

Somebody waits only while a handle is open, so a waiter always has something to wait for: between
the steps of a run, in the middle of a feed and in the eyes of every observer that is called back,
even when a panic cuts the step short.
-/

namespace Quiescence.Session

variable {s : Session} {x : Step}

/-- An operation shows the barrier as it leaves it. -/
theorem step_log (single : x.isSingle) : ∀ observer notice shown,
    .told observer notice shown ∈ (s.step x).log → shown = (s.step x).session.barrier.glimpse := by
  by_cases mutation : x.isMutation
  · rcases step_mutation mutation (s := s) with
      ⟨fault, refused⟩ | ⟨α, value, answer, gate, effects, _, _, changed⟩
    · rw [refused]
      nofun
    · intro observer notice shown member
      rw [changed] at member ⊢
      rw [Barrier.perform_log value effects { s.barrier with gate } observer notice shown member]
      have kept := Barrier.perform_gate value effects { s.barrier with gate }
      simp only [ofOutcome, Barrier.glimpse]
      rcases kept with same | signalled
      · rw [same]
      · rw [signalled]
        rfl
  · cases x with
    | feed => cases single
    | apply | evict | evictAll => exact absurd rfl mutation
    | _ => nofun

/-- Somebody waits only while something is open. -/
theorem Sound.occupied (sound : s.Sound) (waiting : s.barrier.gate.hasWaiter) :
    1 ≤ s.barrier.gate.ledger.count ∧ 1 ≤ s.barrier.gate.ledger.contextsInUse := by
  have filled := sound.gate.occupied waiting
  exact ⟨Ledger.isEmpty_eq_false_iff.mp filled, sound.gate.tallied.contextsInUse_pos filled⟩

theorem Sound.glimpse_occupied (sound : s.Sound) {steps : List Step}
    (singles : ∀ x ∈ steps, x.isSingle) : ∀ observer notice shown,
    .told observer notice shown ∈ s.callbacks steps → shown.waiting → 1 ≤ shown.stillOpen := by
  induction steps generalizing s with
  | nil => nofun
  | cons x rest ih =>
    intro observer notice shown member waiting
    obtain ⟨single, others⟩ := List.forall_mem_cons.mp singles
    have next := sound.step single
    rcases List.mem_append.mp member with now | later
    · obtain rfl := step_log single observer notice shown now
      exact (next.occupied waiting).1
    · exact ih next others observer notice shown later waiting

/-- At no time does anybody wait while nothing is open, and no observer ever sees it. -/
theorem waiting_means_open (limit : Option Nat) (steps : List Step) :
    (((new limit).after steps).barrier.gate.hasWaiter →
      1 ≤ ((new limit).after steps).barrier.gate.ledger.count ∧
        1 ≤ ((new limit).after steps).barrier.gate.ledger.contextsInUse) ∧
    ∀ observer notice shown, .told observer notice shown ∈ (new limit).callbacks steps →
      shown.waiting → 1 ≤ shown.stillOpen := by
  refine ⟨((sound_new limit).after steps).occupied, ?_⟩
  rw [← callbacks_operations]
  exact (sound_new limit).glimpse_occupied fun _ => isSingle_of_mem_operations

/-- A task that waits for one handle. -/
theorem task_waits_for_handle :
    let s := (new none).after [.apply ⟨.opened, ⟨"A", "x"⟩⟩, .wait "t" none]
    s.barrier.gate.hasWaiter ∧ 1 ≤ s.barrier.gate.ledger.count ∧
      1 ≤ s.barrier.gate.ledger.contextsInUse := by
  intro s
  have waiting : s.barrier.gate.hasWaiter := by decide
  exact ⟨waiting, (waiting_means_open none _).1 waiting⟩

end Quiescence.Session
