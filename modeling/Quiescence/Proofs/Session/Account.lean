import Quiescence.Proofs.Barrier.Account
import Quiescence.Proofs.Session.Move

/-! # Observers know what is open

Whoever is registered once, and stays registered while nobody panics, can tell from the callbacks
alone what is open: after every operation, and after every single event in the middle of a feed. It
makes no difference how the handles come to be closed, nor whether anybody waits.
-/

namespace Quiescence

/-- Whether an answer reports that an observer panicked. -/
def Answer.isPanic : Answer → Bool
  | .panicked _ | .feedPanicked => true
  | _ => false

namespace Session

variable {s : Session} {x : Step} {o : String} {steps first second : List Step}

/-- The set of the open handles. -/
def opened (s : Session) : Finset Handle := s.barrier.gate.ledger.opened

/-- How often an observer is registered. -/
def registrations (o : String) (s : Session) : Nat := s.barrier.audience.registrations o

/-- No observer panics in any of the steps. -/
def Calm (s : Session) (steps : List Step) : Prop :=
  ∀ answer ∈ s.answers steps, answer.isPanic = false

/-- An observer is registered once, and is not removed during some steps. -/
structure Stays (o : String) (s : Session) (steps : List Step) : Prop where
  before : s.registrations o = 1
  after : (s.after steps).registrations o = 1
  kept : .unobserve o ∉ steps
  spared : Spares o (s.callbacks steps)

/-! ## Operations -/

theorem calm_append :
    s.Calm (first ++ second) ↔ s.Calm first ∧ (s.after first).Calm second := by
  simp only [Calm, answers_append, List.mem_append, or_imp, forall_and]

private theorem calm_applies (events : List Event) (report : FeedReport) (s : Session)
    (calm : ∀ observer, (s.barrier.drainQueue s.now events report).reply ≠ .panicked observer) :
    s.Calm ((s.barrier.arriving s.now events).map .apply) := by
  induction events generalizing report s with
  | nil => nofun
  | cons event rest ih =>
    simp only [Barrier.drainQueue, Barrier.arriving] at calm ⊢
    cases ended : (s.barrier.apply s.now event).reply with
    | panicked observer =>
      simp only [ended] at calm
      exact absurd rfl (calm observer)
    | done _ | refused _ =>
      simp only [ended] at calm ⊢
      have first : (s.step (.apply event)).answer.isPanic = false := by
        simp only [step, ofOutcome, ended, Answer.isPanic]
      refine List.forall_mem_cons.mpr ⟨first, ?_⟩
      exact ih _ (s.step (.apply event)).session calm

/-- No observer panics when a queue is emptied, if the feed is answered without a panic. -/
theorem drainQueue_ne_panicked {capacity : Nat} {events : List Event}
    (calm : (s.step (.feed capacity events)).answer.isPanic = false) (observer : String) :
    (s.barrier.drainQueue s.now (Step.feed capacity events).events ⟨0, 0⟩).reply ≠
      .panicked observer := by
  intro panicked
  rcases Nat.lt_or_ge mostRoom capacity with large | fits
  · rw [Step.events, if_neg (Nat.not_le.mpr large)] at panicked
    cases panicked
  · rw [Step.events, if_pos fits] at panicked
    simp [step_feed_of_fits fits, ofOutcome, panicked, Answer.ofFeed, Answer.isPanic] at calm

/-- Nobody panics in the operations that a step without a panic consists of. -/
private theorem calm_parts (calm : (s.step x).answer.isPanic = false) : s.Calm (s.parts x) := by
  cases x with
  | feed => exact calm_applies _ ⟨0, 0⟩ s (drainQueue_ne_panicked calm)
  | _ => exact List.forall_mem_singleton.mpr calm

theorem Calm.operations (calm : s.Calm steps) : s.Calm (s.operations steps) := by
  induction steps generalizing s with
  | nil => nofun
  | cons x rest ih =>
    obtain ⟨now, later⟩ := List.forall_mem_cons.mp calm
    refine calm_append.mpr ⟨calm_parts now, ?_⟩
    rw [after_parts]
    exact ih later

theorem Stays.operations (stays : s.Stays o steps) : s.Stays o (s.operations steps) := by
  obtain ⟨before, after, kept, spared⟩ := stays
  refine ⟨before, ?_, ?_, ?_⟩
  · rwa [after_operations]
  · clear before after spared
    induction steps generalizing s with
    | nil => nofun
    | cons x rest ih =>
      intro member
      rcases List.mem_append.mp member with now | later
      · cases x with
        | feed => simp [parts] at now
        | _ => exact kept (List.mem_singleton.mp now ▸ List.mem_cons_self)
      · exact ih (fun again => kept (List.mem_cons_of_mem _ again)) later
  · rwa [callbacks_operations]

/-! ## Registrations -/

theorem registrations_step (single : x.isSingle) (kept : x ≠ .unobserve o)
    (spared : Spares o (s.step x).log) :
    s.registrations o ≤ (s.step x).session.registrations o := by
  by_cases mutation : x.isMutation
  · rcases step_mutation mutation (s := s) with
      ⟨_, refused⟩ | ⟨_, value, _, gate, effects, _, _, changed⟩
    · rw [refused]
    · rw [changed] at spared ⊢
      exact Barrier.registrations_perform effects { s.barrier with gate } spared
  · cases x with
    | feed => cases single
    | apply | evict | evictAll => exact absurd rfl mutation
    | observe named r => exact Audience.registrations_register o named r s.barrier.audience
    | unobserve named =>
      have other : named ≠ o := fun same => kept (congrArg Step.unobserve same)
      exact (Audience.registrations_remove other s.barrier.audience).ge
    | _ =>
      rw [registrations, registrations, (step_undisturbed rfl).1.audience]

theorem registrations_after (singles : ∀ x ∈ steps, x.isSingle) (kept : .unobserve o ∉ steps)
    (spared : Spares o (s.callbacks steps)) :
    s.registrations o ≤ (s.after steps).registrations o := by
  induction steps generalizing s with
  | nil => exact le_rfl
  | cons x rest ih =>
    obtain ⟨single, others⟩ := List.forall_mem_cons.mp singles
    obtain ⟨now, later⟩ := spares_append.mp spared
    obtain ⟨here, kept⟩ : x ≠ .unobserve o ∧ .unobserve o ∉ rest := by
      simpa [eq_comm] using kept
    exact (registrations_step single here now).trans (ih others kept later)

/-- Whoever stays during all operations stays during the first and the last of them. -/
theorem Stays.split (stays : s.Stays o (first ++ second))
    (singles : ∀ x ∈ first ++ second, x.isSingle) :
    s.Stays o first ∧ (s.after first).Stays o second := by
  obtain ⟨before, after, kept, spared⟩ := stays
  obtain ⟨early, late⟩ := List.forall_mem_append.mp singles
  rw [List.mem_append, not_or] at kept
  rw [callbacks_append, spares_append] at spared
  rw [after_append] at after
  have grown := registrations_after early kept.1 spared.1
  have kept' := registrations_after late kept.2 spared.2
  have middle : (s.after first).registrations o = 1 := by omega
  exact ⟨⟨before, middle, kept.1, spared.1⟩, ⟨middle, after, kept.2, spared.2⟩⟩

/-! ## Accounts -/

private theorem ofOutcome_calm {α : Type} {answer : α → Answer} {outcome : Outcome α}
    (calm : (s.ofOutcome answer outcome).answer.isPanic = false) (observer : String) :
    outcome.reply ≠ .panicked observer := by
  intro panicked
  simp [ofOutcome, panicked, Answer.isPanic] at calm

private theorem follows_quiet (quiet : x.isQuiet) :
    Follows s.opened (heardBy o (s.step x).log) (s.step x).session.opened := by
  obtain ⟨undisturbed, silent⟩ := step_undisturbed quiet (s := s)
  rw [silent, opened, opened, undisturbed.ledger]
  exact .nil _

/-- What the observer hears in one operation accounts for what the operation leaves open. -/
theorem Sound.follows_step (sound : s.Sound) (single : x.isSingle) (calm : s.Calm [x])
    (stays : s.Stays o [x]) :
    Follows s.opened (heardBy o (s.step x).log) (s.step x).session.opened := by
  have calm := List.forall_mem_singleton.mp calm
  obtain ⟨before, after, _, spared⟩ := stays
  rw [callbacks, callbacks, List.append_nil] at spared
  have tallied := sound.gate.tallied
  cases x with
  | feed => cases single
  | apply event =>
    cases applied : s.barrier.gate.apply s.now event with
    | error fault =>
      have refused : s.step (.apply event) = ⟨s, [], .refused fault⟩ := by
        simp only [Session.step, Barrier.apply, applied, ofOutcome]
      rw [refused]
      exact .nil _
    | ok result =>
      obtain ⟨gate, effects⟩ := result
      have changed : s.step (.apply event) =
          s.ofOutcome (fun _ => .ok) (Barrier.perform () effects { s.barrier with gate }) := by
        simp only [Session.step, Barrier.apply, applied]
      rw [after_cons, changed] at after
      rw [changed] at calm spared ⊢
      exact Barrier.perform_follows effects { s.barrier with gate }
        (Gate.apply_follows tallied applied) (ofOutcome_calm calm) before after spared
  | evict context =>
    exact Barrier.perform_follows _ { s.barrier with gate := (s.barrier.gate.evict context).2.1 }
      (Gate.evict_follows tallied context) (ofOutcome_calm calm) before after spared
  | evictAll =>
    exact Barrier.perform_follows _ { s.barrier with gate := s.barrier.gate.evictAll.2.1 }
      (Gate.evictAll_follows tallied) (ofOutcome_calm calm) before after spared
  | observe => exact .nil _
  | unobserve => exact .nil _
  | _ => exact follows_quiet rfl

theorem Sound.follows_singles (sound : s.Sound) (singles : ∀ x ∈ steps, x.isSingle)
    (calm : s.Calm steps) (stays : s.Stays o steps) :
    Follows s.opened (heardBy o (s.callbacks steps)) (s.after steps).opened := by
  induction steps generalizing s with
  | nil => exact .nil _
  | cons x rest ih =>
    obtain ⟨single, others⟩ := List.forall_mem_cons.mp singles
    rw [← List.singleton_append] at calm stays singles
    obtain ⟨now, later⟩ := calm_append.mp calm
    obtain ⟨here, there⟩ := stays.split singles
    rw [callbacks, heardBy_append]
    exact (sound.follows_step single now here).append (ih (sound.step single) others later there)

/-- What an observer hears while it stays registered once, and nobody panics, accounts for what is
open at all times, from what is open at the start. The operations of a run are a run themselves, so
the start may be in the middle of a feed. -/
theorem notices_account_for_handles (limit : Option Nat) (steps stretch : List Step) (o : String)
    (calm : ((new limit).after steps).Calm stretch)
    (stays : ((new limit).after steps).Stays o stretch) :
    let s := (new limit).after steps
    (∀ done, done <+: s.operations stretch →
      Follows s.opened (heardBy o (s.callbacks done)) (s.after done).opened) ∧
    ∀ done, done <+: stretch →
      Follows s.opened (heardBy o (s.callbacks done)) (s.after done).opened := by
  intro s
  have sound : s.Sound := (sound_new limit).after steps
  have each : ∀ done, done <+: s.operations stretch →
      Follows s.opened (heardBy o (s.callbacks done)) (s.after done).opened := by
    rintro done ⟨more, whole⟩
    have singles : ∀ x ∈ done ++ more, x.isSingle := by
      rw [whole]
      exact fun _ => isSingle_of_mem_operations
    have calm := calm.operations
    have stays := stays.operations
    rw [← whole] at calm stays
    exact sound.follows_singles (List.forall_mem_append.mp singles).1 (calm_append.mp calm).1
      (stays.split singles).1
  refine ⟨each, ?_⟩
  rintro done ⟨more, rfl⟩
  have early : s.operations done <+: s.operations (done ++ more) := by
    rw [operations_append]
    exact List.prefix_append _ _
  have account := each _ early
  rwa [callbacks_operations, after_operations] at account

/-- An observer hears how a context is closed while a task waits, and how a handle comes and goes in
the middle of a feed. -/
theorem notices_of_busy_stretch :
    let s := (new none).after [.apply ⟨.opened, ⟨"A", "x"⟩⟩, .observe "p" {}]
    let stretch : List Step := [.apply ⟨.opened, ⟨"A", "y"⟩⟩, .wait "t" none, .evict "A",
      .feed 1 [⟨.opened, ⟨"B", "z"⟩⟩, ⟨.closed, ⟨"B", "z"⟩⟩]]
    let notices : List Notice := [.opened ⟨"A", "y"⟩, .closed ⟨"A", "x"⟩, .closed ⟨"A", "y"⟩,
      .quiescent, .opened ⟨"B", "z"⟩, .closed ⟨"B", "z"⟩, .quiescent]
    s.Calm stretch ∧ s.Stays "p" stretch ∧ heardBy "p" (s.callbacks stretch) = notices ∧
      Follows s.opened notices (s.after stretch).opened := by
  intro s stretch notices
  have answers : s.answers stretch = [.ok, .pending, .names ["x", "y"], .fed ⟨2, 0⟩] := by
    simp only [s, stretch, Session.answers, after, step, Barrier.evict, Gate.evict,
      Ledger.clearContext, Ledger.names_eq_insertionSort]
    decide +kernel
  have heard : heardBy "p" (s.callbacks stretch) = notices := by
    simp only [s, stretch, notices, callbacks, after, step, Barrier.evict, Gate.evict,
      Ledger.clearContext, Ledger.names_eq_insertionSort]
    decide +kernel
  have calm : s.Calm stretch := by
    rw [Calm, answers]
    decide
  have stays : s.Stays "p" stretch := by
    refine ⟨by decide, ?_, by simp [stretch], ?_⟩
    · simp only [s, stretch, after_cons, after_nil, step, Barrier.evict, Gate.evict,
        Ledger.clearContext, Ledger.names_eq_insertionSort]
      decide +kernel
    · have spared : (s.callbacks stretch).all (!·.removes "p") := by
        simp only [s, stretch, callbacks, after, step, Barrier.evict, Gate.evict,
          Ledger.clearContext, Ledger.names_eq_insertionSort]
        decide +kernel
      simpa [Spares] using spared
  have account := (notices_account_for_handles none _ stretch "p" calm stays).2 stretch
    List.prefix_rfl
  rw [heard] at account
  exact ⟨calm, stays, heard, account⟩

/-- An account does not start in the middle of an operation: everything that a forced close closes
is struck before the first callback, so an observer that is registered in this callback finds
nothing open, and is then told of the next close. -/
theorem late_observer_contradicted :
    let s := (new none).after [.apply ⟨.opened, ⟨"A", "x"⟩⟩, .apply ⟨.opened, ⟨"A", "y"⟩⟩,
      .observe "p" { closed := fun _ => [.add "o", .remove "p"] }]
    let closing := s.step (.evict "A")
    closing.answer = .names ["x", "y"] ∧
      s.registrations "o" = 0 ∧ closing.session.registrations "o" = 1 ∧
      closing.log = [.told "p" (.closed ⟨"A", "x"⟩) ⟨0, false⟩, .removed "p" "p" true,
        .told "o" (.closed ⟨"A", "y"⟩) ⟨0, false⟩, .told "o" .quiescent ⟨0, false⟩] ∧
      ¬ ∃ last, Follows ∅ (heardBy "o" closing.log) last := by
  intro s closing
  have answer : closing.answer = .names ["x", "y"] := by
    simp only [closing, s, after, step, Barrier.evict, Gate.evict, Ledger.clearContext,
      Ledger.names_eq_insertionSort]
    decide +kernel
  have registered : closing.session.registrations "o" = 1 := by
    simp only [closing, s, after, step, Barrier.evict, Gate.evict, Ledger.clearContext,
      Ledger.names_eq_insertionSort]
    decide +kernel
  have log : closing.log = [.told "p" (.closed ⟨"A", "x"⟩) ⟨0, false⟩, .removed "p" "p" true,
      .told "o" (.closed ⟨"A", "y"⟩) ⟨0, false⟩, .told "o" .quiescent ⟨0, false⟩] := by
    simp only [closing, s, after, step, Barrier.evict, Gate.evict, Ledger.clearContext,
      Ledger.names_eq_insertionSort]
    decide +kernel
  refine ⟨answer, by decide, registered, log, ?_⟩
  rintro ⟨last, account⟩
  have heard : heardBy "o" closing.log = [.closed ⟨"A", "y"⟩, .quiescent] := by
    rw [log]
    decide
  rw [heard] at account
  cases account with
  | closed present => cases present
  | emptied present => cases present

end Session

end Quiescence
