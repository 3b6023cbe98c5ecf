import Quiescence.Proofs.Session.Account

/-! # Observers cannot interfere

A run in which observers come and go as they like, and panic in any callback, leaves the barrier and
the waiting tasks exactly as the same run without observers does; only the answer of a step in which
somebody panics is lost. A change is complete before anybody is told of it, and of what follows it
only a signal is cut off by a panic, which tasks do not need. A parked thread does.
-/

namespace Quiescence

/-- Steps that change who is registered. -/
def Step.isRegistration : Step → Bool
  | .observe .. | .unobserve _ => true
  | _ => false

/-- Steps of those who open and close handles one at a time, close them by force, look at the
barrier or wait as a task, and of the clock. -/
def Step.isPlain : Step → Bool
  | .feed .. | .observe .. | .unobserve _ | .block _ | .park .. | .timeUp _ => false
  | _ => true

/-! ## Changes without observers -/

namespace Gate

variable {g next : Gate}

theorem Change.parked {effects : List Effect} (change : g.Change next effects) :
    next.parked = g.parked := by
  cases change with
  | recorded | untouched => rfl
  | struck => exact settle_parked _ g

/-- A signal is for parked threads alone. -/
theorem signal_of_unparked (unparked : g.parked = []) : g.signal = g := by
  obtain ⟨ledger, wait, lastWait, released, parked⟩ := g
  obtain rfl : parked = [] := unparked
  simp [signal]

end Gate

/-- The outcome that an operation has without observers is `unseen`; with observers it has the
outcome `seen`. -/
structure Outcome.Agrees {α : Type} (seen unseen : Outcome α) : Prop where
  barrier : unseen.barrier = { seen.barrier with audience := .empty }
  reply : seen.reply = unseen.reply ∨ ∃ observer, seen.reply = .panicked observer

namespace Barrier

variable {b : Barrier} {α : Type}

/-- The barrier without its observers. -/
def muted (b : Barrier) : Barrier := { b with audience := .empty }

theorem perform_muted (value : α) (effects : List Effect) (b : Barrier) :
    (b.muted.perform value effects).barrier.audience = .empty ∧
      (b.muted.perform value effects).reply = .done value := by
  induction effects generalizing b with
  | nil => exact ⟨rfl, rfl⟩
  | cons effect rest ih =>
    cases effect with
    | signal => exact ih { b with gate := b.gate.signal }
    | tell notice => exact ih b

/-- As long as no thread is parked, effects concern the observers alone. -/
theorem perform_unparked (value : α) (effects : List Effect) (unparked : b.gate.parked = []) :
    (b.perform value effects).barrier =
      { b with audience := (b.perform value effects).barrier.audience } := by
  have gate : (b.perform value effects).barrier.gate = b.gate := by
    rcases perform_gate value effects b with same | signalled
    · exact same
    · exact signalled.trans (Gate.signal_of_unparked unparked)
  have waitLimit := perform_waitLimit value effects b
  generalize (b.perform value effects).barrier = after at *
  obtain ⟨gate', audience, waitLimit'⟩ := after
  obtain rfl : gate' = b.gate := gate
  obtain rfl : waitLimit' = b.waitLimit := waitLimit
  rfl

theorem perform_agrees (value : α) (effects : List Effect) (unparked : b.gate.parked = []) :
    (b.perform value effects).Agrees (b.muted.perform value effects) := by
  obtain ⟨audience, reply⟩ := perform_muted value effects b
  constructor
  · rw [perform_unparked value effects unparked,
      perform_unparked (b := b.muted) value effects unparked, audience]
    rfl
  · rw [reply]
    exact perform_reply value effects b

/-- An event has the same effect on the gate whoever hears of it. -/
theorem apply_agrees (unparked : b.gate.parked = []) (now : Moment) (event : Event) :
    (b.apply now event).Agrees (b.muted.apply now event) := by
  simp only [apply, muted]
  cases applied : b.gate.apply now event with
  | error fault => exact ⟨rfl, .inl rfl⟩
  | ok result =>
    obtain ⟨gate, effects⟩ := result
    have change := Gate.change_of_apply applied
    exact perform_agrees (b := { b with gate }) () effects (change.parked.trans unparked)

theorem evict_agrees (unparked : b.gate.parked = []) (context : String) :
    (b.evict context).Agrees (b.muted.evict context) := by
  have change := Gate.change_of_evict context b.gate
  exact perform_agrees (b := { b with gate := (b.gate.evict context).2.1 }) _ _
    (change.parked.trans unparked)

theorem evictAll_agrees (unparked : b.gate.parked = []) : b.evictAll.Agrees b.muted.evictAll := by
  have change := Gate.change_of_evictAll b.gate
  exact perform_agrees (b := { b with gate := b.gate.evictAll.2.1 }) _ _
    (change.parked.trans unparked)

end Barrier

/-! ## Sessions without observers -/

namespace Session

variable {s : Session} {x : Step} {slot : String}

/-- The session without its observers. -/
def muted (s : Session) : Session := { s with barrier := s.barrier.muted }

/-- The turn that a step makes without observers is `unseen`; with observers it makes the turn
`seen`. -/
structure Turn.Agrees (seen unseen : Turn) : Prop where
  session : unseen.session = seen.session.muted
  answer : seen.answer.isPanic = false → seen.answer = unseen.answer

theorem ofOutcome_agrees {α : Type} {seen unseen : Outcome α} (agrees : seen.Agrees unseen)
    (answer : α → Answer) :
    (s.ofOutcome answer seen).Agrees (s.muted.ofOutcome answer unseen) := by
  obtain ⟨barrier, reply⟩ := agrees
  refine ⟨?_, fun spared => ?_⟩
  · simp only [ofOutcome, barrier]
    rfl
  · rcases reply with same | ⟨observer, panicked⟩
    · simp only [ofOutcome, same]
    · simp [ofOutcome, panicked, Answer.isPanic] at spared

theorem abandon_muted : s.muted.abandon slot = (s.abandon slot).muted := by
  simp only [abandon, muted]
  cases s.slots.lookup slot with
  | none => rfl
  | some held => cases held <;> rfl

theorem poll_muted : s.muted.poll slot = ((s.poll slot).1, (s.poll slot).2.muted) := by
  have answer : (s.muted.poll slot).1 = (s.poll slot).1 := by
    rw [poll_answer, poll_answer]
    rfl
  refine Prod.ext answer ?_
  rw [poll_session, poll_session, answer, abandon_muted]
  split <;> rfl

theorem begin_muted (sleeper : Sleeper) (wait : Nat → Slot) :
    s.muted.begin slot sleeper wait =
      ((s.begin slot sleeper wait).1, (s.begin slot sleeper wait).2.muted) := by
  simp only [«begin», abandon_muted]
  generalize s.abandon slot = cleared
  have gate : cleared.muted.barrier.gate = cleared.barrier.gate := rfl
  rw [gate]
  rcases Gate.start_cases sleeper cleared.barrier.gate with
    ⟨_, start⟩ | ⟨_, _, start⟩ | ⟨_, _, start⟩
  · simp only [start]
  · simp only [start]
  · simp only [start]
    exact poll_muted (s := { cleared.withGate (cleared.barrier.gate.begun sleeper) with
      slots := cleared.slots ++ [(slot, wait (cleared.barrier.gate.lastWait + 1))] })

/-- A plain step makes the same turn without observers. -/
theorem step_agrees (unparked : s.barrier.gate.parked = []) (plain : x.isPlain) :
    (s.step x).Agrees (s.muted.step x) := by
  cases x with
  | apply event => exact ofOutcome_agrees (s.barrier.apply_agrees unparked s.now event) _
  | evict context => exact ofOutcome_agrees (s.barrier.evict_agrees unparked context) _
  | evictAll => exact ofOutcome_agrees (s.barrier.evictAll_agrees unparked) _
  | feed | observe | unobserve | block | park | timeUp => cases plain
  | poll slot =>
    simp only [step, quietly, poll_muted]
    exact ⟨rfl, fun _ => rfl⟩
  | wait slot limit =>
    simp only [step, quietly]
    rw [begin_muted]
    exact ⟨rfl, fun _ => rfl⟩
  | drop slot => exact ⟨abandon_muted, fun _ => rfl⟩
  | _ => exact ⟨rfl, fun _ => rfl⟩

theorem abandon_parked (s : Session) (slot : String) :
    (s.abandon slot).barrier.gate.parked = s.barrier.gate.parked := by
  rw [abandon_gate]
  split
  · exact Gate.retract_parked _ _
  · rfl

theorem poll_parked : (s.poll slot).2.barrier.gate.parked = s.barrier.gate.parked := by
  rw [poll_session]
  split
  · rfl
  · exact abandon_parked s slot

theorem begin_parked {wait : Nat → Slot} (suits : ∀ n, (wait n).sleeper = .task) :
    (s.begin slot .task wait).2.barrier.gate.parked = s.barrier.gate.parked := by
  rcases begin_cases slot suits s with ⟨_, outcome⟩ | ⟨_, _, outcome⟩ | ⟨_, _, outcome⟩
  · rw [outcome, abandon_parked]
  · rw [outcome, abandon_parked]
  · rw [outcome, poll_parked, ← abandon_parked s slot]
    simp [entered, withGate, Gate.begun, suits]

/-- Plain steps park nobody, and registrations do not either. -/
theorem step_unparked (unparked : s.barrier.gate.parked = [])
    (plain : x.isPlain ∨ x.isRegistration) : (s.step x).session.barrier.gate.parked = [] := by
  by_cases mutation : x.isMutation
  · rcases step_mutation mutation (s := s) with
      ⟨_, refused⟩ | ⟨_, value, _, gate, effects, change, _, changed⟩
    · rwa [refused]
    · have still : gate.parked = [] := change.parked.trans unparked
      rw [changed, ofOutcome, Barrier.perform_unparked value effects still]
      exact still
  · cases x with
    | apply | evict | evictAll => exact absurd rfl mutation
    | feed | block | park | timeUp => simp [Step.isPlain, Step.isRegistration] at plain
    | poll slot => exact poll_parked.trans unparked
    | drop slot => exact (abandon_parked s slot).trans unparked
    | wait slot limit =>
      exact (begin_parked fun _ => rfl).trans unparked
    | _ => exact unparked

theorem after_unparked (unparked : s.barrier.gate.parked = []) {steps : List Step}
    (plain : ∀ x ∈ steps, x.isPlain ∨ x.isRegistration) :
    (s.after steps).barrier.gate.parked = [] := by
  induction steps generalizing s with
  | nil => exact unparked
  | cons x rest ih =>
    obtain ⟨first, others⟩ := List.forall_mem_cons.mp plain
    exact ih (step_unparked unparked first) others

/-- The same run without the registrations leaves the same session without its observers. -/
theorem after_muted (unparked : s.barrier.gate.parked = []) {steps : List Step}
    (plain : ∀ x ∈ steps, x.isPlain ∨ x.isRegistration) :
    s.muted.after (steps.filter fun x => !x.isRegistration) = (s.after steps).muted := by
  induction steps generalizing s with
  | nil => rfl
  | cons x rest ih =>
    obtain ⟨first, others⟩ := List.forall_mem_cons.mp plain
    have later := ih (step_unparked unparked first) others
    cases registration : x.isRegistration with
    | true =>
      have same : (s.step x).session.muted = s.muted := by
        cases x <;> first | rfl | cases registration
      rw [same] at later
      rw [List.filter_cons_of_neg (by simp [registration])]
      exact later
    | false =>
      have plain : x.isPlain := by simpa [registration] using first
      rw [List.filter_cons_of_pos (by simp [registration]), after_cons,
        (step_agrees unparked plain).session]
      exact later

/-- Plain steps and registrations in any order leave the session as the steps alone do, apart from
who is registered, and the next step is answered alike unless an observer panics in it. -/
theorem observers_cannot_interfere (limit : Option Nat) (steps : List Step)
    (plain : ∀ x ∈ steps, x.isPlain ∨ x.isRegistration) :
    let seen := (new limit).after steps
    let unseen := (new limit).after (steps.filter fun x => !x.isRegistration)
    unseen = { seen with barrier := { seen.barrier with audience := .empty } } ∧
      ∀ x : Step, x.isPlain → (seen.step x).answer.isPanic = false →
        (seen.step x).answer = (unseen.step x).answer := by
  intro seen unseen
  have same : unseen = seen.muted := after_muted (s := new limit) rfl plain
  have unparked : seen.barrier.gate.parked = [] := after_unparked rfl plain
  refine ⟨same, fun x plain => ?_⟩
  rw [same]
  exact (step_agrees unparked plain).answer

/-- An observer panics while the last handle is closed, and keeps the one behind it from hearing of
it; the task that waits for this is released all the same. -/
theorem task_wakes_despite_panic :
    let opening : List Step := [.observe "p" { closed := fun _ => [.panic] }, .observe "q" {},
      .apply ⟨.opened, ⟨"A", "x"⟩⟩, .wait "t" none]
    let closing : Step := .apply ⟨.closed, ⟨"A", "x"⟩⟩
    let seen := (new none).after (opening ++ [closing])
    let unseen := (new none).after [.apply ⟨.opened, ⟨"A", "x"⟩⟩, .wait "t" none, closing]
    (((new none).after opening).step closing).answer = .panicked "p" ∧
      (seen.step (.poll "t")).answer = (unseen.step (.poll "t")).answer ∧
      (unseen.step (.poll "t")).answer = .ok := by
  intro opening closing seen unseen
  have panicked : (((new none).after opening).step closing).answer = .panicked "p" := by
    unfold opening closing
    decide +kernel
  have released : (unseen.step (.poll "t")).answer = .ok := by decide
  have polled : (seen.step (.poll "t")).answer.isPanic = false := by decide
  obtain ⟨_, alike⟩ := observers_cannot_interfere none (opening ++ [closing]) (by decide)
  exact ⟨panicked, alike (.poll "t") rfl polled, released⟩

end Session

end Quiescence
