import Quiescence.Proofs.Barrier.Panic
import Quiescence.Proofs.Session.Account
import Quiescence.Proofs.Session.Course

/-! # What an operation tells to whom

An operation tells what it did to the handles, one notice each, in the order in which its answer
names them, and then quiescence if it left nothing open where something was open before. Every
notice is for all registrations that stand when it goes out, in their order. A panic ends the
telling with the callback in which it happens, and where nothing was done, nothing is told.
-/

namespace Quiescence

/-- What observers are told of an event that is accepted. -/
def Event.notice (event : Event) : Notice :=
  match event.kind with
  | .opened => .opened event.handle
  | .closed => .closed event.handle
  | .modified => .modified event.handle

/-- The observer whose panic ended a step. -/
def Answer.panicker? : Answer → Option String
  | .panicked observer => some observer
  | _ => none

/-- What an operation has done to which handles, in the order of its answer. -/
def Step.report? : Step → Answer → Option (List Notice)
  | .apply event, .ok => some [event.notice]
  | .evict context, .names names => some (names.map fun name => .closed ⟨context, name⟩)
  | .evictAll, .handles handles => some (handles.map .closed)
  | _, .refused _ => some []
  | _, _ => none

namespace Gate

variable {g next : Gate} {now : Moment} {event : Event} {effects : List Effect}

/-- Whether an event fits what is open: only what is not open can be opened, and only what is open
can be closed or modified. -/
def accepts (g : Gate) (event : Event) : Bool :=
  g.ledger.contains event.handle == (event.kind != .opened)

theorem accepts_of_apply_ok (applied : g.apply now event = .ok (next, effects)) :
    g.accepts event := by
  rcases apply_cases applied with ⟨_, kind, added, _⟩ | ⟨_, kind, marked, _⟩ |
    ⟨_, kind, removed, _⟩
  · rcases Ledger.add_cases now event.handle g.ledger with ⟨_, error⟩ | ⟨absent, _⟩
    · cases added.symm.trans error
    · simp [accepts, kind, absent]
  · rcases Ledger.mark_cases now event.handle g.ledger with ⟨_, error⟩ | ⟨present, _⟩
    · cases marked.symm.trans error
    · simp [accepts, kind, present]
  · rcases Ledger.remove_cases event.handle g.ledger with ⟨_, error⟩ | ⟨present, _⟩
    · cases removed.symm.trans error
    · simp [accepts, kind, present]

theorem accepts_of_apply_error {fault : Fault} (refused : g.apply now event = .error fault) :
    g.accepts event = false := by
  obtain ⟨kind, h⟩ := event
  cases kind with
  | opened =>
    rcases Ledger.add_cases now h g.ledger with ⟨present, _⟩ | ⟨_, ledger, added⟩
    · simp [accepts, present]
    · simp [apply, added, bind, Except.bind, pure, Except.pure] at refused
  | modified =>
    rcases Ledger.mark_cases now h g.ledger with ⟨absent, _⟩ | ⟨_, ledger, marked⟩
    · simp [accepts, absent]
    · simp [apply, marked, bind, Except.bind, pure, Except.pure] at refused
  | closed =>
    rcases Ledger.remove_cases h g.ledger with ⟨absent, _⟩ | ⟨_, ledger, removed⟩
    · simp [accepts, absent]
    · simp [apply, removed, bind, Except.bind, pure, Except.pure] at refused

/-- An accepted event is told, and quiescence after it if nothing is left open, which only a close
brings about. -/
theorem notices_apply (tallied : g.ledger.Tallied)
    (applied : g.apply now event = .ok (next, effects)) :
    notices effects = event.notice ::
      if !g.ledger.isEmpty && next.ledger.isEmpty then [.quiescent] else [] := by
  rcases apply_cases applied with ⟨ledger, kind, added, rfl, rfl⟩ | ⟨ledger, kind, marked, rfl, rfl⟩
    | ⟨ledger, kind, removed, rfl, rfl⟩
  · simp [notices, Effect.notice?, Event.notice, kind, Ledger.isEmpty_of_add added]
  · simp [notices, Effect.notice?, Event.notice, kind, Ledger.isEmpty_of_mark marked]
  · have filled : g.ledger.isEmpty = false := by
      rcases Ledger.remove_cases event.handle g.ledger with ⟨_, error⟩ | ⟨present, _⟩
      · cases removed.symm.trans error
      · exact tallied.filled_of_contains present
    simp [notices_closing, Event.notice, kind, filled]

/-- The closes of what a context holds are told in the order of its names. -/
theorem notices_evict (tallied : g.ledger.Tallied) (context : String) :
    notices (g.evict context).2.2 =
      (g.ledger.names context).map (fun name => .closed ⟨context, name⟩) ++
        if !g.ledger.isEmpty && (g.evict context).2.1.ledger.isEmpty then [.quiescent] else [] := by
  by_cases none : g.ledger.names context = []
  · rw [evict_of_none none, none]
    simp [notices]
  · obtain ⟨name, listed⟩ := List.exists_mem_of_ne_nil _ none
    have filled : g.ledger.isEmpty = false :=
      tallied.filled_of_contains ((tallied.mem_names_iff context name).mp listed)
    rw [evict_of_some none, notices_closing, List.map_map, filled]
    rfl

/-- When everything is closed, the closes are told in handle order. -/
theorem notices_evictAll (tallied : g.ledger.Tallied) :
    notices g.evictAll.2.2 = g.ledger.handles.map .closed ++
      if !g.ledger.isEmpty && g.evictAll.2.1.ledger.isEmpty then [.quiescent] else [] := by
  by_cases none : g.ledger.handles = []
  · rw [evictAll_of_none none, none]
    simp [notices]
  · obtain ⟨h, listed⟩ := List.exists_mem_of_ne_nil _ none
    have filled : g.ledger.isEmpty = false :=
      tallied.filled_of_contains ((tallied.mem_handles_iff h).mp listed)
    rw [evictAll_of_some none, notices_closing, filled]
    rfl

end Gate

namespace Session

variable {s : Session} {x : Step} {o : String}

/-- What an operation does to the handles, in the order in which its answer names them. -/
def deeds (s : Session) : Step → List Notice
  | .apply event => if s.barrier.gate.accepts event then [event.notice] else []
  | .evict context =>
    (s.barrier.gate.ledger.names context).map fun name => .closed ⟨context, name⟩
  | .evictAll => s.barrier.gate.ledger.handles.map .closed
  | _ => []

/-- What is told of an operation: what it does, and quiescence if it leaves nothing open where
something was open before. -/
def told (s : Session) (x : Step) : List Notice :=
  s.deeds x ++ if s.empties x then [.quiescent] else []

/-- What an operation tells, how far the telling gets, and what it answers. -/
structure Announces (s : Session) (x : Step) : Prop where
  /-- Everything is told to all who are registered, up to the first panic, which is the answer. -/
  made : s.barrier.audience.Made (s.barrier.audience.program (s.told x)) (heard (s.step x).log)
    (s.step x).answer.panicker?
  /-- What is told is what happens to the open handles. -/
  accounts : Follows s.opened (s.told x) (s.step x).session.opened
  /-- It is told in the order of the answer. -/
  reported : (s.step x).answer.panicker? = none →
    x.report? (s.step x).answer = some (s.deeds x)
  /-- Where nothing was done, nobody is called. -/
  silent : s.deeds x = [] → (s.step x).log = []

private theorem ofOutcome_panicker? {α : Type} {answer : α → Answer}
    (calm : ∀ value, (answer value).panicker? = none) (outcome : Outcome α) :
    (s.ofOutcome answer outcome).answer.panicker? = outcome.reply.panicker? := by
  unfold ofOutcome
  cases outcome.reply with
  | done value => exact calm value
  | refused | panicked => rfl

/-- What a change tells is what its effects tell. -/
private theorem announces_of_change {α : Type} {value : α} {answer : α → Answer} {gate : Gate}
    {effects : List Effect}
    (changed : s.step x =
      s.ofOutcome answer (Barrier.perform value effects { s.barrier with gate }))
    (told : notices effects = s.told x)
    (follows : Follows s.opened (notices effects) gate.ledger.opened)
    (calm : ∀ value, (answer value).panicker? = none)
    (reported : x.report? (answer value) = some (s.deeds x))
    (silent : s.deeds x = [] → effects = []) : s.Announces x := by
  have made := Barrier.perform_made value effects { s.barrier with gate }
  have opened : (s.step x).session.opened = gate.ledger.opened := by
    rw [changed, Session.opened]
    rcases Barrier.perform_gate value effects { s.barrier with gate } with same | signalled
    · exact congrArg (·.ledger.opened) same
    · exact congrArg (·.ledger.opened) signalled
  refine ⟨?_, ?_, fun whole => ?_, fun nothing => ?_⟩
  · rwa [← told, changed, ofOutcome_panicker? calm]
  · rwa [opened, ← told]
  · rw [changed, ofOutcome_panicker? calm] at whole
    rcases Barrier.perform_reply value effects { s.barrier with gate } with
      done | ⟨observer, panicked⟩
    · rw [changed, ← reported]
      simp only [ofOutcome, done]
    · rw [panicked] at whole
      cases whole
  · rw [changed, silent nothing]
    rfl

/-- No effect touches the ledger, so whether a change has emptied it can be seen from its gate. -/
private theorem empties_of_change {α : Type} {value : α} {answer : α → Answer} {gate : Gate}
    {effects : List Effect}
    (changed : s.step x =
      s.ofOutcome answer (Barrier.perform value effects { s.barrier with gate })) :
    s.empties x = (!s.barrier.gate.ledger.isEmpty && gate.ledger.isEmpty) := by
  rw [Session.empties, changed]
  rcases Barrier.perform_gate value effects { s.barrier with gate } with same | signalled
  · simp only [ofOutcome, same]
  · simp only [ofOutcome, signalled, Gate.signal_ledger]

/-- Where nothing is done, nothing is announced. -/
private theorem announces_of_refused {fault : Fault} (refused : s.step x = ⟨s, [], .refused fault⟩)
    (deeds : s.deeds x = []) : s.Announces x := by
  have told : s.told x = [] := by
    rw [Session.told, deeds, Session.empties, refused]
    simp
  refine ⟨?_, ?_, fun _ => ?_, fun _ => ?_⟩
  · rw [told, refused]
    exact .whole (List.forall_mem_nil _)
  · rw [told, refused]
    exact .nil _
  · rw [deeds, refused]
    cases x <;> rfl
  · rw [refused]

theorem Sound.announces_apply (sound : s.Sound) (event : Event) : s.Announces (.apply event) := by
  have tallied := sound.gate.tallied
  cases applied : s.barrier.gate.apply s.now event with
  | error fault =>
    have refused : s.step (.apply event) = ⟨s, [], .refused fault⟩ := by
      simp only [Session.step, Barrier.apply, applied, ofOutcome]
    refine announces_of_refused refused ?_
    simp [deeds, Gate.accepts_of_apply_error applied]
  | ok result =>
    obtain ⟨gate, effects⟩ := result
    have changed : s.step (.apply event) =
        s.ofOutcome (fun _ => .ok) (Barrier.perform () effects { s.barrier with gate }) := by
      simp only [Session.step, Barrier.apply, applied]
    have deeds : s.deeds (.apply event) = [event.notice] := by
      simp [Session.deeds, Gate.accepts_of_apply_ok applied]
    have told : notices effects = s.told (.apply event) := by
      rw [Gate.notices_apply tallied applied, Session.told, deeds, empties_of_change changed]
      rfl
    exact announces_of_change changed told (Gate.apply_follows tallied applied) (fun _ => rfl)
      (congrArg some deeds.symm) fun none => absurd (deeds.symm.trans none) (by simp)

theorem Sound.announces_evict (sound : s.Sound) (context : String) :
    s.Announces (.evict context) := by
  have tallied := sound.gate.tallied
  have changed : s.step (.evict context) = s.ofOutcome .names
      (Barrier.perform (s.barrier.gate.evict context).1 (s.barrier.gate.evict context).2.2
        { s.barrier with gate := (s.barrier.gate.evict context).2.1 }) := rfl
  have told : notices (s.barrier.gate.evict context).2.2 = s.told (.evict context) := by
    rw [Gate.notices_evict tallied context, Session.told, empties_of_change changed]
    rfl
  refine announces_of_change changed told (Gate.evict_follows tallied context) (fun _ => rfl) ?_
    fun none => ?_
  · rw [Gate.evict_names]
    rfl
  · rw [Gate.evict_of_none (List.map_eq_nil_iff.mp none)]

theorem Sound.announces_evictAll (sound : s.Sound) : s.Announces .evictAll := by
  have tallied := sound.gate.tallied
  have changed : s.step .evictAll = s.ofOutcome .handles
      (Barrier.perform s.barrier.gate.evictAll.1 s.barrier.gate.evictAll.2.2
        { s.barrier with gate := s.barrier.gate.evictAll.2.1 }) := rfl
  have told : notices s.barrier.gate.evictAll.2.2 = s.told .evictAll := by
    rw [Gate.notices_evictAll tallied, Session.told, empties_of_change changed]
    rfl
  refine announces_of_change changed told (Gate.evictAll_follows tallied) (fun _ => rfl) ?_
    fun none => ?_
  · rw [Gate.evictAll_handles]
    rfl
  · rw [Gate.evictAll_of_none (List.map_eq_nil_iff.mp none)]

/-- Whatever changes what is open announces it. -/
theorem Sound.announces (sound : s.Sound) (mutation : x.isMutation) : s.Announces x := by
  cases x with
  | apply event => exact sound.announces_apply event
  | evict context => exact sound.announces_evict context
  | evictAll => exact sound.announces_evictAll
  | _ => cases mutation

/-- How an observer is removed. -/
structure Dismisses (s : Session) (o : String) : Prop where
  /-- The answer says whether it was registered at all. -/
  answer : (s.step (.unobserve o)).answer = .flag (decide (0 < s.registrations o))
  /-- None of its registrations is left. -/
  gone : (s.step (.unobserve o)).session.registrations o = 0
  /-- All registrations of the others are left, in their order. -/
  others : ∀ other, other ≠ o →
    (s.step (.unobserve o)).session.registrations other = s.registrations other
  order : (s.step (.unobserve o)).session.barrier.audience.registered.Sublist
    s.barrier.audience.registered
  silent : (s.step (.unobserve o)).log = []

theorem dismisses (s : Session) (o : String) : s.Dismisses o := by
  have left : (s.step (.unobserve o)).session.barrier.audience.registered =
      s.barrier.audience.registered.filter (· != o) := by
    simp [step, Barrier.unobserve, Audience.remove]
  refine ⟨?_, ?_, fun other different => ?_, ?_, rfl⟩
  · simp [step, Barrier.unobserve, Audience.listens, registrations, Audience.registrations,
      List.count_pos_iff]
  · rw [registrations, Audience.registrations, left]
    exact List.count_eq_zero.mpr (by simp)
  · exact Audience.registrations_remove different.symm s.barrier.audience
  · rw [left]
    exact List.filter_sublist

/-- Whatever observers do, every operation of a run announces itself to those who are registered,
up to the first panic. As long as callbacks do not change who is registered, these are the
registrations that the operation found. An observer that is removed loses all its registrations and
nobody else loses one. The operations of a feed are operations of a run themselves. -/
theorem callbacks_reach_first_panic (limit : Option Nat) (steps : List Step) :
    let s := (new limit).after steps
    (∀ x, x.isMutation → s.Announces x) ∧
    (s.barrier.audience.Passive → ∀ notices,
      s.barrier.audience.program notices = s.barrier.audience.hears notices) ∧
    ∀ o, s.Dismisses o := by
  intro s
  have sound : s.Sound := (sound_new limit).after steps
  exact ⟨fun x mutation => sound.announces mutation, fun passive => passive.program, dismisses s⟩

/-- The second of three registrations panics when it is told of the first close, and the third, of
the same observer as the first, hears nothing of it. -/
theorem panic_ends_telling :
    let s := (new none).after [.apply ⟨.opened, ⟨"A", "x"⟩⟩, .apply ⟨.opened, ⟨"A", "y"⟩⟩,
      .observe "p" {}, .observe "q" { closed := fun _ => [.panic] }, .observe "p" {}]
    let turn := s.step (.evict "A")
    let made : List (String × Notice) := [("p", .closed ⟨"A", "x"⟩), ("q", .closed ⟨"A", "x"⟩)]
    turn.answer = .panicked "q" ∧ heard turn.log = made ∧
      s.barrier.audience.Made (s.barrier.audience.program (s.told (.evict "A"))) made
        (some "q") := by
  intro s turn made
  have answer : turn.answer = .panicked "q" := by
    simp only [turn, s, step, Barrier.evict, Gate.evict, Ledger.clearContext,
      Ledger.names_eq_insertionSort]
    decide +kernel
  have log : heard turn.log = made := by
    simp only [turn, s, made, step, Barrier.evict, Gate.evict, Ledger.clearContext,
      Ledger.names_eq_insertionSort]
    decide +kernel
  have run := ((callbacks_reach_first_panic none _).1 (.evict "A") rfl : s.Announces _).made
  rw [show (s.step (.evict "A")).answer = .panicked "q" from answer,
    show heard (s.step (.evict "A")).log = made from log] at run
  exact ⟨answer, log, run⟩

/-- An observer that is registered in a callback is told of the next close already, although it was
not registered when the operation began. -/
theorem newcomer_hears_next_close :
    let s := (new none).after [.apply ⟨.opened, ⟨"A", "x"⟩⟩, .apply ⟨.opened, ⟨"A", "y"⟩⟩,
      .observe "p" { closed := fun _ => [.add "o"] }]
    let turn := s.step (.evict "A")
    turn.answer = .names ["x", "y"] ∧ s.barrier.audience.registered = ["p"] ∧
      heard turn.log = [("p", .closed ⟨"A", "x"⟩), ("p", .closed ⟨"A", "y"⟩),
        ("o", .closed ⟨"A", "y"⟩), ("p", .quiescent), ("o", .quiescent), ("o", .quiescent)] ∧
      ¬ heard turn.log <+: s.barrier.audience.hears
        [.closed ⟨"A", "x"⟩, .closed ⟨"A", "y"⟩, .quiescent] := by
  intro s turn
  have answer : turn.answer = .names ["x", "y"] := by
    simp only [turn, s, step, Barrier.evict, Gate.evict, Ledger.clearContext,
      Ledger.names_eq_insertionSort]
    decide +kernel
  have registered : s.barrier.audience.registered = ["p"] := by decide
  have log : heard turn.log = [("p", .closed ⟨"A", "x"⟩), ("p", .closed ⟨"A", "y"⟩),
      ("o", .closed ⟨"A", "y"⟩), ("p", .quiescent), ("o", .quiescent), ("o", .quiescent)] := by
    simp only [turn, s, step, Barrier.evict, Gate.evict, Ledger.clearContext,
      Ledger.names_eq_insertionSort]
    decide +kernel
  refine ⟨answer, registered, log, ?_⟩
  rw [log, Audience.hears, registered]
  decide

end Session

end Quiescence
