import Quiescence.Replay
import Quiescence.Proofs.Barrier.Account
import Quiescence.Proofs.Barrier.Delivery
import Quiescence.Proofs.Replay.BusyPeriod

/-! # The barrier of a replay

The only observer of a replay signals to the waiter what is opened and does nothing else. So nobody
panics, and what is open is at all times what the script says: an event that is refused would not
have altered it. Whenever something is opened where nothing was open, the waiter is signalled.
-/

namespace Quiescence

/-- The first handle that is opened is told. -/
theorem Follows.opened_mem {notices : List Notice} {last : Finset Handle}
    (follows : Follows ∅ notices last) (filled : last ≠ ∅) : ∃ h, .opened h ∈ notices := by
  cases follows with
  | nil => exact absurd rfl filled
  | opened => exact ⟨_, List.mem_cons_self⟩
  | modified present => cases present
  | closed present => cases present
  | emptied present => cases present

namespace Gate

variable {g next : Gate} {now : Moment} {event : Event}

theorem opened_of_applied (tallied : g.ledger.Tallied) {effects : List Effect}
    (applied : g.apply now event = .ok (next, effects)) :
    next.ledger.opened = event.alter g.ledger.opened := by
  unfold Event.alter
  rcases apply_cases applied with ⟨ledger, kind, added, rfl, _⟩ | ⟨ledger, kind, marked, rfl, _⟩ |
    ⟨ledger, kind, removed, rfl, _⟩
  · rw [kind]
    exact (tallied.opened_add added).2
  · rw [kind]
    exact (tallied.opened_mark marked).2
  · rw [kind, settle_ledger]
    exact (tallied.opened_remove removed).2

theorem opened_of_refused (tallied : g.ledger.Tallied) {fault : Fault}
    (refused : g.apply now event = .error fault) :
    g.ledger.opened = event.alter g.ledger.opened := by
  unfold Event.alter
  cases kind : event.kind with
  | opened =>
    rcases Ledger.add_cases now event.handle g.ledger with ⟨present, _⟩ | ⟨_, ledger, added⟩
    · exact (Finset.insert_eq_of_mem ((tallied.mem_opened_iff _).mpr present)).symm
    · simp [apply, kind, added, bind, Except.bind, pure, Except.pure] at refused
  | modified => rfl
  | closed =>
    rcases Ledger.remove_cases event.handle g.ledger with ⟨absent, _⟩ | ⟨_, ledger, removed⟩
    · refine (Finset.erase_eq_of_notMem fun present => ?_).symm
      rw [tallied.mem_opened_iff, absent] at present
      cases present
    · simp [apply, kind, removed, bind, Except.bind, pure, Except.pure] at refused

end Gate

/-- What an event leaves of a barrier whose observers neither panic nor change who is registered. -/
structure Barrier.Receives (b : Barrier) (event : Event) (outcome : Outcome Unit) : Prop where
  audience : outcome.barrier.audience.Alike b.audience
  waitLimit : outcome.barrier.waitLimit = b.waitLimit
  gate : ∃ ledger : Ledger, ledger.Tallied ∧ ledger.opened = event.alter b.gate.ledger.opened ∧
    (outcome.barrier.gate = b.gate.settle ledger ∨
      outcome.barrier.gate = (b.gate.settle ledger).signal)
  told : b.gate.ledger.opened = ∅ → event.alter b.gate.ledger.opened ≠ ∅ →
    ∃ h, ∀ observer ∈ b.audience.registered, (observer, .opened h) ∈ heard outcome.log

theorem Barrier.apply_receives {b : Barrier} (sound : b.gate.Sound)
    (steady : ∀ notice, b.audience.Steady notice) (now : Moment) (event : Event) :
    b.Receives event (b.apply now event) := by
  have tallied := sound.tallied
  cases applied : b.gate.apply now event with
  | error fault =>
    have same := Gate.opened_of_refused tallied applied
    simp only [apply, applied]
    refine ⟨.refl _, rfl, ⟨_, tallied, same, .inl (Gate.Change.untouched.eq_settle sound).2⟩, ?_⟩
    intro empty filled
    rw [← same] at filled
    exact absurd empty filled
  | ok result =>
    obtain ⟨gate, effects⟩ := result
    obtain ⟨settled, settles⟩ := (Gate.change_of_apply applied).eq_settle sound
    have opened := Gate.opened_of_applied tallied applied
    obtain ⟨_, alike, _, hears⟩ :=
      perform_steady () effects { b with gate } fun notice _ => steady notice
    simp only [apply, applied]
    refine ⟨alike, perform_waitLimit () effects { b with gate }, ⟨_, settled, opened, ?_⟩, ?_⟩
    · rw [← settles]
      exact perform_gate () effects { b with gate }
    · intro empty filled
      have follows := Gate.apply_follows tallied applied
      rw [empty, opened] at follows
      obtain ⟨h, told⟩ := follows.opened_mem filled
      refine ⟨h, fun observer registered => ?_⟩
      rw [hears]
      exact List.mem_flatMap.mpr ⟨_, told, List.mem_map.mpr ⟨observer, registered, rfl⟩⟩

namespace Barrier.Receives

variable {b : Barrier} {event : Event} {outcome : Outcome Unit}

theorem wait (receives : b.Receives event outcome) : outcome.barrier.gate.wait =
    if outcome.barrier.gate.ledger.isEmpty then .idle else b.gate.wait := by
  obtain ⟨ledger, _, _, settled⟩ := receives.gate
  obtain ⟨left, wait, _⟩ := Gate.settled_parts settled
  rw [wait, left, Gate.settle_wait]

/-- A task is released by the event that leaves nothing open, and stays so. -/
theorem released (receives : b.Receives event outcome) {n : Nat}
    (freed : n ∈ b.gate.released ∨
      outcome.barrier.gate.ledger.isEmpty ∧ b.gate.wait = .active n .task) :
    n ∈ outcome.barrier.gate.released := by
  obtain ⟨ledger, _, _, settled⟩ := receives.gate
  obtain ⟨left, _, _, grows⟩ := Gate.settled_parts settled
  refine grows n ?_
  rw [Gate.settle_released, List.mem_append]
  rcases freed with old | ⟨empty, active⟩
  · exact .inl old
  · rw [left] at empty
    simp [empty, Gate.waitingTask, active]

end Barrier.Receives

/-- The barrier is as the events of a script have left it, and nobody but the signaller listens. -/
structure Barrier.LeftBy (script : Script) (b : Barrier) : Prop where
  sound : b.gate.Sound
  opened : b.gate.ledger.opened = script.openAfter script.length
  registered : b.audience.registered = [signaller]
  steady : ∀ notice, b.audience.Steady notice

namespace Barrier.LeftBy

variable {b : Barrier} {script : Script}

theorem isEmpty_iff (left : b.LeftBy script) :
    b.gate.ledger.isEmpty ↔ script.openAfter script.length = ∅ := by
  rw [left.sound.tallied.isEmpty_iff, left.opened]

theorem filled (left : b.LeftBy script) (filled : b.gate.ledger.isEmpty = false) :
    script.openAfter script.length ≠ ∅ := by
  rw [Ne, ← left.isEmpty_iff, filled]
  exact Bool.false_ne_true

/-- A wait makes no difference to what the script has left. -/
theorem of_gate (left : b.LeftBy script) {gate : Gate} (sound : gate.Sound)
    (same : gate.ledger = b.gate.ledger) : { b with gate }.LeftBy script where
  sound
  opened := by rw [same, left.opened]
  registered := left.registered
  steady := left.steady

theorem receives (left : b.LeftBy script) (now : Moment) (event : Event) :
    b.Receives event (b.apply now event) :=
  apply_receives left.sound left.steady now event

theorem apply (left : b.LeftBy script) (now : Moment) (next : Arrival) :
    (b.apply now next.event).barrier.LeftBy (script ++ [next]) := by
  obtain ⟨alike, _, ⟨ledger, tallied, opened, settled⟩, _⟩ := left.receives now next.event
  refine ⟨?_, ?_, alike.registered.trans left.registered, fun notice => ?_⟩
  · rcases settled with same | signalled
    · exact same ▸ left.sound.settle tallied
    · exact signalled ▸ (left.sound.settle tallied).signal
  · rw [(Gate.settled_parts settled).1, opened, left.opened, Script.openAfter_whole_concat]
  · exact (left.steady notice).of_alike alike

/-- The waiter is signalled when something is opened where nothing was open. -/
theorem signals (left : b.LeftBy script) (now : Moment) (next : Arrival)
    (empty : b.gate.ledger.isEmpty)
    (filled : (b.apply now next.event).barrier.gate.ledger.isEmpty = false) :
    (b.apply now next.event).log.any Callback.isSignal := by
  have nothing := left.opened.trans (left.isEmpty_iff.mp empty)
  have something : next.event.alter b.gate.ledger.opened ≠ ∅ := by
    rw [left.opened, ← Script.openAfter_whole_concat]
    exact (left.apply now next).filled filled
  obtain ⟨h, told⟩ := (left.receives now next.event).told nothing something
  have heard := told signaller (by simp [left.registered])
  obtain ⟨callback, logged, tells⟩ := List.mem_filterMap.mp heard
  refine List.any_eq_true.mpr ⟨callback, logged, ?_⟩
  cases callback with
  | removed => cases tells
  | told observer notice glimpse =>
    obtain ⟨rfl, rfl⟩ := Prod.mk.inj (Option.some.inj tells)
    rfl

end Barrier.LeftBy

namespace Replay

/-! ## Replays that get a queue -/

section Run

variable {stamp : Nat → Moment} {script : Script} {settings : Settings} {mode : ReplayMode}
  {pace : Replay → Nat}

theorem run_eq_none_iff :
    run stamp script settings mode pace = none ↔ mostRoom < settings.barrier.capacity := by
  rw [run, Option.map_eq_none_iff, Room.ofCapacity?_eq_none_iff]

/-- Whatever is reported was replayed through a queue. -/
theorem exists_play {summary : Summary}
    (reported : run stamp script settings mode pace = some summary) : ∃ room, play stamp script settings mode pace room = summary := by
  obtain ⟨room, _, played⟩ := Option.map_eq_some_iff.mp reported
  exact ⟨room, played⟩

end Run

/-! ## The start -/

theorem leftBy_start (settings : Settings) (mode : ReplayMode) (room : Room) :
    (start settings mode room).barrier.LeftBy [] where
  sound := Gate.sound_new
  opened := Ledger.tallied_empty.isEmpty_iff.mp rfl
  registered := rfl
  steady notice _ := by cases notice <;> exact ⟨rfl, rfl⟩

/-! ## What an arrival leaves -/

section Take

variable (stamp : Nat → Moment) (event : Event) (r : Replay)

/-- The queue is emptied at once, so the barrier takes in the event as if there were no queue. -/
theorem take_eq : ∃ applied rejected,
    let outcome := r.barrier.apply (stamp r.clock) event
    r.take stamp event = { r with
      barrier := outcome.barrier
      applied, rejected
      signalled := r.signalled || outcome.log.any Callback.isSignal } := by
  have arrives : r.barrier.arriving (stamp r.clock) [event] = [event] := by
    simp only [Barrier.arriving]
    split <;> rfl
  have barrier : (r.barrier.feed (stamp r.clock) r.room [event]).barrier =
      (r.barrier.apply (stamp r.clock) event).barrier := by
    rw [Barrier.feed_barrier, arrives]
    rfl
  have log : (r.barrier.feed (stamp r.clock) r.room [event]).log =
      (r.barrier.apply (stamp r.clock) event).log := by
    rw [Barrier.feed_log, arrives]
    exact List.append_nil _
  simp only [take, barrier, log]
  split
  · exact ⟨_, _, rfl⟩
  · exact ⟨_, _, rfl⟩
  · exact ⟨_, _, rfl⟩

@[simp]
theorem take_watch : (r.take stamp event).watch = r.watch := by
  obtain ⟨_, _, taken⟩ := take_eq stamp event r
  rw [taken]

@[simp]
theorem take_delivered : (r.take stamp event).delivered = r.delivered := by
  obtain ⟨_, _, taken⟩ := take_eq stamp event r
  rw [taken]

end Take

end Replay

end Quiescence
