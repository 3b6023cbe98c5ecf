import Quiescence.Proofs.Barrier.Pace
import Quiescence.Proofs.Session.Adds
import Quiescence.Proofs.Session.LastEvent
import Quiescence.Proofs.Session.Unobserved

/-! # A feed applies its events one by one

What a feed does to a session is what its events do that are applied one by one: the same handles
are open, the same waits go on, and the same callbacks are made in the same order. The report counts
the answers. If an observer panics, the event that is under way is the last one; its change is
complete, the rest of the queue is lost, and the session goes on from there.
-/

namespace Quiescence

/-! ## The change of an event is complete -/

/-- Two gates have the same handles open and the same waiter. -/
structure Gate.Alike (other g : Gate) : Prop where
  ledger : other.ledger = g.ledger
  wait : other.wait = g.wait
  lastWait : other.lastWait = g.lastWait

namespace Gate.Alike

variable {g other third : Gate}

theorem trans (first : third.Alike other) (second : other.Alike g) : third.Alike g :=
  ⟨first.ledger.trans second.ledger, first.wait.trans second.wait,
    first.lastWait.trans second.lastWait⟩

theorem symm (alike : other.Alike g) : g.Alike other :=
  ⟨alike.ledger.symm, alike.wait.symm, alike.lastWait.symm⟩

theorem settle (alike : other.Alike g) (ledger : Ledger) :
    (other.settle ledger).Alike (g.settle ledger) where
  ledger := by simp
  wait := by rw [settle_wait, settle_wait, alike.wait]
  lastWait := by simpa using alike.lastWait

theorem apply (alike : other.Alike g) (now : Moment) (event : Event) :
    (∃ fault, g.apply now event = .error fault ∧ other.apply now event = .error fault) ∨
    ∃ result resultOther, g.apply now event = .ok result ∧
      other.apply now event = .ok resultOther ∧ resultOther.1.Alike result.1 :=
  apply_rel (R := fun two one => two.1.Alike one.1) alike.ledger
    (fun _ _ => ⟨rfl, alike.wait, alike.lastWait⟩) (fun ledger _ => alike.settle ledger) now event

end Gate.Alike

namespace Barrier

/-- Effects leave the handles and the waiter to the change before them. -/
theorem perform_alike {α : Type} (value : α) (effects : List Effect) (b : Barrier) :
    (b.perform value effects).barrier.gate.Alike b.gate := by
  rcases perform_gate value effects b with same | signalled
  · rw [same]
    exact ⟨rfl, rfl, rfl⟩
  · rw [signalled]
    exact ⟨rfl, rfl, rfl⟩

/-- What an event does to the handles and the waiter does not depend on who hears of it. -/
theorem apply_alike {b other : Barrier} (alike : other.gate.Alike b.gate) (now : Moment)
    (event : Event) :
    (other.apply now event).barrier.gate.Alike (b.apply now event).barrier.gate := by
  unfold apply
  rcases alike.apply now event with ⟨fault, refused, refusedOther⟩ |
    ⟨⟨next, effects⟩, ⟨nextOther, effectsOther⟩, applied, appliedOther, changed⟩
  · simpa only [refused, refusedOther] using alike
  · simp only [applied, appliedOther]
    exact (perform_alike () effectsOther { other with gate := nextOther }).trans
      (changed.trans (perform_alike () effects { b with gate := next }).symm)

end Barrier

namespace Session

variable {s other : Session} {events prior rest : List Event} {event : Event} {capacity : Nat}

theorem after_applies_alike (alike : other.barrier.gate.Alike s.barrier.gate)
    (clock : other.clock = s.clock) (events : List Event) :
    (other.after (events.map .apply)).barrier.gate.Alike
      (s.after (events.map .apply)).barrier.gate := by
  induction events generalizing s other with
  | nil => exact alike
  | cons event rest ih =>
    have now : other.now = s.now := by simp only [Session.now, clock]
    have first := Barrier.apply_alike alike s.now event
    have next : (other.step (.apply event)).session.barrier.gate.Alike
        (s.step (.apply event)).session.barrier.gate := by
      simpa only [step, ofOutcome, now] using first
    exact ih next clock

/-! ## The events one by one -/

/-- Applying events changes nothing but the barrier. -/
theorem after_applies_barrier (s : Session) (events : List Event) :
    { s with barrier := (s.after (events.map .apply)).barrier } = s.after (events.map .apply) := by
  induction events generalizing s with
  | nil => rfl
  | cons event rest ih => exact ih (s.step (.apply event)).session

/-- The report goes on to count the answers to some events. -/
def tally (report : FeedReport) (answers : List Answer) : FeedReport :=
  ⟨report.applied + answers.count .ok, report.rejected + answers.countP Answer.isRefusal⟩

/-- Unless an observer panics, an event is counted once. -/
theorem count_of_calm (calm : (s.step (.apply event)).answer.isPanic = false)
    (report : FeedReport) :
    ∃ counted, report.count? (s.barrier.apply s.now event).reply = some counted ∧
      counted.applied + counted.rejected = report.applied + report.rejected + 1 ∧
      ∀ answers, tally report ((s.step (.apply event)).answer :: answers) =
        tally counted answers := by
  cases reply : (s.barrier.apply s.now event).reply with
  | panicked => simp [step, ofOutcome, reply, Answer.isPanic] at calm
  | done _ =>
    refine ⟨⟨report.applied + 1, report.rejected⟩, rfl, Nat.add_right_comm .., fun answers => ?_⟩
    simp [step, ofOutcome, reply, tally, Answer.isRefusal]
    omega
  | refused fault =>
    refine ⟨⟨report.applied, report.rejected + 1⟩, rfl, rfl, fun answers => ?_⟩
    simp [step, ofOutcome, reply, tally, Answer.isRefusal, List.countP_cons]
    omega

/-- What a queue does to a session in which nobody panics. -/
theorem drainQueue_of_calm (calm : s.Calm (events.map .apply)) (report : FeedReport) :
    s.barrier.drainQueue s.now events report =
      ⟨(s.after (events.map .apply)).barrier, s.callbacks (events.map .apply),
        .done (tally report (s.answers (events.map .apply)))⟩ := by
  induction events generalizing s report with
  | nil => rfl
  | cons event rest ih =>
    obtain ⟨gentle, others⟩ := List.forall_mem_cons.mp calm
    obtain ⟨counted, counts, _, tallied⟩ := count_of_calm gentle report
    have later : (s.barrier.apply s.now event).barrier.drainQueue s.now rest counted = _ :=
      ih (s := (s.step (.apply event)).session) others counted
    rw [Barrier.drainQueue_of_count counts, later, List.map_cons, answers, tallied]
    rfl

theorem tally_total (calm : s.Calm (events.map .apply)) (report : FeedReport) :
    let counted := tally report (s.answers (events.map .apply))
    counted.applied + counted.rejected = report.applied + report.rejected + events.length := by
  induction events generalizing s report with
  | nil => rfl
  | cons event rest ih =>
    obtain ⟨gentle, others⟩ := List.forall_mem_cons.mp calm
    obtain ⟨counted, _, one, tallied⟩ := count_of_calm gentle report
    have later := ih others counted
    simp only [List.map_cons, answers, tallied, List.length_cons] at later ⊢
    omega

/-- A feed does to the session what the queue does to the barrier. -/
theorem step_feed_of_drained {arrived : List Event} {reply : Reply FeedReport}
    (drained : s.barrier.drainQueue s.now events ⟨0, 0⟩ =
      ⟨(s.after (arrived.map .apply)).barrier, s.callbacks (arrived.map .apply), reply⟩)
    (fits : capacity ≤ mostRoom) :
    s.step (.feed capacity events) =
      let whole := s.after (arrived.map .apply)
      let turn := whole.ofOutcome .fed ⟨whole.barrier, s.callbacks (arrived.map .apply), reply⟩
      { turn with answer := turn.answer.ofFeed } := by
  rw [step_feed_of_fits fits, ofOutcome, drained]
  simp only [after_applies_barrier, ofOutcome]

theorem feed_of_calm (calm : s.Calm (events.map .apply)) (fits : capacity ≤ mostRoom) :
    s.step (.feed capacity events) =
      ⟨s.after (events.map .apply), s.callbacks (events.map .apply),
        .fed (tally ⟨0, 0⟩ (s.answers (events.map .apply)))⟩ :=
  step_feed_of_drained (drainQueue_of_calm calm ⟨0, 0⟩) fits

/-! ## The first panic -/

/-- The event at which an observer panics is the last one that arrives. -/
theorem feed_of_panic (calm : s.Calm (prior.map .apply))
    (panics : ((s.after (prior.map .apply)).step (.apply event)).answer.isPanic)
    (fits : capacity ≤ mostRoom) (rest : List Event) :
    s.step (.feed capacity (prior ++ event :: rest)) =
      ⟨s.after ((prior ++ [event]).map .apply), s.callbacks ((prior ++ [event]).map .apply),
        .feedPanicked⟩ := by
  have now : (s.after (prior.map .apply)).now = s.now := by
    rw [← after_applies_barrier]
    rfl
  have broken : ∃ observer,
      ((s.after (prior.map .apply)).barrier.apply s.now event).reply = .panicked observer := by
    rw [← now]
    cases reply : ((s.after (prior.map .apply)).barrier.apply
        (s.after (prior.map .apply)).now event).reply with
    | panicked observer => exact ⟨observer, rfl⟩
    | done | refused => simp [step, ofOutcome, reply, Answer.isPanic] at panics
  obtain ⟨observer, broken⟩ := broken
  have drained : s.barrier.drainQueue s.now (prior ++ event :: rest) ⟨0, 0⟩ =
      ⟨(s.after ((prior ++ [event]).map .apply)).barrier,
        s.callbacks ((prior ++ [event]).map .apply), .panicked observer⟩ := by
    rw [Barrier.drainQueue_append, drainQueue_of_calm calm, List.map_append, after_append,
      callbacks_append]
    simp only [Barrier.drainQueue_of_panic broken]
    rw [← now]
    simp [callbacks, step, ofOutcome]
  exact step_feed_of_drained drained fits

theorem exists_first_panic (uneasy : ¬ s.Calm (events.map .apply)) :
    ∃ prior event rest, events = prior ++ event :: rest ∧ s.Calm (prior.map .apply) ∧
      ((s.after (prior.map .apply)).step (.apply event)).answer.isPanic := by
  induction events generalizing s with
  | nil => exact absurd nofun uneasy
  | cons event rest ih =>
    cases panics : (s.step (.apply event)).answer.isPanic with
    | true => exact ⟨[], event, rest, rfl, nofun, panics⟩
    | false =>
      have later : ¬ (s.step (.apply event)).session.Calm (rest.map .apply) :=
        fun others => uneasy (List.forall_mem_cons.mpr ⟨panics, others⟩)
      obtain ⟨prior, next, behind, rfl, calm, panicked⟩ := ih later
      exact ⟨event :: prior, next, behind, rfl, List.forall_mem_cons.mpr ⟨panics, calm⟩, panicked⟩

/-- After some events, panics or not, the session answers as if nobody observed it. -/
theorem answer_after_applies (unparked : s.barrier.gate.parked = []) (events : List Event)
    {later : List Step} (plain : ∀ x ∈ later, x.isPlain ∨ x.isRegistration) {x : Step}
    (asked : x.isPlain) :
    let seen := (s.after (events.map .apply)).after later
    let unseen := (s.muted.after (events.map .apply)).after (later.filter fun x => !x.isRegistration)
    (seen.step x).answer.isPanic = false → (seen.step x).answer = (unseen.step x).answer := by
  intro seen unseen
  have applies : ∀ x ∈ events.map Step.apply, x.isPlain ∧ x.isRegistration = false := by
    intro x member
    obtain ⟨event, _, rfl⟩ := List.mem_map.mp member
    exact ⟨rfl, rfl⟩
  have whole : ∀ x ∈ events.map Step.apply ++ later, x.isPlain ∨ x.isRegistration :=
    List.forall_mem_append.mpr ⟨fun x member => .inl (applies x member).1, plain⟩
  have kept : (events.map Step.apply).filter (fun x => !x.isRegistration) = events.map .apply :=
    List.filter_eq_self.mpr fun x member => by simp [(applies x member).2]
  have muted := after_muted unparked whole
  have still := after_unparked unparked whole
  rw [List.filter_append, kept, after_append, after_append] at muted
  rw [after_append] at still
  have same : unseen = seen.muted := muted
  rw [same]
  exact (step_agrees still asked).answer

/-! ## Feeds -/

/-- If there can be a queue, then whatever its room and the pace at which it is emptied, a feed does
what its events do one by one. It reports how they were answered, or an observer panics at one of
them; then this event is the last one, and the handles and the waiter are those that the same events
leave if nobody observes them. Unless a thread is parked, everything that follows goes on from there
as if nobody did. If there can be no queue, no event has any effect. -/
theorem feed_applies_one_by_one (s : Session) (capacity : Nat) (events : List Event) :
    let applies := events.map Step.apply
    let answers := s.answers applies
    let turn := s.step (.feed capacity events)
    (mostRoom < capacity → turn = ⟨s, [], .noQueue⟩) ∧
    (capacity ≤ mostRoom →
      (∃ room, Room.ofCapacity? capacity = some room ∧ room.size = max capacity 1 ∧
        ∀ outcome, Barrier.Feeds s.now room.size events [] ⟨0, 0⟩ s.barrier outcome ↔
          outcome = s.barrier.feed s.now room events) ∧
      (∀ other ≤ mostRoom, s.step (.feed other events) = turn) ∧
      (s.Calm applies →
        turn.session = s.after applies ∧ turn.log = s.callbacks applies ∧
          turn.answer = .fed ⟨answers.count .ok, answers.countP Answer.isRefusal⟩ ∧
          answers.count .ok + answers.countP Answer.isRefusal = events.length) ∧
      (turn.answer = .feedPanicked ↔ ¬ s.Calm applies) ∧
      ∀ prior event rest, events = prior ++ event :: rest → s.Calm (prior.map .apply) →
        ((s.after (prior.map .apply)).step (.apply event)).answer.isPanic →
        let first := (prior ++ [event]).map Step.apply
        let unseen := s.muted.after first
        turn.session = s.after first ∧ turn.log = s.callbacks first ∧
          turn.session.barrier.gate.Alike unseen.barrier.gate ∧
          (s.Sound → turn.session.Sound) ∧
          (s.barrier.gate.parked = [] →
            ∀ later : List Step, (∀ x ∈ later, x.isPlain ∨ x.isRegistration) →
              ∀ x : Step, x.isPlain → ((turn.session.after later).step x).answer.isPanic = false →
                ((turn.session.after later).step x).answer =
                  ((unseen.after (later.filter fun x => !x.isRegistration)).step x).answer)) := by
  intro applies answers turn
  refine ⟨fun large => step_feed_of_large large events s, fun fits => ?_⟩
  have alone (calm : s.Calm applies) : turn = _ := feed_of_calm calm fits
  obtain ⟨room, made⟩ := Room.exists_ofCapacity? fits
  refine ⟨⟨room, made, Room.size_of_ofCapacity? made, Barrier.feeds_iff_feed room⟩,
    fun other fitsOther => ?_, fun calm => ?_, ⟨?_, ?_⟩, ?_⟩
  · simp only [turn, step_feed_of_fits fits, step_feed_of_fits fitsOther]
  · have total := tally_total calm ⟨0, 0⟩
    simp only [tally, Nat.zero_add] at total
    rw [alone calm]
    simp only [tally, Nat.zero_add]
    exact ⟨rfl, rfl, rfl, total⟩
  · intro panicked calm
    rw [alone calm] at panicked
    cases panicked
  · intro uneasy
    obtain ⟨prior, event, rest, rfl, calm, panics⟩ := exists_first_panic uneasy
    exact congrArg Turn.answer (feed_of_panic calm panics fits rest)
  · rintro prior event rest rfl calm panics first unseen
    have fed : turn = _ := feed_of_panic calm panics fits rest
    have start : s.barrier.gate.Alike s.muted.barrier.gate := ⟨rfl, rfl, rfl⟩
    have alike : (s.after first).barrier.gate.Alike unseen.barrier.gate :=
      after_applies_alike start rfl (prior ++ [event])
    rw [fed]
    exact ⟨rfl, rfl, alike, fun sound => sound.after first, fun unparked later plain x =>
      answer_after_applies unparked (prior ++ [event]) plain⟩

/-- An observer that panics at one of the handles only does so in the middle of a feed, at the event
that releases a waiting task. The event behind it is lost, and everything goes on: the task has been
woken, and the next one can wait. -/
theorem feed_broken_off :
    let s := (new none).after
      [.observe "p" { closed := fun h => if h.name = "x" then [.panic] else [] },
        .apply ⟨.opened, ⟨"A", "x"⟩⟩, .wait "t" none]
    let prior : List Event :=
      [⟨.opened, ⟨"A", "x"⟩⟩, ⟨.opened, ⟨"B", "z"⟩⟩, ⟨.closed, ⟨"B", "z"⟩⟩]
    let turn := s.step
      (.feed 0 (prior ++ ⟨.closed, ⟨"A", "x"⟩⟩ :: [⟨.opened, ⟨"A", "y"⟩⟩]))
    s.Calm (prior.map .apply) ∧ (s.step (.feed 0 prior)).answer = .fed ⟨2, 1⟩ ∧
      turn.answer = .feedPanicked ∧
      turn.session.answers [.poll "t", .isOpen ⟨"A", "y"⟩, .apply ⟨.opened, ⟨"A", "y"⟩⟩,
        .wait "t" none] = [.ok, .flag false, .ok, .pending] := by
  intro s prior turn
  have answers : s.answers (prior.map .apply) =
      [.refused (.alreadyOpen ⟨"A", "x"⟩), .ok, .ok] := by
    unfold s prior
    decide +kernel
  have calm : s.Calm (prior.map .apply) := by
    rw [Calm, answers]
    decide
  have panics : ((s.after (prior.map .apply)).step
      (.apply ⟨.closed, ⟨"A", "x"⟩⟩)).answer = .panicked "p" := by
    unfold s prior
    decide +kernel
  obtain ⟨_, _, counted, _, _⟩ := (feed_applies_one_by_one s 0 prior).2 (by decide)
  obtain ⟨_, _, _, broken, upTo⟩ := (feed_applies_one_by_one s 0
    (prior ++ ⟨.closed, ⟨"A", "x"⟩⟩ :: [⟨.opened, ⟨"A", "y"⟩⟩])).2 (by decide)
  obtain ⟨session, _⟩ := upTo prior _ _ rfl calm (by rw [panics]; rfl)
  refine ⟨calm, ?_, broken.mpr fun whole => ?_, ?_⟩
  · rw [(counted calm).2.2.1, answers]
    decide
  · rw [List.map_append, calm_append] at whole
    have gentle := (List.forall_mem_cons.mp whole.2).1
    rw [panics] at gentle
    cases gentle
  · rw [session]
    unfold s prior
    decide +kernel

/-- An event that is applied alone is accepted, but of a queue with more room than there can be it
never gets out. -/
theorem feed_without_queue :
    let event : Event := ⟨.opened, ⟨"A", "x"⟩⟩
    ((new none).step (.apply event)).answer = .ok ∧
      ((new none).step (.feed mostRoom [event])).answer = .fed ⟨1, 0⟩ ∧
      ((new none).step (.feed (mostRoom + 1) [event])).answer = .noQueue ∧
      ((new none).step (.feed (mostRoom + 1) [event])).session.barrier.gate.ledger.isEmpty := by
  decide

end Session

end Quiescence
