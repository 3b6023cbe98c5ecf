import Quiescence.Proofs.Event.Reordering
import Quiescence.Proofs.Session.Feeding

/-! # Many producers

Events that come from several producers reach a barrier in an order that nobody controls. As long as
the events about one handle keep their order and nobody panics, every order leaves the same handles
open with the same marks, and each event is answered alike. The number of the contexts in use comes
out the same as well, although events about different handles of one context share its entry, which
comes and goes at different times.
-/

namespace Quiescence

namespace Session

variable {s : Session} {past : Past} {one other events : List Event}

/-- Some events, each with its answer, when they are applied one by one. -/
def answered (s : Session) (events : List Event) : List (Event × Answer) :=
  events.zip (s.answers (events.map .apply))

/-- The answers are the verdicts of the events so far. -/
theorem answered_eq (records : s.barrier.gate.ledger.Records past)
    (calm : s.Calm (events.map .apply)) :
    s.answered events = (past.verdicts events).map fun v => (v.1, .ofFault? v.2) := by
  induction events generalizing s past with
  | nil => rfl
  | cons event rest ih =>
    obtain ⟨now, later⟩ := List.forall_mem_cons.mp calm
    have recorded := step_records records rfl now
    exact congrArg₂ List.cons (Prod.ext rfl (answer_apply records now)) (ih recorded later)

theorem answers_eq_answered (s : Session) (events : List Event) :
    s.answers (events.map .apply) = (s.answered events).map Prod.snd := by
  induction events generalizing s with
  | nil => rfl
  | cons event rest ih => exact congrArg (_ :: ·) (ih _)

/-- What two lists of events do to a session cannot be told apart but by times and by the order of
the answers. -/
structure SameOutcome (s : Session) (one other : List Event) : Prop where
  /-- The same handles are open, and the same ones of them have been modified. -/
  marks : ((s.after (one.map .apply)).barrier.gate.ledger.rows.map fun row =>
      (row.handle, row.modifiedAt.isSome)) =
    (s.after (other.map .apply)).barrier.gate.ledger.rows.map fun row =>
      (row.handle, row.modifiedAt.isSome)
  count : (s.after (one.map .apply)).barrier.gate.ledger.count =
    (s.after (other.map .apply)).barrier.gate.ledger.count
  contextsInUse : (s.after (one.map .apply)).barrier.gate.ledger.contextsInUse =
    (s.after (other.map .apply)).barrier.gate.ledger.contextsInUse
  applied : (s.answers (one.map .apply)).count .ok = (s.answers (other.map .apply)).count .ok
  rejected : (s.answers (one.map .apply)).countP Answer.isRefusal =
    (s.answers (other.map .apply)).countP Answer.isRefusal
  /-- Each event has the same answer. -/
  answered : Reordered (fun answered => answered.1.handle) (s.answered one) (s.answered other)
  /-- Queues through which the events are fed report the same. -/
  fed : ∀ capacity ≤ mostRoom, ∀ capacity' ≤ mostRoom,
    (s.step (.feed capacity one)).answer = (s.step (.feed capacity' other)).answer

/-- A session cannot tell events from the same events in another order, as long as the events about
one handle keep theirs. -/
theorem sameOutcome_of_reordered (tallied : s.barrier.gate.ledger.Tallied)
    (reordered : Reordered Event.handle one other) (calm : s.Calm (one.map .apply))
    (calm' : s.Calm (other.map .apply)) : s.SameOutcome one other := by
  obtain ⟨past, records⟩ := tallied.exists_records
  have recorded {events : List Event} (calm : s.Calm (events.map .apply)) :
      (s.after (events.map .apply)).barrier.gate.ledger.Records (past ++ events) := by
    have unforced : ∀ x ∈ events.map Step.apply, x.isForced = false := by
      intro x member
      obtain ⟨event, _, rfl⟩ := List.mem_map.mp member
      rfl
    have after := after_records records unforced calm
    rwa [flatMap_events_applies] at after
  have first := (recorded calm).depicts
  have second := (recorded calm').depicts
  rw [Past.roll_congr (Past.standing_reordered reordered past)] at first
  have verdicts : Reordered (fun answered : Event × Answer => answered.1.handle) (s.answered one)
      (s.answered other) := by
    rw [answered_eq records calm, answered_eq records calm']
    exact (Past.verdicts_reordered reordered past).map fun _ => rfl
  have answers : (s.answers (one.map .apply)).Perm (s.answers (other.map .apply)) := by
    rw [answers_eq_answered, answers_eq_answered]
    exact verdicts.perm.map _
  refine ⟨first.rows_eq.trans second.rows_eq.symm, ?_, ?_, answers.count_eq _,
    answers.countP_eq _, verdicts, fun capacity fits capacity' fits' => ?_⟩
  · rw [← first.tallied.card_opened, ← second.tallied.card_opened, ← first.opened_eq,
      ← second.opened_eq]
  · rw [first.contextsInUse_eq, second.contextsInUse_eq]
  · rw [feed_of_calm calm fits, feed_of_calm calm' fits', tally, tally, answers.count_eq,
      answers.countP_eq]

/-- Whatever a barrier has been through, it makes no difference to it in which order events about
different handles arrive; in particular, producers who report about different handles may be
interleaved in any way. -/
theorem order_across_handles_is_immaterial (limit : Option Nat) (prior : List Step) :
    let s := (new limit).after prior
    (∀ one other, Reordered Event.handle one other → s.Calm (one.map .apply) →
      s.Calm (other.map .apply) → s.SameOutcome one other) ∧
    ∀ producers one other, producers.Pairwise (Apart Event.handle) →
      Interleaves producers one → Interleaves producers other →
      Reordered Event.handle one other := by
  intro s
  have sound : s.Sound := (sound_new limit).after prior
  exact ⟨fun one other reordered calm calm' =>
      sameOutcome_of_reordered sound.gate.tallied reordered calm calm',
    fun producers one other apart first second => first.reordered second apart⟩

/-- Two producers report about handles of one context. In one order the context is out of use in
between, in the other it never is, and a close that comes too late is refused in both. -/
theorem order_across_two_producers :
    let s := (new none).after [.observe "p" {}, .apply ⟨.opened, ⟨"B", "z"⟩⟩, .evict "B"]
    let first : List Event :=
      [⟨.opened, ⟨"A", "x"⟩⟩, ⟨.closed, ⟨"A", "x"⟩⟩, ⟨.closed, ⟨"A", "x"⟩⟩]
    let second : List Event := [⟨.opened, ⟨"A", "y"⟩⟩, ⟨.modified, ⟨"A", "y"⟩⟩]
    let mixed : List Event := [⟨.opened, ⟨"A", "y"⟩⟩, ⟨.opened, ⟨"A", "x"⟩⟩,
      ⟨.closed, ⟨"A", "x"⟩⟩, ⟨.modified, ⟨"A", "y"⟩⟩, ⟨.closed, ⟨"A", "x"⟩⟩]
    Reordered Event.handle (first ++ second) mixed ∧
      s.answers (mixed.map .apply) =
        [.ok, .ok, .ok, .ok, .refused (.notOpen ⟨"A", "x"⟩)] ∧
      s.SameOutcome (first ++ second) mixed := by
  intro s first second mixed
  have apart : [first, second].Pairwise (Apart Event.handle) := by
    simp [first, second, Apart]
  have left {other : List Event} {event : Event} {rest merged : List Event}
      (later : Interleaves [rest, other] merged) :
      Interleaves [event :: rest, other] (event :: merged) :=
    @Interleaves.next Event [] [other] event rest merged later
  have right {other : List Event} {event : Event} {rest merged : List Event}
      (later : Interleaves [other, rest] merged) :
      Interleaves [other, event :: rest] (event :: merged) :=
    @Interleaves.next Event [other] [] event rest merged later
  have ended : Interleaves [([] : List Event), []] [] := .done (by simp)
  have inTurn : Interleaves [first, second] (first ++ second) :=
    left (left (left (right (right ended))))
  have crossed : Interleaves [first, second] mixed :=
    right (left (left (right (left ended))))
  have answers : s.answers (mixed.map .apply) =
      [.ok, .ok, .ok, .ok, .refused (.notOpen ⟨"A", "x"⟩)] := by
    unfold s mixed
    decide +kernel
  have calm : s.Calm ((first ++ second).map .apply) := by
    have answers : s.answers ((first ++ second).map .apply) =
        [.ok, .ok, .refused (.notOpen ⟨"A", "x"⟩), .ok, .ok] := by
      unfold s first second
      decide +kernel
    rw [Calm, answers]
    decide
  have calm' : s.Calm (mixed.map .apply) := by
    rw [Calm, answers]
    decide
  obtain ⟨same, disjoint⟩ := order_across_handles_is_immaterial none
    [.observe "p" {}, .apply ⟨.opened, ⟨"B", "z"⟩⟩, .evict "B"]
  have reordered := disjoint _ _ _ apart inTurn crossed
  exact ⟨reordered, answers, same _ _ reordered calm calm'⟩

end Session

end Quiescence
