import Quiescence.Proofs.Barrier.Closing
import Quiescence.Proofs.Session.Move

/-! # Forced closes, one handle at a time

Closing a context is the same as closing its open names one by one in ascending order, and closing
everything is the same as closing the contexts in use one by one, or all open handles. Whichever way
is taken, the gate ends up the same and the observers hear the same, as long as they neither panic
nor change who is registered.
-/

namespace Quiescence.Session

variable {s : Session} {first second hs : List Handle} {done : List Step} {x : Step}

/-- The list has exactly the things with the property, in ascending order. -/
def Enumerates {α : Type} [Preorder α] (l : List α) (p : α → Prop) : Prop :=
  l.SortedLT ∧ ∀ a, a ∈ l ↔ p a

/-- Closes handles one by one. -/
def closeEach (hs : List Handle) : List Step := hs.map fun h => .apply ⟨.closed, h⟩

/-- Two ways of going on leave the same gate, and the same observers, who hear the same. -/
structure Agree (s : Session) (one other : List Step) : Prop where
  gate : (s.after one).barrier.gate = (s.after other).barrier.gate
  audience : (s.after one).barrier.audience.Alike (s.after other).barrier.audience
  hears : heard (s.callbacks one) = heard (s.callbacks other)

/-- The steps make of the barrier what closing the handles makes of it. -/
def ClosesBy (s : Session) (hs : List Handle) (steps : List Step) : Prop :=
  s.barrier.Closes hs (s.callbacks steps) (s.after steps).barrier

/-- The steps do what closing the handles one by one does, and each of these closes succeeds. -/
structure StandsFor (s : Session) (steps : List Step) (hs : List Handle) : Prop where
  agree : s.Agree steps (closeEach hs)
  succeed : ∀ answer ∈ s.answers (closeEach hs), answer = .ok

theorem ClosesBy.agree {one other : List Step} (left : s.ClosesBy hs one)
    (right : s.ClosesBy hs other) : s.Agree one other where
  gate := left.gate.trans right.gate.symm
  audience := left.audience.trans right.audience.symm
  hears := left.hears.trans right.hears.symm

theorem ClosesBy.ledger (closes : s.ClosesBy hs done) :
    (s.after done).barrier.gate.ledger = s.barrier.gate.ledger.strike hs := by
  rw [closes.gate, Gate.struck_ledger]

theorem closesBy_single :
    s.ClosesBy hs [x] ↔ s.barrier.Closes hs (s.step x).log (s.step x).session.barrier := by
  rw [ClosesBy, callbacks, callbacks, List.append_nil, after_cons, after_nil]

namespace Sound

/-- Closing something that is still open can be added to closes that were made. -/
theorem closesBy_concat (sound : s.Sound) (front : s.ClosesBy first done)
    (back : (s.after done).ClosesBy second [x]) {h : Handle} (more : h ∈ second)
    (present : (s.after done).barrier.gate.ledger.contains h) :
    s.ClosesBy (first ++ second) (done ++ [x]) := by
  have filled := (sound.after done).gate.tallied.filled_of_contains present
  rw [front.ledger] at filled
  unfold ClosesBy
  rw [callbacks_append, after_append]
  exact front.append back filled (List.ne_nil_of_mem more)

/-- Different open handles can be closed one by one. -/
theorem closeEach (sound : s.Sound) (settled : s.barrier.Settled) (different : hs.Nodup)
    (present : ∀ h ∈ hs, s.barrier.gate.ledger.contains h) :
    s.ClosesBy hs (closeEach hs) ∧ ∀ answer ∈ s.answers (Session.closeEach hs), answer = .ok := by
  induction hs using List.reverseRecOn with
  | nil => exact ⟨.nil sound.gate, nofun⟩
  | append_singleton earlier h ih =>
    obtain ⟨different, _, fresh⟩ := List.nodup_append.mp different
    obtain ⟨front, oks⟩ := ih different fun k member => present k (List.mem_append_left _ member)
    set t := s.after (Session.closeEach earlier) with reached
    have still : t.barrier.gate.ledger.contains h := by
      rw [front.ledger, Ledger.contains_strike]
      exact ⟨present h List.mem_concat_self, fun again => fresh h again h List.mem_cons_self rfl⟩
    have closed := Barrier.apply_closes (settled.closes front) t.now still
    rw [← reached] at closed
    obtain ⟨reply, back⟩ := closed
    have answer : (t.step (.apply ⟨.closed, h⟩)).answer = .ok := by
      simp only [Session.step, ofOutcome, reply]
    rw [Session.closeEach, List.map_append, List.map_singleton]
    constructor
    · exact sound.closesBy_concat front (closesBy_single.mpr back) List.mem_cons_self still
    · intro given member
      rw [answers_append] at member
      rcases List.mem_append.mp member with early | last
      · exact oks given early
      · exact (List.mem_singleton.mp last).trans answer

/-- Different contexts in use can be closed one by one. -/
theorem evictEach (sound : s.Sound) (settled : s.barrier.Settled) {contexts : List String}
    (different : contexts.Nodup)
    (used : ∀ context ∈ contexts, s.barrier.gate.ledger.usesContext context) :
    s.ClosesBy (contexts.flatMap s.barrier.gate.ledger.held) (contexts.map .evict) ∧
      s.answers (contexts.map .evict) =
        contexts.map fun context => .names (s.barrier.gate.ledger.names context) := by
  have tallied := sound.gate.tallied
  induction contexts using List.reverseRecOn with
  | nil => exact ⟨.nil sound.gate, rfl⟩
  | append_singleton earlier context ih =>
    obtain ⟨different, _, fresh⟩ := List.nodup_append.mp different
    obtain ⟨front, given⟩ := ih different fun c member => used c (List.mem_append_left _ member)
    set t := s.after (earlier.map .evict) with reached
    have elsewhere : ∀ h ∈ earlier.flatMap s.barrier.gate.ledger.held, h.context ≠ context := by
      intro h member
      obtain ⟨other, early, listed⟩ := List.mem_flatMap.mp member
      rw [((tallied.mem_held_iff other h).mp listed).1]
      exact fresh other early context List.mem_cons_self
    have names : t.barrier.gate.ledger.names context = s.barrier.gate.ledger.names context := by
      rw [front.ledger, tallied.names_strike elsewhere]
    have closed := Barrier.evict_closes (sound.after (earlier.map .evict)).gate
      (settled.closes front) context
    rw [← reached, names] at closed
    obtain ⟨reply, back⟩ := closed
    have holds := used context List.mem_concat_self
    obtain ⟨name, present⟩ := (tallied.usesContext_iff context).mp holds
    have still : t.barrier.gate.ledger.contains ⟨context, name⟩ := by
      rw [front.ledger, Ledger.contains_strike]
      exact ⟨present, fun again => elsewhere _ again rfl⟩
    have listed : ⟨context, name⟩ ∈ s.barrier.gate.ledger.held context :=
      (tallied.mem_held_iff context _).mpr ⟨rfl, present⟩
    have answer : (t.step (.evict context)).answer =
        .names (s.barrier.gate.ledger.names context) := by
      simp only [Session.step, ofOutcome, reply]
    rw [List.map_append, List.flatMap_append, List.map_append, List.flatMap_singleton]
    constructor
    · exact sound.closesBy_concat front (closesBy_single.mpr back) listed still
    · rw [answers_append, given]
      exact congrArg (_ ++ [·]) answer

theorem standsFor (sound : s.Sound) (settled : s.barrier.Settled) (closes : s.ClosesBy hs done)
    (different : hs.Nodup) (present : ∀ h ∈ hs, s.barrier.gate.ledger.contains h) :
    s.StandsFor done hs := by
  obtain ⟨each, oks⟩ := sound.closeEach settled different present
  exact ⟨closes.agree each, oks⟩

theorem evict (sound : s.Sound) (settled : s.barrier.Settled) (context : String) :
    (s.step (.evict context)).answer = .names (s.barrier.gate.ledger.names context) ∧
      s.ClosesBy (s.barrier.gate.ledger.held context) [.evict context] := by
  obtain ⟨reply, closes⟩ := Barrier.evict_closes sound.gate settled context
  refine ⟨?_, closesBy_single.mpr closes⟩
  simp only [Session.step, ofOutcome, reply]

theorem evictAll (sound : s.Sound) (settled : s.barrier.Settled) :
    (s.step .evictAll).answer = .handles s.barrier.gate.ledger.handles ∧
      s.ClosesBy s.barrier.gate.ledger.handles [.evictAll] := by
  obtain ⟨reply, closes⟩ := Barrier.evictAll_closes sound.gate settled
  refine ⟨?_, closesBy_single.mpr closes⟩
  simp only [Session.step, ofOutcome, reply]

end Sound

/-- A forced close does what closing its handles one by one does, in ascending order, and each of
these closes succeeds. Where there is nothing to close, nothing happens. -/
theorem forced_close_one_by_one (limit : Option Nat) (steps : List Step)
    (settled : ((new limit).after steps).barrier.Settled) :
    let s := (new limit).after steps
    let ledger := s.barrier.gate.ledger
    (∀ context,
      Enumerates (ledger.names context) (fun name => ledger.contains ⟨context, name⟩) ∧
      (s.step (.evict context)).answer = .names (ledger.names context) ∧
      s.StandsFor [.evict context] (ledger.held context)) ∧
    (Enumerates ledger.handles (fun h => ledger.contains h) ∧
      (s.step .evictAll).answer = .handles ledger.handles ∧
      s.StandsFor [.evictAll] ledger.handles) ∧
    (Enumerates ledger.contexts (fun context => ledger.usesContext context) ∧
      s.answers (ledger.contexts.map .evict) =
        ledger.contexts.map (fun context => .names (ledger.names context)) ∧
      s.Agree [.evictAll] (ledger.contexts.map .evict)) ∧
    (∀ context, ledger.usesContext context = false →
      s.step (.evict context) = ⟨s, [], .names []⟩) ∧
    (ledger.isEmpty → s.step .evictAll = ⟨s, [], .handles []⟩) := by
  intro s ledger
  have sound : s.Sound := (sound_new limit).after steps
  have tallied : ledger.Tallied := sound.gate.tallied
  have whole := sound.evictAll settled
  refine ⟨fun context => ?_, ?_, ?_, fun context unused => ?_, fun nothing => ?_⟩
  · have part := sound.evict settled context
    refine ⟨⟨tallied.sortedLT_names context, tallied.mem_names_iff context⟩, part.1, ?_⟩
    exact sound.standsFor settled part.2 (tallied.sortedLT_held context).nodup
      fun h listed => ((tallied.mem_held_iff context h).mp listed).2
  · refine ⟨⟨tallied.sortedLT_handles, tallied.mem_handles_iff⟩, whole.1, ?_⟩
    exact sound.standsFor settled whole.2 tallied.sortedLT_handles.nodup
      fun h => (tallied.mem_handles_iff h).mp
  · obtain ⟨closes, answers⟩ := sound.evictEach settled tallied.sortedLT_contexts.nodup
      fun context => (tallied.mem_contexts_iff context).mp
    rw [← tallied.handles_eq_flatMap_held] at closes
    exact ⟨⟨tallied.sortedLT_contexts, tallied.mem_contexts_iff⟩, answers, whole.2.agree closes⟩
  · have none : ledger.names context = [] := by
      refine List.eq_nil_iff_forall_not_mem.mpr fun name listed => ?_
      have used := (tallied.usesContext_iff context).mpr
        ⟨name, (tallied.mem_names_iff context name).mp listed⟩
      rw [unused] at used
      cases used
    simp only [step, Barrier.evict_of_none none]
    rfl
  · have none : ledger.handles = [] := by
      rw [← List.length_eq_zero_iff, tallied.length_handles]
      exact beq_iff_eq.mp nothing
    simp only [step, Barrier.evictAll_of_none none]
    rfl

/-- Two contexts are closed one by one while a task waits, with the callbacks in between. -/
theorem forced_close_of_two_contexts :
    let s := (new none).after [.observe "p" {}, .apply ⟨.opened, ⟨"B", "x"⟩⟩,
      .apply ⟨.opened, ⟨"A", "y"⟩⟩, .apply ⟨.opened, ⟨"A", "x"⟩⟩, .wait "t" none]
    s.barrier.gate.hasWaiter ∧ s.barrier.gate.ledger.contexts = ["A", "B"] ∧
      s.StandsFor [.evictAll] s.barrier.gate.ledger.handles ∧
      s.Agree [.evictAll] [.evict "A", .evict "B"] := by
  intro s
  have settled : s.barrier.Settled := ⟨fun _ _ => ⟨rfl, rfl⟩, fun _ => ⟨rfl, rfl⟩⟩
  have shelves : s.barrier.gate.ledger.shelves.map Prod.fst = ["B", "A"] := by decide
  have contexts : s.barrier.gate.ledger.contexts = ["A", "B"] := by
    rw [Ledger.contexts_eq_insertionSort, shelves]
    decide
  obtain ⟨_, ⟨_, _, whole⟩, ⟨_, _, agree⟩, _⟩ := forced_close_one_by_one none _ settled
  refine ⟨by decide, contexts, whole, ?_⟩
  rw [contexts] at agree
  exact agree

end Quiescence.Session
