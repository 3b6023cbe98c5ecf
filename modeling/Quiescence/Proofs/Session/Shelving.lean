import Quiescence.Proofs.Barrier.Likeness
import Quiescence.Proofs.Ledger.Shelving
import Quiescence.Proofs.Session.Move

/-! # The order of the shelves does not show

Two barriers that hold the same handles list them alike and close them alike, one context or all of
them: the answers are the same, and the same observers are told the same in the same order. What the
barriers have been through makes no difference, nor the order in which their entries are stored.
-/

namespace Quiescence

namespace Barrier

variable {α : Type} {b c : Barrier}

/-- Two barriers list the same handles to the same observers. -/
structure Alike (b c : Barrier) : Prop where
  lists : b.gate.ledger.ListsLike c.gate.ledger
  count : b.gate.ledger.count = c.gate.ledger.count
  audience : b.audience.Alike c.audience

/-- Two operations are answered alike with the same callbacks. What the observers find meanwhile is
the same too if it is the same whether somebody waits. -/
structure GoAlike (waiters : Prop) (one other : Outcome α) : Prop where
  reply : one.reply = other.reply
  hears : heard one.log = heard other.log
  log : waiters → one.log = other.log

namespace Alike

/-- Closing the same handles goes alike if it leaves equally many open. -/
theorem closing (alike : b.Alike c) (value : α) (closed : List Handle) {ledger other : Ledger}
    (count : ledger.count = other.count) :
    GoAlike (b.gate.hasWaiter = c.gate.hasWaiter)
      (perform value (Gate.closing b.gate (b.gate.settle ledger) closed)
        { b with gate := b.gate.settle ledger })
      (perform value (Gate.closing c.gate (c.gate.settle other) closed)
        { c with gate := c.gate.settle other }) := by
  have empty : ledger.isEmpty = other.isEmpty := by rw [Ledger.isEmpty, Ledger.isEmpty, count]
  have same : notices (Gate.closing b.gate (b.gate.settle ledger) closed) =
      notices (Gate.closing c.gate (c.gate.settle other) closed) := by
    simp only [Gate.notices_closing, Gate.settle_ledger, empty]
  obtain ⟨reply, log⟩ := perform_like (b := { b with gate := b.gate.settle ledger })
    (c := { c with gate := c.gate.settle other }) alike.audience value same
  refine ⟨reply, ?_, fun waiters => ?_⟩
  · rw [log, heard_seeing]
  · have glimpse : glimpse { b with gate := b.gate.settle ledger } =
        glimpse { c with gate := c.gate.settle other } := by
      simp only [Gate.hasWaiter] at waiters
      simp only [Barrier.glimpse, Gate.settle_ledger, count, Gate.hasWaiter, Gate.settle_wait,
        empty, Glimpse.mk.injEq, true_and]
      split
      · rfl
      · exact waiters
    rw [log, glimpse]
    refine (List.map_congr_left fun callback member => ?_).trans (List.map_id _)
    cases callback with
    | told observer notice shown => rw [perform_log _ _ _ observer notice shown member]; rfl
    | removed => rfl

theorem evict (alike : b.Alike c) (context : String) :
    GoAlike (b.gate.hasWaiter = c.gate.hasWaiter) (b.evict context) (c.evict context) := by
  have names : b.gate.ledger.names context = c.gate.ledger.names context :=
    alike.lists.names context
  by_cases none : b.gate.ledger.names context = []
  · rw [evict_of_none none, evict_of_none (names ▸ none)]
    exact ⟨rfl, rfl, fun _ => rfl⟩
  · have count : (b.gate.ledger.clearContext context).2.count =
        (c.gate.ledger.clearContext context).2.count := by
      simp only [Ledger.clearContext, ← Ledger.length_names, names, alike.count]
    simp only [Barrier.evict, Gate.evict_of_some none, Gate.evict_of_some (names ▸ none), names]
    exact alike.closing _ _ count

theorem evictAll (alike : b.Alike c) :
    GoAlike (b.gate.hasWaiter = c.gate.hasWaiter) b.evictAll c.evictAll := by
  have handles : b.gate.ledger.handles = c.gate.ledger.handles := alike.lists.handles
  by_cases none : b.gate.ledger.handles = []
  · rw [evictAll_of_none none, evictAll_of_none (handles ▸ none)]
    exact ⟨rfl, rfl, fun _ => rfl⟩
  · simp only [Barrier.evictAll, Gate.evictAll_of_some none, Gate.evictAll_of_some (handles ▸ none),
      handles]
    exact alike.closing _ _ rfl

end Alike

end Barrier

namespace Session

variable {s t : Session} {limit limit' : Option Nat}

/-- The sessions that steps lead to. Before each step and after the last one the entries of the
ledger may be stored anew in any order. -/
inductive Reached (limit : Option Nat) : Session → Prop
  | new : Reached limit (new limit)
  | step {s : Session} (x : Step) (reached : Reached limit s) : Reached limit (s.step x).session
  | reshelved {s : Session} {ledger : Ledger} (reached : Reached limit s)
      (same : s.barrier.gate.ledger.Reshelved ledger) :
      Reached limit (s.withGate { s.barrier.gate with ledger })

theorem Sound.reshelved (sound : s.Sound) {ledger : Ledger}
    (same : s.barrier.gate.ledger.Reshelved ledger) :
    (s.withGate { s.barrier.gate with ledger }).Sound := by
  have gate : Gate.Sound { s.barrier.gate with ledger } :=
    { sound.gate with
      tallied := same.tallied sound.gate.tallied
      occupied := fun busy => by
        have filled := sound.gate.occupied busy
        rwa [Ledger.isEmpty, ← same.count] at filled }
  exact { sound with gate }

theorem Reached.sound (reached : s.Reached limit) : s.Sound := by
  induction reached with
  | new => exact sound_new limit
  | step x _ ih => exact ih.after [x]
  | reshelved _ same ih => exact ih.reshelved same

theorem Reached.after (reached : s.Reached limit) (steps : List Step) :
    (s.after steps).Reached limit := by
  induction steps generalizing s with
  | nil => exact reached
  | cons x rest ih => exact ih (reached.step x)

/-- A step goes alike in two sessions: the answer is the same, and the same observers are told the
same in the same order. What they find meanwhile is the same too if it is the same whether somebody
waits. -/
structure GoesAlike (s t : Session) (x : Step) : Prop where
  answer : (s.step x).answer = (t.step x).answer
  hears : heard (s.step x).log = heard (t.step x).log
  log : s.barrier.gate.hasWaiter = t.barrier.gate.hasWaiter → (s.step x).log = (t.step x).log

theorem goesAlike_of_outcomes {α : Type} {x : Step} {answer : α → Answer} {one other : Outcome α}
    (first : s.step x = s.ofOutcome answer one) (second : t.step x = t.ofOutcome answer other)
    (alike : Barrier.GoAlike (s.barrier.gate.hasWaiter = t.barrier.gate.hasWaiter) one other) :
    s.GoesAlike t x where
  answer := by simp only [first, second, ofOutcome, alike.reply]
  hears := by simpa only [first, second, ofOutcome] using alike.hears
  log := by simpa only [first, second, ofOutcome] using alike.log

/-- Neither the order in which entries are stored nor what happened before shows in the lists of a
ledger, or in what a barrier answers and tells when it is closed by force. All of these lists are
sorted. -/
theorem order_of_shelves_does_not_show :
    (∀ one two : Ledger, one.Reached → two.Reached → (∀ h, one.mark? h = two.mark? h) →
      one.ListsLike two ∧ one.ListsAscending ∧
        ((∀ h, one.entry? h = two.entry? h) → one.rows = two.rows)) ∧
    ∀ (limit limit' : Option Nat) (s t : Session), s.Reached limit → t.Reached limit' →
      (∀ h, s.barrier.gate.ledger.mark? h = t.barrier.gate.ledger.mark? h) →
      s.barrier.audience.Alike t.barrier.audience →
      s.barrier.gate.ledger.ListsLike t.barrier.gate.ledger ∧
        s.barrier.gate.ledger.ListsAscending ∧
        (∀ context, s.GoesAlike t (.evict context)) ∧ s.GoesAlike t .evictAll := by
  constructor
  · intro one two first second same
    have tallied := first.tallied
    have lists := tallied.listsLike second.tallied same
    refine ⟨lists, tallied.listsAscending, fun known => ?_⟩
    have handles : one.handles = two.handles := lists.handles
    rw [tallied.rows_eq, second.tallied.rows_eq, handles]
    exact List.filterMap_congr fun h _ => by rw [known]
  · intro limit limit' s t first second same audience
    have tallied := first.sound.gate.tallied
    have tallied' := second.sound.gate.tallied
    have lists := tallied.listsLike tallied' same
    have handles : s.barrier.gate.ledger.handles = t.barrier.gate.ledger.handles := lists.handles
    have alike : s.barrier.Alike t.barrier :=
      ⟨lists, by rw [← tallied.length_handles, handles, tallied'.length_handles], audience⟩
    exact ⟨lists, tallied.listsAscending,
      fun context => goesAlike_of_outcomes rfl rfl (alike.evict context),
      goesAlike_of_outcomes rfl rfl alike.evictAll⟩

/-- Two barriers with different pasts, one of which stores its entries in another order. -/
theorem order_of_two_shelves_does_not_show :
    let s := (new none).after [.observe "p" {}, .apply ⟨.opened, ⟨"B", "x"⟩⟩,
      .apply ⟨.opened, ⟨"A", "z"⟩⟩, .apply ⟨.opened, ⟨"A", "y"⟩⟩, .apply ⟨.modified, ⟨"A", "y"⟩⟩]
    let t := (new (some 5)).after [.apply ⟨.opened, ⟨"C", "c"⟩⟩, .apply ⟨.opened, ⟨"B", "x"⟩⟩,
      .observe "p" {}, .advance 7, .apply ⟨.opened, ⟨"A", "y"⟩⟩, .apply ⟨.modified, ⟨"A", "y"⟩⟩,
      .apply ⟨.closed, ⟨"C", "c"⟩⟩, .apply ⟨.opened, ⟨"A", "z"⟩⟩]
    let ledger : Ledger := ⟨t.barrier.gate.ledger.shelves.reverse, 3⟩
    let moved := t.withGate { t.barrier.gate with ledger }
    s.Reached none ∧ moved.Reached (some 5) ∧
      (∀ h, s.barrier.gate.ledger.mark? h = moved.barrier.gate.ledger.mark? h) ∧
      s.barrier.audience.Alike moved.barrier.audience ∧ s.GoesAlike moved .evictAll ∧
      (s.step .evictAll).answer = .handles [⟨"A", "y"⟩, ⟨"A", "z"⟩, ⟨"B", "x"⟩] := by
  intro s t ledger moved
  have first : s.Reached none := Reached.new.after _
  have second : moved.Reached (some 5) := by
    refine .reshelved (Reached.new.after _) ⟨rfl, fun _ shelf => shelf, fun _ _ => .refl _, ?_⟩
    simp only [Prod.mk.eta, List.map_id']
    exact List.reverse_perm _
  have shelves : s.barrier.gate.ledger.shelves =
      [("B", [("x", ⟨.epoch, none⟩)]),
        ("A", [("z", ⟨.epoch, none⟩), ("y", ⟨.epoch, some .epoch⟩)])] := by
    decide
  have shelves' : moved.barrier.gate.ledger.shelves =
      [("A", [("y", ⟨Moment.epoch.after 7, some (Moment.epoch.after 7)⟩),
          ("z", ⟨Moment.epoch.after 7, none⟩)]),
        ("B", [("x", ⟨.epoch, none⟩)])] := by
    decide
  have same (h : Handle) : s.barrier.gate.ledger.mark? h = moved.barrier.gate.ledger.mark? h := by
    obtain ⟨context, name⟩ := h
    simp only [Ledger.mark?, Ledger.entry?, Ledger.shelf, shelves, shelves', List.lookup_cons,
      List.lookup_nil]
    by_cases inA : context = "A"
    · subst inA
      by_cases y : name = "y"
      · subst y
        decide
      · by_cases z : name = "z"
        · subst z
          decide
        · simp [List.lookup_cons, beq_false_of_ne y, beq_false_of_ne z]
    · simp [beq_false_of_ne inA]
  have audience : s.barrier.audience.Alike moved.barrier.audience := ⟨rfl, fun _ => rfl⟩
  obtain ⟨_, _, _, all⟩ := order_of_shelves_does_not_show.2 _ _ s moved first second same audience
  have handles : s.barrier.gate.ledger.handles = [⟨"A", "y"⟩, ⟨"A", "z"⟩, ⟨"B", "x"⟩] := by
    rw [Ledger.handles, shelves]
    change Handle.sort [⟨"B", "x"⟩, ⟨"A", "z"⟩, ⟨"A", "y"⟩] = _
    have sorted : List.SortedLT [(⟨"A", "y"⟩ : Handle), ⟨"A", "z"⟩, ⟨"B", "x"⟩] :=
      List.sortedLT_iff_pairwise.mpr (by decide)
    refine (Handle.sortedLT_sort (by decide)).eq_of_mem_iff sorted fun h => ?_
    rw [Handle.sort, List.mem_mergeSort]
    exact (List.reverse_perm _).mem_iff.symm
  refine ⟨first, second, same, audience, all, ?_⟩
  simp only [step, Barrier.evictAll, Gate.evictAll, Ledger.clear, handles]
  rfl

end Session

end Quiescence
