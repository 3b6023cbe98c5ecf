import Quiescence.Proofs.Barrier.Delivery
import Quiescence.Proofs.Barrier.Effects
import Quiescence.Proofs.Gate.Adds

/-! # Barriers with one more wait

A change goes the same way whether or not there is one more wait, as long as it does not release
this wait. While it is active, observers can see that somebody is waiting, but what they do does not
depend on what they see.
-/

namespace Quiescence

/-- What observers see makes no difference to what they do. -/
theorem Audience.tellEach_glimpse (notice : Notice) (shown seen : Glimpse)
    (observers : List String) (a : Audience) :
    (a.tellEach notice shown observers).audience = (a.tellEach notice seen observers).audience ∧
      (a.tellEach notice shown observers).panic = (a.tellEach notice seen observers).panic := by
  induction observers generalizing a with
  | nil => exact ⟨rfl, rfl⟩
  | cons observer others ih =>
    simp only [tellEach]
    split
    · exact ⟨rfl, rfl⟩
    · exact ih _

/-- A change ends the wait or leaves it alone. -/
theorem Gate.Change.wait_cases {g next : Gate} {effects : List Effect}
    (change : g.Change next effects) : next.wait = .idle ∨ next.wait = g.wait := by
  cases change with
  | recorded | untouched => exact .inr rfl
  | struck => exact settle_wait_cases _ g

namespace Barrier

variable {b more : Barrier} {k n : Nat} {now : Moment}

/-! ## Waits outlast no change that ends them -/

theorem perform_isActive {α : Type} (value : α) (effects : List Effect) (b : Barrier) :
    (b.perform value effects).barrier.gate.isActive = b.gate.isActive := by
  rcases perform_gate value effects b with same | signalled
  · rw [same]
  · rw [signalled, Gate.isActive_signal]

theorem isActive_of_apply {event : Event}
    (active : (b.apply now event).barrier.gate.isActive n) : b.gate.isActive n := by
  unfold apply at active
  cases applied : b.gate.apply now event with
  | error fault => simpa only [applied] using active
  | ok result =>
    obtain ⟨gate, effects⟩ := result
    simp only [applied, perform_isActive] at active
    rcases (Gate.change_of_apply applied).wait_cases with idle | same
    · rw [Gate.isActive_of_idle idle] at active
      cases active
    · rwa [← Gate.isActive_congr same]

theorem isActive_of_drainQueue {events : List Event} {report : FeedReport}
    (active : (b.drainQueue now events report).barrier.gate.isActive n) : b.gate.isActive n := by
  induction events generalizing b report with
  | nil => exact active
  | cons event rest ih =>
    simp only [drainQueue] at active
    cases reply : (b.apply now event).reply with
    | panicked observer =>
      simp only [reply] at active
      exact isActive_of_apply active
    | done | refused =>
      simp only [reply] at active
      exact isActive_of_apply (ih active)

/-! ## One more wait -/

/-- The barrier `more` has everything that `b` has, and a wait of number `k` in addition. -/
structure Adds (more : Barrier) (k : Nat) (b : Barrier) : Prop where
  gate : more.gate.Adds k b.gate
  audience : more.audience = b.audience
  waitLimit : more.waitLimit = b.waitLimit

end Barrier

/-- Two operations have gone the same way, one of them with a wait of number `k` in addition. -/
structure Outcome.Adds {α : Type} (more : Outcome α) (k : Nat) (outcome : Outcome α) : Prop where
  barrier : more.barrier.Adds k outcome.barrier
  reply : more.reply = outcome.reply
  log : more.barrier.gate.isActive k = false → more.log = outcome.log

namespace Barrier.Adds

variable {b more : Barrier} {k : Nat}

theorem glimpse (adds : more.Adds k b) (past : more.gate.isActive k = false) :
    more.glimpse = b.glimpse := by
  simp only [Barrier.glimpse, adds.gate.ledger, adds.gate.hasWaiter past]

theorem perform {α : Type} (adds : more.Adds k b) (value : α) (effects : List Effect) :
    (more.perform value effects).Adds k (b.perform value effects) := by
  induction effects generalizing more b with
  | nil => exact ⟨adds, rfl, fun _ => rfl⟩
  | cons effect rest ih =>
    cases effect with
    | signal =>
      have signalled : Barrier.Adds { more with gate := more.gate.signal } k
          { b with gate := b.gate.signal } := ⟨adds.gate.signal, adds.audience, adds.waitLimit⟩
      exact ih signalled
    | tell notice =>
      obtain ⟨audience, panic⟩ := Audience.tellEach_glimpse notice more.glimpse b.glimpse
        b.audience.registered b.audience
      have informed : Barrier.Adds
          { more with audience := (more.audience.tell notice more.glimpse).audience } k
          { b with audience := (b.audience.tell notice b.glimpse).audience } := by
        refine ⟨adds.gate, ?_, adds.waitLimit⟩
        rw [adds.audience]
        exact audience
      have told : (more.audience.tell notice more.glimpse).panic =
          (b.audience.tell notice b.glimpse).panic := by
        rw [adds.audience]
        exact panic
      have seen : more.gate.isActive k = false → (more.audience.tell notice more.glimpse).log =
          (b.audience.tell notice b.glimpse).log := by
        intro past
        rw [adds.audience, adds.glimpse past]
      simp only [Barrier.perform, told]
      split
      · exact ⟨informed, rfl, seen⟩
      · have later := ih informed
        refine ⟨later.barrier, later.reply, fun past => ?_⟩
        have before := past
        rw [perform_isActive] at before
        simp only [seen before, later.log past]

/-- A change that goes the same way in both gates goes the same way in both barriers. -/
theorem change {α : Type} (adds : more.Adds k b) {value valueMore : α}
    {changed changedMore : Gate × List Effect} (values : valueMore = value)
    (alongside : more.gate.Alongside k changedMore changed)
    (kept : more.gate.isActive k → (Barrier.perform valueMore changedMore.2
      { more with gate := changedMore.1 }).barrier.gate.isActive k) :
    (Barrier.perform valueMore changedMore.2 { more with gate := changedMore.1 }).Adds k
      (Barrier.perform value changed.2 { b with gate := changed.1 }) := by
  obtain ⟨gate, same⟩ := alongside
  rw [perform_isActive] at kept
  rw [same kept, values]
  have next : Barrier.Adds { more with gate := changedMore.1 } k { b with gate := changed.1 } :=
    ⟨gate, adds.audience, adds.waitLimit⟩
  exact next.perform value changed.2

theorem apply (adds : more.Adds k b) (now : Moment) (event : Event)
    (kept : more.gate.isActive k → (more.apply now event).barrier.gate.isActive k) :
    (more.apply now event).Adds k (b.apply now event) := by
  unfold Barrier.apply at kept ⊢
  rcases adds.gate.apply now event with ⟨fault, refused, refusedMore⟩ |
    ⟨changed, changedMore, applied, appliedMore, alongside⟩
  · simp only [refused, refusedMore]
    exact ⟨adds, rfl, fun _ => rfl⟩
  · simp only [applied, appliedMore] at kept ⊢
    exact adds.change rfl alongside kept

theorem evict (adds : more.Adds k b) (context : String)
    (kept : more.gate.isActive k → (more.evict context).barrier.gate.isActive k) :
    (more.evict context).Adds k (b.evict context) := by
  obtain ⟨names, alongside⟩ := adds.gate.evict context
  exact adds.change names alongside kept

theorem evictAll (adds : more.Adds k b)
    (kept : more.gate.isActive k → more.evictAll.barrier.gate.isActive k) :
    more.evictAll.Adds k b.evictAll := by
  obtain ⟨handles, alongside⟩ := adds.gate.evictAll
  exact adds.change handles alongside kept

theorem drainQueue (adds : more.Adds k b) (now : Moment) (events : List Event)
    (report : FeedReport) (kept : more.gate.isActive k →
      (more.drainQueue now events report).barrier.gate.isActive k) :
    (more.drainQueue now events report).Adds k (b.drainQueue now events report) := by
  induction events generalizing more b report with
  | nil => exact ⟨adds, rfl, fun _ => rfl⟩
  | cons event rest ih =>
    simp only [Barrier.drainQueue] at kept ⊢
    have first : (more.apply now event).Adds k (b.apply now event) := by
      refine adds.apply now event fun active => ?_
      have still := kept active
      cases reply : (more.apply now event).reply with
      | panicked observer => simpa only [reply] using still
      | done | refused =>
        simp only [reply] at still
        exact isActive_of_drainQueue still
    rw [← first.reply]
    cases reply : (more.apply now event).reply with
    | panicked observer => exact ⟨first.barrier, rfl, first.log⟩
    | done | refused =>
      simp only [reply] at kept ⊢
      have later := ih first.barrier _ fun active => kept (isActive_of_apply active)
      refine ⟨later.barrier, later.reply, fun past => ?_⟩
      have before : (more.apply now event).barrier.gate.isActive k = false := by
        refine Bool.eq_false_iff.mpr fun active => ?_
        rw [kept (isActive_of_apply active)] at past
        cases past
      simp only [first.log before, later.log past]

end Barrier.Adds

end Quiescence
