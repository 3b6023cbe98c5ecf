import Quiescence.Proofs.Barrier.Hearing
import Quiescence.Proofs.Ledger.Strike

/-! # What closing some handles makes of a barrier

However some handles come to be closed, by one event, with their context or all at once, what
becomes of the barrier is determined by the list of these handles: they are struck from the ledger,
the waiter is released and quiescence is told if that leaves nothing open. So closes that follow one
another add up, and only the last of them can have these consequences.
-/

namespace Quiescence

namespace Gate

variable {g : Gate} {hs first second : List Handle}

/-- The gate after some handles were closed. -/
def struck (hs : List Handle) (g : Gate) : Gate :=
  let after := g.settle (g.ledger.strike hs)
  if after.ledger.isEmpty && g.hasWaiter then after.signal else after

/-- What observers are told when some handles are closed. -/
def closings (hs : List Handle) (g : Gate) : List Notice :=
  hs.map .closed ++ if hs ≠ [] ∧ (g.ledger.strike hs).isEmpty then [.quiescent] else []

@[simp]
theorem struck_ledger (hs : List Handle) (g : Gate) :
    (g.struck hs).ledger = g.ledger.strike hs := by
  simp only [struck]
  split
  · exact settle_ledger _ g
  · exact settle_ledger _ g

theorem settle_of_filled {ledger : Ledger} (filled : ledger.isEmpty = false) :
    g.settle ledger = { g with ledger } := by
  simp [settle, releaseIfEmpty, filled]

/-- Closes that leave something open do not touch the waiter. -/
theorem struck_of_filled (filled : (g.ledger.strike hs).isEmpty = false) :
    g.struck hs = { g with ledger := g.ledger.strike hs } := by
  simp [struck, settle_of_filled filled, filled]

theorem Sound.struck_nil (sound : g.Sound) : g.struck [] = g := by
  have idle : g.ledger.isEmpty → g.hasWaiter = false := by
    intro empty
    refine Bool.eq_false_iff.mpr fun busy => ?_
    rw [sound.occupied busy] at empty
    cases empty
  rw [struck, Ledger.strike_nil, ← (Change.untouched.eq_settle sound).2]
  cases empty : g.ledger.isEmpty with
  | false => rfl
  | true => simp [idle empty]

/-- What was left open by the first closes is all that the second ones depend on. -/
theorem struck_append (filled : (g.ledger.strike first).isEmpty = false) :
    g.struck (first ++ second) = (g.struck first).struck second := by
  rw [struck_of_filled filled]
  simp only [struck, Ledger.strike_append]
  rfl

theorem closings_append (filled : (g.ledger.strike first).isEmpty = false) (more : second ≠ []) :
    g.closings (first ++ second) = g.closings first ++ (g.struck first).closings second := by
  simp [closings, Ledger.strike_append, filled, more]

/-! ## The effects of a close -/

theorem notices_closing (after : Gate) (closed : List Handle) :
    notices (closing g after closed) =
      closed.map .closed ++ if after.ledger.isEmpty then [.quiescent] else [] := by
  have told : notices (closed.map (.tell <| .closed ·)) = closed.map .closed := by
    rw [notices, List.filterMap_map]
    exact congrFun List.filterMap_eq_map closed
  rw [closing, notices, List.filterMap_append, ← notices, told]
  congr 1
  cases after.ledger.isEmpty with
  | false => rfl
  | true => cases g.hasWaiter <;> rfl

theorem signal_mem_closing {after : Gate} (closed : List Handle) :
    .signal ∈ closing g after closed ↔ after.ledger.isEmpty ∧ g.hasWaiter := by
  simp only [closing, List.mem_append, List.mem_map, reduceCtorEq, and_false, exists_false,
    false_or]
  cases after.ledger.isEmpty with
  | false => simp
  | true => cases g.hasWaiter <;> simp

/-! ## Forced closes -/

theorem evict_of_none {context : String} (none : g.ledger.names context = []) :
    g.evict context = ([], g, []) := by
  unfold evict
  split
  · rfl
  · next names _ some cleared => exact absurd ((congrArg Prod.fst cleared).symm.trans none) some

theorem evict_of_some {context : String} (some : g.ledger.names context ≠ []) :
    let after := g.settle (g.ledger.clearContext context).2
    let names := g.ledger.names context
    g.evict context = (names, after, closing g after (names.map (⟨context, ·⟩))) := by
  unfold evict
  split
  · next cleared => exact absurd (congrArg Prod.fst cleared) some
  · next cleared =>
    obtain ⟨rfl, rfl⟩ := Prod.mk.inj cleared
    rfl

theorem evictAll_of_none (none : g.ledger.handles = []) : g.evictAll = ([], g, []) := by
  unfold evictAll
  split
  · rfl
  · next handles _ some cleared => exact absurd ((congrArg Prod.fst cleared).symm.trans none) some

theorem evictAll_of_some (some : g.ledger.handles ≠ []) :
    let after := g.settle .empty
    g.evictAll = (g.ledger.handles, after, closing g after g.ledger.handles) := by
  unfold evictAll
  split
  · next cleared => exact absurd (congrArg Prod.fst cleared) some
  · next cleared =>
    obtain ⟨rfl, rfl⟩ := Prod.mk.inj cleared
    rfl

end Gate

namespace Barrier

variable {b mid after : Barrier} {hs first second : List Handle}

/-- The observers take every close calmly, and quiescence too. -/
def Settled (b : Barrier) : Prop :=
  (∀ h, b.audience.Steady (.closed h)) ∧ b.audience.Steady .quiescent

/-- The barrier `after` is what closing some handles makes of `b`, and the callbacks are those of
the closes. -/
structure Closes (b : Barrier) (hs : List Handle) (log : List Callback) (after : Barrier) :
    Prop where
  gate : after.gate = b.gate.struck hs
  audience : after.audience.Alike b.audience
  hears : heard log = b.audience.hears (b.gate.closings hs)

theorem Settled.closes (settled : b.Settled) {log : List Callback}
    (closes : b.Closes hs log after) : after.Settled :=
  ⟨fun h => (settled.1 h).of_alike closes.audience, settled.2.of_alike closes.audience⟩

theorem Closes.append {log log' : List Callback} (front : b.Closes first log mid)
    (back : mid.Closes second log' after) (filled : (b.gate.ledger.strike first).isEmpty = false)
    (more : second ≠ []) : b.Closes (first ++ second) (log ++ log') after where
  gate := by rw [back.gate, front.gate, Gate.struck_append filled]
  audience := back.audience.trans front.audience
  hears := by
    rw [heard_append, front.hears, back.hears, front.gate, Gate.closings_append filled more,
      Audience.hears_append, front.audience.hears]

/-- Carrying out what follows a close. -/
theorem perform_closes {α : Type} (value : α) (settled : b.Settled) (some : hs ≠ []) :
    let closed := b.gate.settle (b.gate.ledger.strike hs)
    let outcome := perform value (Gate.closing b.gate closed hs) { b with gate := closed }
    outcome.reply = .done value ∧ b.Closes hs outcome.log outcome.barrier := by
  intro closed outcome
  have told := Gate.notices_closing (g := b.gate) closed hs
  have steady : ∀ notice ∈ notices (Gate.closing b.gate closed hs), b.audience.Steady notice := by
    intro notice member
    rw [told] at member
    rcases List.mem_append.mp member with close | last
    · obtain ⟨h, _, rfl⟩ := List.mem_map.mp close
      exact settled.1 h
    · split at last
      · rw [List.mem_singleton.mp last]
        exact settled.2
      · cases last
  obtain ⟨reply, alike, gate, hears⟩ :=
    perform_steady value (Gate.closing b.gate closed hs) { b with gate := closed } steady
  refine ⟨reply, ?_, alike, ?_⟩
  · rw [gate, Gate.struck]
    simp only [Gate.signal_mem_closing, ← Bool.and_eq_true]
    rfl
  · rw [hears, told, Gate.closings, Gate.settle_ledger]
    simp [some]

/-- Nothing follows where nothing is closed. -/
theorem Closes.nil (sound : b.gate.Sound) : b.Closes [] [] b where
  gate := sound.struck_nil.symm
  audience := .refl _
  hears := rfl

/-! ## The three ways of closing handles -/

theorem apply_closes (settled : b.Settled) (now : Moment) {h : Handle}
    (present : b.gate.ledger.contains h) :
    let outcome := b.apply now ⟨.closed, h⟩
    outcome.reply = .done () ∧ b.Closes [h] outcome.log outcome.barrier := by
  rcases Ledger.remove_cases h b.gate.ledger with ⟨absent, _⟩ | ⟨_, next, removed⟩
  · rw [absent] at present
    cases present
  · have strike : b.gate.ledger.strike [h] = next := Ledger.strike_cons removed []
    have applied : b.gate.apply now ⟨.closed, h⟩ =
        .ok (b.gate.settle next, Gate.closing b.gate (b.gate.settle next) [h]) := by
      simp only [Gate.apply, removed]
      rfl
    simp only [apply, applied, ← strike]
    exact perform_closes () settled (List.cons_ne_nil h [])

theorem evict_of_none {context : String} (none : b.gate.ledger.names context = []) :
    b.evict context = ⟨b, [], .done []⟩ := by
  rw [evict, Gate.evict_of_none none]
  rfl

theorem evictAll_of_none (none : b.gate.ledger.handles = []) :
    b.evictAll = ⟨b, [], .done []⟩ := by
  rw [evictAll, Gate.evictAll_of_none none]
  rfl

theorem evict_closes (sound : b.gate.Sound) (settled : b.Settled) (context : String) :
    let outcome := b.evict context
    let names := b.gate.ledger.names context
    outcome.reply = .done names ∧
      b.Closes (names.map (⟨context, ·⟩)) outcome.log outcome.barrier := by
  by_cases none : b.gate.ledger.names context = []
  · simp only [evict_of_none none, none]
    exact ⟨trivial, .nil sound⟩
  · simp only [evict, Gate.evict_of_some none, ← sound.tallied.strike_context context]
    exact perform_closes _ settled (by simpa using none)

theorem evictAll_closes (sound : b.gate.Sound) (settled : b.Settled) :
    let outcome := b.evictAll
    let handles := b.gate.ledger.handles
    outcome.reply = .done handles ∧ b.Closes handles outcome.log outcome.barrier := by
  by_cases none : b.gate.ledger.handles = []
  · simp only [evictAll_of_none none, none]
    exact ⟨trivial, .nil sound⟩
  · simp only [evictAll, Gate.evictAll_of_some none, ← sound.tallied.strike_handles]
    exact perform_closes _ settled none

end Barrier

end Quiescence
