import Quiescence.Barrier.Gate
import Quiescence.Proofs.Ledger.Tally

/-! # What a change makes of a gate

However a change comes about, it leaves another ledger, and it releases the waiter when nothing is
open any more. The effects that follow it are one notice, or the notices of what was closed with the
signal and the notice of quiescence behind them.
-/

namespace Quiescence.Gate

variable {g : Gate}

/-- The gate with another ledger; its waiter is released if nothing is open any more. -/
def settle (ledger : Ledger) (g : Gate) : Gate := releaseIfEmpty { g with ledger }

/-- Everything that an accepted change can do to a gate, and what follows it. -/
inductive Change (g : Gate) : Gate → List Effect → Prop
  /-- A handle was opened or modified. -/
  | recorded {ledger : Ledger} (notice : Notice) (kept : ledger.isEmpty → g.ledger.isEmpty)
      (tallied : g.ledger.Tallied → ledger.Tallied) : Change g { g with ledger } [.tell notice]
  /-- Some handles were closed. -/
  | struck {ledger : Ledger} (closed : List Handle) (tallied : g.ledger.Tallied → ledger.Tallied) :
      Change g (g.settle ledger) (closing g (g.settle ledger) closed)
  /-- There was nothing to close. -/
  | untouched : Change g g []

/-- An event that is accepted does to the ledger what its kind says. -/
theorem apply_cases {now : Moment} {event : Event} {next : Gate} {effects : List Effect}
    (applied : g.apply now event = .ok (next, effects)) :
    (∃ ledger, event.kind = .opened ∧ g.ledger.add now event.handle = .ok ledger ∧
      next = { g with ledger } ∧ effects = [.tell (.opened event.handle)]) ∨
    (∃ ledger, event.kind = .modified ∧ g.ledger.mark now event.handle = .ok ledger ∧
      next = { g with ledger } ∧ effects = [.tell (.modified event.handle)]) ∨
    ∃ ledger, event.kind = .closed ∧ g.ledger.remove event.handle = .ok ledger ∧
      next = g.settle ledger ∧ effects = closing g next [event.handle] := by
  unfold apply at applied
  split at applied
  · next opens =>
    cases added : g.ledger.add now event.handle with
    | error fault => simp [added, bind, Except.bind] at applied
    | ok ledger =>
      simp only [added, bind, Except.bind, pure, Except.pure, Except.ok.injEq,
        Prod.mk.injEq] at applied
      exact .inl ⟨ledger, opens, rfl, applied.1.symm, applied.2.symm⟩
  · next modifies =>
    cases marked : g.ledger.mark now event.handle with
    | error fault => simp [marked, bind, Except.bind] at applied
    | ok ledger =>
      simp only [marked, bind, Except.bind, pure, Except.pure, Except.ok.injEq,
        Prod.mk.injEq] at applied
      exact .inr (.inl ⟨ledger, modifies, rfl, applied.1.symm, applied.2.symm⟩)
  · next closes =>
    cases removed : g.ledger.remove event.handle with
    | error fault => simp [removed, bind, Except.bind] at applied
    | ok ledger =>
      simp only [removed, bind, Except.bind, pure, Except.pure, Except.ok.injEq,
        Prod.mk.injEq] at applied
      obtain ⟨rfl, rfl⟩ := applied
      exact .inr (.inr ⟨ledger, closes, rfl, rfl, rfl⟩)

theorem change_of_apply {now : Moment} {event : Event} {next : Gate} {effects : List Effect}
    (applied : g.apply now event = .ok (next, effects)) : g.Change next effects := by
  rcases apply_cases applied with ⟨ledger, _, added, rfl, rfl⟩ | ⟨ledger, _, marked, rfl, rfl⟩ |
    ⟨ledger, _, removed, rfl, rfl⟩
  · refine .recorded _ (fun empty => ?_) fun tallied => tallied.add added
    simp [Ledger.isEmpty_of_add added] at empty
  · exact .recorded _ (Ledger.isEmpty_of_mark marked ▸ id) fun tallied => tallied.mark marked
  · exact .struck _ fun tallied => tallied.remove removed

theorem change_of_evict (context : String) (g : Gate) :
    g.Change (g.evict context).2.1 (g.evict context).2.2 := by
  unfold evict
  split
  · exact .untouched
  · next names ledger _ cleared =>
    have same : ledger = (g.ledger.clearContext context).2 := by rw [cleared]
    exact .struck _ fun tallied => same ▸ tallied.clearContext context

theorem change_of_evictAll (g : Gate) : g.Change g.evictAll.2.1 g.evictAll.2.2 := by
  unfold evictAll
  split
  · exact .untouched
  · next closed ledger _ cleared =>
    obtain rfl : ledger = .empty := (Prod.mk.inj cleared).2.symm
    exact .struck closed fun _ => Ledger.tallied_empty

theorem evict_names (context : String) (g : Gate) :
    (g.evict context).1 = g.ledger.names context := by
  unfold evict
  split
  · next cleared => exact (congrArg Prod.fst cleared).symm
  · next cleared => exact (congrArg Prod.fst cleared).symm

theorem evictAll_handles (g : Gate) : g.evictAll.1 = g.ledger.handles := by
  unfold evictAll
  split
  · next cleared => exact (congrArg Prod.fst cleared).symm
  · next cleared => exact (congrArg Prod.fst cleared).symm

/-! ## The parts of a gate after a change -/

section Settle

variable (ledger : Ledger) (g : Gate)

/-- The task that waits, whose message is sent when the ledger becomes empty. -/
def waitingTask (g : Gate) : List Nat :=
  match g.wait with
  | .active number .task => [number]
  | .active _ .thread | .idle => []

theorem settle_gate : g.settle ledger =
    { g with
      ledger
      wait := if ledger.isEmpty then .idle else g.wait
      released := g.released ++ if ledger.isEmpty then g.waitingTask else [] } := by
  simp only [settle, releaseIfEmpty]
  cases ledger.isEmpty with
  | false => simp
  | true =>
    obtain ⟨before, wait, lastWait, released, parked⟩ := g
    cases wait with
    | idle => simp [release, waitingTask]
    | active number sleeper => cases sleeper <;> simp [release, waitingTask]

@[simp]
theorem settle_ledger : (g.settle ledger).ledger = ledger := by rw [settle_gate]

@[simp]
theorem settle_lastWait : (g.settle ledger).lastWait = g.lastWait := by rw [settle_gate]

@[simp]
theorem settle_parked : (g.settle ledger).parked = g.parked := by rw [settle_gate]

theorem settle_wait : (g.settle ledger).wait = if ledger.isEmpty then .idle else g.wait := by
  rw [settle_gate]

theorem settle_released :
    (g.settle ledger).released = g.released ++ if ledger.isEmpty then g.waitingTask else [] := by
  rw [settle_gate]

/-- A change ends the wait or leaves it alone. -/
theorem settle_wait_cases : (g.settle ledger).wait = .idle ∨ (g.settle ledger).wait = g.wait := by
  rw [settle_wait]
  exact ite_eq_or_eq _ _ _

end Settle

/-- The signal that may follow a change leaves everything as it is but who is parked, and takes
back no release. -/
theorem settled_parts {ledger : Ledger} {next : Gate}
    (settled : next = g.settle ledger ∨ next = (g.settle ledger).signal) :
    next.ledger = ledger ∧ next.wait = (g.settle ledger).wait ∧ next.lastWait = g.lastWait ∧
      ∀ n ∈ (g.settle ledger).released, n ∈ next.released := by
  rcases settled with rfl | rfl
  · exact ⟨settle_ledger ledger g, rfl, settle_lastWait ledger g, fun _ => id⟩
  · exact ⟨settle_ledger ledger g, rfl, settle_lastWait ledger g, fun _ => List.mem_append_left _⟩

/-- Of the changes, only one that strikes something leaves nothing open where something was open. -/
theorem Change.struck_of_emptied {next : Gate} {effects : List Effect}
    (change : g.Change next effects) (filled : g.ledger.isEmpty = false)
    (emptied : next.ledger.isEmpty) : ∃ (ledger : Ledger) (closed : List Handle),
      ledger.isEmpty ∧ next = g.settle ledger ∧ effects = closing g next closed := by
  cases change with
  | recorded _ kept => simp [kept emptied] at filled
  | untouched => simp [filled] at emptied
  | @struck ledger closed => exact ⟨ledger, closed, by simpa using emptied, rfl, rfl⟩

/-! ## Two gates with the same ledger -/

section Related

variable {other : Gate} {R : Gate × List Effect → Gate × List Effect → Prop}

/-- What holds of two gates with the same ledger after every change holds of them after an event,
and both accept it or neither. -/
theorem apply_rel (same : other.ledger = g.ledger)
    (recorded : ∀ ledger notice, R ({ other with ledger }, [.tell notice])
      ({ g with ledger }, [.tell notice]))
    (struck : ∀ ledger closed, R (other.settle ledger, closing other (other.settle ledger) closed)
      (g.settle ledger, closing g (g.settle ledger) closed))
    (now : Moment) (event : Event) :
    (∃ fault, g.apply now event = .error fault ∧ other.apply now event = .error fault) ∨
    ∃ result resultOther, g.apply now event = .ok result ∧
      other.apply now event = .ok resultOther ∧ R resultOther result := by
  obtain ⟨kind, h⟩ := event
  cases kind with
  | opened =>
    simp only [apply, same]
    cases g.ledger.add now h with
    | error fault => exact .inl ⟨fault, rfl, rfl⟩
    | ok ledger => exact .inr ⟨_, _, rfl, rfl, recorded ledger (.opened h)⟩
  | modified =>
    simp only [apply, same]
    cases g.ledger.mark now h with
    | error fault => exact .inl ⟨fault, rfl, rfl⟩
    | ok ledger => exact .inr ⟨_, _, rfl, rfl, recorded ledger (.modified h)⟩
  | closed =>
    simp only [apply, same]
    cases g.ledger.remove h with
    | error fault => exact .inl ⟨fault, rfl, rfl⟩
    | ok ledger => exact .inr ⟨_, _, rfl, rfl, struck ledger [h]⟩

theorem evict_rel (same : other.ledger = g.ledger) (untouched : R (other, []) (g, []))
    (struck : ∀ ledger closed, R (other.settle ledger, closing other (other.settle ledger) closed)
      (g.settle ledger, closing g (g.settle ledger) closed))
    (context : String) :
    (other.evict context).1 = (g.evict context).1 ∧
      R (other.evict context).2 (g.evict context).2 := by
  unfold evict
  rw [same]
  split
  · exact ⟨rfl, untouched⟩
  · exact ⟨rfl, struck _ _⟩

theorem evictAll_rel (same : other.ledger = g.ledger) (untouched : R (other, []) (g, []))
    (struck : ∀ ledger closed, R (other.settle ledger, closing other (other.settle ledger) closed)
      (g.settle ledger, closing g (g.settle ledger) closed)) :
    other.evictAll.1 = g.evictAll.1 ∧ R other.evictAll.2 g.evictAll.2 := by
  unfold evictAll
  rw [same]
  split
  · exact ⟨rfl, untouched⟩
  · next closed ledger _ cleared =>
    obtain rfl : ledger = .empty := (Prod.mk.inj cleared).2.symm
    exact ⟨rfl, struck .empty closed⟩

end Related

end Quiescence.Gate
