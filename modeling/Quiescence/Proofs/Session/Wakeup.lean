import Quiescence.Proofs.Session.Verdict

/-! # Which parked threads are woken

The change that leaves nothing open ends the wait of a parked thread on the spot, but the thread
goes on only at the signal, and the signal comes after everybody has been told of the closes. An
observer that panics in between takes the signal away: the wait is over, and the thread sleeps on. A
panic later, when quiescence is told, comes too late to do harm.
-/

namespace Quiescence

/-- Whether the operation of a turn ended in a panic before anybody was told of quiescence. -/
def Session.Turn.BrokeOff (turn : Session.Turn) : Prop :=
  (∃ observer, turn.answer = .panicked observer) ∧
    ∀ observer shown, .told observer .quiescent shown ∉ turn.log

namespace Gate

variable {g : Gate} {ledger : Ledger} {n : Nat}

/-- What follows the closes that leave nothing open for a waiter. -/
theorem closing_of_emptied {after : Gate} (busy : g.hasWaiter) (left : after.ledger.isEmpty)
    (closed : List Handle) :
    closing g after closed = closed.map (.tell <| .closed ·) ++ [.signal, .tell .quiescent] := by
  simp [closing, left, busy]

/-- A change that leaves nothing open ends the wait of a parked thread, which goes on only at the
signal. -/
theorem Sound.settle_thread (sound : g.Sound) (waiting : g.wait = .active n .thread)
    (left : ledger.isEmpty) :
    (g.settle ledger).wait = .idle ∧ n ∈ (g.settle ledger).parked ∧
      n ∉ (g.settle ledger).released ∧ n ∈ (g.settle ledger).signal.released := by
  have active : g.isActive n := isActive_iff.mpr ⟨_, waiting⟩
  have idle : (g.settle ledger).wait = .idle := by rw [settle_wait, if_pos left]
  have asleep : n ∈ (g.settle ledger).parked := by simpa using sound.asleep n waiting
  refine ⟨idle, asleep, ?_, List.mem_append_right _ (List.mem_filter.mpr ⟨asleep, ?_⟩)⟩
  · rw [settle_released, waitingTask, waiting]
    simpa using sound.unreleased n active
  · rw [isActive_of_idle idle]
    rfl

end Gate

namespace Barrier

/-- Carrying out what follows the closes that leave nothing open for a waiter: either a panic comes
before the signal, and before anybody hears of quiescence, or the signal is given. -/
theorem perform_closing {α : Type} (value : α) (closed : List Handle) (b : Barrier) :
    let outcome := b.perform value (closed.map (.tell <| .closed ·) ++ [.signal, .tell .quiescent])
    (outcome.barrier.gate = b.gate ∧ (∃ observer, outcome.reply = .panicked observer) ∧
      ∀ observer shown, .told observer .quiescent shown ∉ outcome.log) ∨
    (outcome.barrier.gate = b.gate.signal ∧ ((∃ observer, outcome.reply = .panicked observer) →
      ∃ observer shown, .told observer .quiescent shown ∈ outcome.log)) := by
  have split := perform_tell_append value (closed.map .closed) [.signal, .tell .quiescent] b
  have silent := Audience.tellAll_log b.glimpse (closed.map .closed) b.audience
  rw [List.map_map] at split
  intro outcome
  rw [show outcome = _ from split]
  generalize b.audience.tellAll b.glimpse (closed.map .closed) = told at silent
  obtain ⟨audience, log, panic⟩ := told
  cases panic with
  | some observer =>
    refine .inl ⟨rfl, ⟨observer, rfl⟩, ?_⟩
    intro other shown member
    simpa using silent other .quiescent shown member
  | none =>
    refine .inr ?_
    simp only [perform]
    split
    · next observer panicked =>
      refine ⟨rfl, fun _ => ?_⟩
      obtain ⟨listener, member⟩ :=
        Audience.tellEach_told_of_panic _ _ _ _ (Option.isSome_iff_exists.mpr ⟨observer, panicked⟩)
      exact ⟨listener, _, List.mem_append_right _ member⟩
    · refine ⟨rfl, ?_⟩
      rintro ⟨observer, panicked⟩
      cases panicked

end Barrier

namespace Session

variable {s : Session} {slot : String} {x : Step} {n : Nat}

/-- The operation that leaves nothing open carries out a closing of the gate. -/
theorem empties_closing (mutation : x.isMutation) (empties : s.empties x) :
    ∃ (α : Type) (value : α) (answer : α → Answer) (ledger : Ledger) (closed : List Handle),
      ledger.isEmpty ∧ (∀ value observer, answer value ≠ .panicked observer) ∧
      s.step x = s.ofOutcome answer (Barrier.perform value
        (Gate.closing s.barrier.gate (s.barrier.gate.settle ledger) closed)
        { s.barrier with gate := s.barrier.gate.settle ledger }) := by
  obtain ⟨filled, emptied⟩ : s.barrier.gate.ledger.isEmpty = false ∧
      (s.step x).session.barrier.gate.ledger.isEmpty := by simpa [Session.empties] using empties
  rcases step_mutation mutation (s := s) with
    ⟨fault, refused⟩ | ⟨α, value, answer, gate, effects, change, calm, changed⟩
  · rw [refused] at emptied
    simp [filled] at emptied
  · have left : gate.ledger.isEmpty := by
      rw [changed] at emptied
      rcases Barrier.perform_gate value effects { s.barrier with gate } with same | signalled
      · simpa [ofOutcome, same] using emptied
      · simpa [ofOutcome, signalled] using emptied
    obtain ⟨ledger, closed, empty, rfl, rfl⟩ := change.struck_of_emptied filled left
    exact ⟨α, value, answer, ledger, closed, empty, calm, changed⟩

namespace Sound

/-- An operation that leaves nothing open for a parked thread ends its wait and either wakes it or
breaks off. -/
theorem parked_step (sound : s.Sound) (single : x.isSingle)
    (waiting : s.barrier.gate.wait = .active n .thread) (empties : s.empties x) :
    (s.step x).session.barrier.gate.wait = .idle ∧
      (((s.step x).BrokeOff ∧ n ∉ (s.step x).session.barrier.gate.released ∧
          n ∈ (s.step x).session.barrier.gate.parked) ∨
        (¬ (s.step x).BrokeOff ∧ n ∈ (s.step x).session.barrier.gate.released)) := by
  have busy : s.barrier.gate.hasWaiter :=
    Gate.hasWaiter_iff.mpr ⟨n, Gate.isActive_iff.mpr ⟨_, waiting⟩⟩
  obtain ⟨α, value, answer, ledger, closed, left, calm, changed⟩ :=
    empties_closing (sound.isMutation_of_empties single empties) empties
  obtain ⟨idle, asleep, unreleased, woken⟩ := sound.gate.settle_thread waiting left
  have effects : Gate.closing s.barrier.gate (s.barrier.gate.settle ledger) closed =
      closed.map (.tell <| .closed ·) ++ [.signal, .tell .quiescent] :=
    Gate.closing_of_emptied busy (by simpa using left) closed
  have outcome := Barrier.perform_closing value closed
    { s.barrier with gate := s.barrier.gate.settle ledger }
  rw [changed, effects]
  rcases outcome with ⟨gate, ⟨observer, reply⟩, silent⟩ | ⟨gate, loud⟩
  · have brokeOff : (s.ofOutcome answer _).BrokeOff :=
      ⟨⟨observer, by simp only [ofOutcome, reply]⟩, silent⟩
    refine ⟨?_, .inl ⟨brokeOff, ?_, ?_⟩⟩
    · simpa only [ofOutcome, gate] using idle
    · simpa only [ofOutcome, gate] using unreleased
    · simpa only [ofOutcome, gate] using asleep
  · refine ⟨?_, .inr ⟨?_, ?_⟩⟩
    · simp only [ofOutcome, gate]
      exact idle
    · rintro ⟨⟨observer, panicked⟩, silent⟩
      simp only [ofOutcome] at panicked
      split at panicked
      · exact calm _ _ panicked
      · cases panicked
      · next other reply =>
        obtain ⟨listener, shown, told⟩ := loud ⟨other, reply⟩
        exact silent listener shown told
    · simpa only [ofOutcome, gate] using woken

end Sound

/-- Whenever an operation of a run leaves nothing open for a parked thread, its wait is over. The
thread goes on, and every later poll of its wait succeeds, unless the operation broke off; then the
thread sleeps on and the next poll finds nothing. -/
theorem parked_thread_wakes_unless_broken_off (limit : Option Nat) (steps : List Step)
    {prior rest : List Step} (split : (new limit).operations steps = prior ++ x :: rest)
    (waiting : ((new limit).after prior).barrier.gate.wait = .active n .thread)
    (empties : ((new limit).after prior).empties x) :
    let turn := ((new limit).after prior).step x
    turn.session.barrier.gate.wait = .idle ∧
    (¬ turn.BrokeOff → n ∈ turn.session.barrier.gate.released ∧
      ∀ slot more, ((new limit).after prior).slots.lookup slot = some (.thread n) →
        turn.session.keeps slot more →
        ((turn.session.after more).step (.poll slot)).answer = .ok) ∧
    (turn.BrokeOff → n ∈ turn.session.barrier.gate.parked ∧
      ∀ slot, ((new limit).after prior).slots.lookup slot = some (.thread n) →
        (turn.session.step (.poll slot)).answer = .pending) := by
  intro turn
  have sound := (sound_new limit).after prior
  have member : x ∈ (new limit).operations steps := by simp [split]
  have single := isSingle_of_mem_operations member
  have mutation := sound.isMutation_of_empties single empties
  have active := Gate.isActive_iff.mpr ⟨_, waiting⟩
  have next : turn.session.Sound := sound.step single
  have stays (slot : String)
      (found : ((new limit).after prior).slots.lookup slot = some (.thread n)) :
      turn.session.slots.lookup slot = some (.thread n) := by
    refine (sound.move_step single).lookup found ?_ fun polled => ?_
    · rw [displaces?_of_isMutation mutation]
      nofun
    · rw [polled] at mutation
      cases mutation
  obtain ⟨idle, ⟨broken, unreleased, asleep⟩ | ⟨whole, released⟩⟩ :=
    sound.parked_step single waiting empties
  · refine ⟨idle, fun whole => absurd broken whole, fun _ => ⟨asleep, fun slot found => ?_⟩⟩
    have intime : turn.session.overdue.lookup n = none := by
      rw [show turn.session.overdue = _ from mutation_overdue mutation]
      exact sound.lookup_overdue active
    change (turn.session.poll slot).1 = .pending
    rw [poll_answer, stays slot found]
    simp only [show n ∉ turn.session.barrier.gate.released from unreleased, if_false, intime]
  · refine ⟨idle, fun _ => ⟨released, fun slot more found kept => ?_⟩, fun broken =>
      absurd broken whole⟩
    obtain ⟨held, remains⟩ := next.kept_after kept (stays slot found)
    change ((turn.session.after more).poll slot).1 = .ok
    rw [poll_answer, held]
    exact if_pos (remains n released)

/-- An observer that panics when it is told of the last close leaves the parked thread asleep. -/
theorem thread_sleeps_through_panic :
    let prior : List Step :=
      [.apply ⟨.opened, ⟨"A", "x"⟩⟩, .park "t", .observe "p" { closed := fun _ => [.panic] }]
    let last : Step := .apply ⟨.closed, ⟨"A", "x"⟩⟩
    let turn := ((new none).after prior).step last
    ((new none).after prior).barrier.gate.wait = .active 1 .thread ∧
      ((new none).after prior).empties last ∧ turn.BrokeOff ∧
      (turn.session.step (.poll "t")).answer = .pending := by
  intro prior last turn
  have split : (new none).operations (prior ++ [last]) = prior ++ last :: [] := rfl
  have waiting : ((new none).after prior).barrier.gate.wait = .active 1 .thread := by decide
  have empties : ((new none).after prior).empties last := by decide
  have told : turn.log = [.told "p" (.closed ⟨"A", "x"⟩) ⟨0, false⟩] := by decide
  have broken : turn.BrokeOff := by
    refine ⟨⟨"p", by decide⟩, fun observer shown member => ?_⟩
    rw [told] at member
    cases List.mem_singleton.mp member
  have found : ((new none).after prior).slots.lookup "t" = some (.thread 1) := by decide
  obtain ⟨_, _, asleep⟩ := parked_thread_wakes_unless_broken_off none _ split waiting empties
  exact ⟨waiting, empties, broken, (asleep broken).2 "t" found⟩

end Session

end Quiescence
