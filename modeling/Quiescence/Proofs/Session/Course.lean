import Quiescence.Proofs.Session.Move

/-! # The course of a wait

An active wait ends at an operation for one of three reasons: the operation empties the ledger, it
shows the wait that its time is up, or it takes the slot of a task away. Nothing else ends it, and
whatever else happens meanwhile, it stays in its slot. A released wait stays released.
-/

namespace Quiescence.Session

variable {s : Session} {slot : String} {n : Nat} {x : Step}

/-- Whether a step leaves nothing open where something was open before. -/
def empties (s : Session) (x : Step) : Bool :=
  !s.barrier.gate.ledger.isEmpty && (s.step x).session.barrier.gate.ledger.isEmpty

namespace Move

variable {gate : Gate} {slots : List (String × Slot)} {overdue : List (Nat × Fault)}

/-- Only a mutation can empty the ledger, and then it settles the gate. -/
theorem settled_of_emptied (move : s.Move x gate slots overdue)
    (filled : s.barrier.gate.ledger.isEmpty = false) (emptied : gate.ledger.isEmpty) :
    x.isMutation ∧ ∃ ledger : Ledger, ledger.isEmpty ∧
      (gate = s.barrier.gate.settle ledger ∨ gate = (s.barrier.gate.settle ledger).signal) := by
  cases move with
  | @settled mutation ledger _ gateEq =>
    have left := (Gate.settled_parts gateEq).1
    exact ⟨mutation, ledger, left ▸ emptied, gateEq⟩
  | stayed _ gateEq => simp [gateEq, filled] at emptied
  | finished _ _ gateEq => simp [gateEq, filled] at emptied
  | began _ _ _ _ _ gateEq => simp [gateEq, filled] at emptied
  | passed _ _ _ _ gateEq => simp [gateEq, filled] at emptied
  | timedUp _ _ _ gateEq => simp [gateEq, filled] at emptied

/-- Either the last wait goes on or ends, or it is over and the next one begins. -/
theorem wait_cases (move : s.Move x gate slots overdue) :
    (gate.lastWait = s.barrier.gate.lastWait ∧
      (gate.wait = .idle ∨ gate.wait = s.barrier.gate.wait)) ∨
    (gate.lastWait = s.barrier.gate.lastWait + 1 ∧ x.isWait ∧ gate.ledger.isEmpty = false ∧
      (s.cleared x).barrier.gate.wait = .idle ∧
      if s.fleeting x then gate.wait = .idle
      else ∃ sleeper, gate.wait = .active (s.barrier.gate.lastWait + 1) sleeper) := by
  cases move with
  | stayed _ gateEq =>
    subst gateEq
    refine .inl ⟨cleared_lastWait s x, ?_⟩
    unfold Session.cleared
    split
    · exact abandon_wait s _
    · exact .inr rfl
  | @settled _ ledger _ gateEq =>
    obtain ⟨_, wait, lastWait, _⟩ := Gate.settled_parts gateEq
    exact .inl ⟨lastWait, wait ▸ Gate.settle_wait_cases ledger s.barrier.gate⟩
  | @finished slot _ _ gateEq =>
    subst gateEq
    exact .inl ⟨abandon_lastWait s slot, abandon_wait s slot⟩
  | @began waits lasting filled idle sleeper _ _ gateEq =>
    subst gateEq
    rw [lasting, ← cleared_lastWait s x]
    exact .inr ⟨rfl, waits, filled, idle, sleeper, rfl⟩
  | passed waits fleeting filled idle gateEq =>
    subst gateEq
    rw [fleeting, ← cleared_lastWait s x]
    exact .inr ⟨rfl, waits, filled, idle, idle⟩
  | @timedUp number _ _ _ gateEq =>
    subst gateEq
    exact .inl ⟨Gate.rouse_lastWait _ number, Gate.rouse_wait_cases _ number⟩

/-- A released wait stays released. -/
theorem released (move : s.Move x gate slots overdue) (released : n ∈ s.barrier.gate.released) :
    n ∈ gate.released := by
  cases move with
  | stayed _ gateEq =>
    rw [gateEq, cleared_released]
    exact released
  | @settled _ ledger _ gateEq =>
    obtain ⟨_, _, _, kept⟩ := Gate.settled_parts gateEq
    refine kept n ?_
    rw [Gate.settle_released]
    exact List.mem_append_left _ released
  | finished _ _ gateEq =>
    rw [gateEq, abandon_released]
    exact released
  | began _ _ _ _ _ gateEq =>
    rw [gateEq]
    exact (cleared_released s x).symm ▸ released
  | passed _ _ _ _ gateEq =>
    rw [gateEq]
    exact (cleared_released s x).symm ▸ released
  | timedUp _ _ _ gateEq =>
    rw [gateEq, Gate.rouse_released]
    exact List.mem_append_left _ released

end Move

namespace Sound

theorem isMutation_of_empties (sound : s.Sound) (single : x.isSingle) (empties : s.empties x) :
    x.isMutation := by
  simp only [Session.empties, Bool.and_eq_true, Bool.not_eq_true'] at empties
  exact ((sound.move_step single).settled_of_emptied empties.1 empties.2).1

/-- A waiting task is released by the very operation that empties the ledger. -/
theorem task_released (sound : s.Sound) (single : x.isSingle) (empties : s.empties x)
    (waiting : s.barrier.gate.wait = .active n .task) :
    n ∈ (s.step x).session.barrier.gate.released := by
  simp only [Session.empties, Bool.and_eq_true, Bool.not_eq_true'] at empties
  obtain ⟨_, ledger, emptied, gate⟩ :=
    (sound.move_step single).settled_of_emptied empties.1 empties.2
  obtain ⟨_, _, _, kept⟩ := Gate.settled_parts gate
  refine kept n ?_
  rw [Gate.settle_released, if_pos emptied, Gate.waitingTask, waiting]
  exact List.mem_append_right _ List.mem_cons_self

/-- The three ways in which an active wait ends. -/
theorem isActive_step (sound : s.Sound) (single : x.isSingle)
    (active : s.barrier.gate.isActive n) :
    (s.step x).session.barrier.gate.isActive n =
      !(s.empties x || s.ranOut x n || s.displaces x n) := by
  have filled := sound.gate.occupied (Gate.hasWaiter_iff.mpr ⟨n, active⟩)
  have last := sound.gate.latest n active
  have empties : s.empties x = (s.step x).session.barrier.gate.ledger.isEmpty := by
    simp [Session.empties, filled]
  have displaced (idle : (s.cleared x).barrier.gate.wait = .idle) : s.displaces x n := by
    have past := cleared_isActive s x n
    rw [Gate.isActive_of_idle idle, active] at past
    simpa using past
  rw [empties]
  cases sound.move_step single with
  | stayed patient gate =>
    rw [gate, cleared_isActive, cleared_ledger, filled, patient n active, active]
    simp
  | @settled mutation ledger _ gate =>
    obtain ⟨left, wait, _, _⟩ := Gate.settled_parts gate
    rw [Gate.isActive_congr wait, left, ranOut_of_isMutation mutation,
      displaces_eq_false (displaces?_of_isMutation mutation)]
    cases emptied : ledger.isEmpty with
    | true => exact Gate.isActive_of_idle (by rw [Gate.settle_wait, if_pos emptied]) n
    | false =>
      rw [Gate.isActive_congr (g := s.barrier.gate) (by rw [Gate.settle_wait, emptied]; rfl)]
      simpa using active
  | @finished slot polled decided gate =>
    subst polled
    rw [gate, abandon_isActive, abandon_ledger, filled, active, displaces_eq_false rfl,
      Bool.true_and, Bool.false_or, Bool.or_false, ranOut, taskIn?]
    cases found : s.slots.lookup slot with
    | none => rfl
    | some held =>
      cases held with
      | thread => simp [Slot.isDue]
      | task m deadline =>
        by_cases same : m = n
        · subst same
          have late : (Slot.task m deadline).isDue s.clock := by
            rw [sound.poll_active found active] at decided
            by_contra early
            exact decided (if_neg early)
          simp [Slot.number, late]
        · simp [Slot.number, beq_false_of_ne same, bne_iff_ne.mpr (Option.some_inj.not.mpr same)]
  | began _ _ _ idle _ gate =>
    rw [displaced idle, gate, Bool.or_true, Bool.not_true, Bool.eq_false_iff]
    intro kept
    obtain ⟨_, kept⟩ := Gate.isActive_iff.mp kept
    have same := (Wait.active.inj kept).1
    rw [cleared_lastWait] at same
    omega
  | passed _ _ _ idle gate =>
    rw [displaced idle, gate, Bool.or_true, Bool.not_true]
    exact Gate.isActive_of_idle idle n
  | @timedUp number called limited slept gate =>
    subst called
    rw [gate, Gate.rouse_isActive, Gate.rouse_ledger, filled, active, displaces_eq_false rfl,
      Bool.true_and, Bool.false_or, Bool.or_false, ranOut]
    by_cases same : number = n
    · subst same
      simp [limited, slept]
    · simp [beq_false_of_ne same, bne_iff_ne.mpr same]

end Sound

/-! ## A task that is left alone -/

section Hold

variable {deadline : Option Nat}

/-- A task that is neither dropped nor over stays where it is. -/
theorem Move.lookup {gate : Gate} {slots : List (String × Slot)} {overdue : List (Nat × Fault)}
    (move : s.Move x gate slots overdue) {held : Slot} (found : s.slots.lookup slot = some held)
    (kept : x.displaces? ≠ some slot) (unfinished : x = .poll slot → (s.poll slot).1 = .pending) :
    slots.lookup slot = some held := by
  have abandoned {other : String} (differ : slot ≠ other) :
      (s.abandon other).slots.lookup slot = some held := by
    rw [abandon_slots, List.lookup_filter_key, if_neg differ, found]
  have cleared : (s.cleared x).slots.lookup slot = some held := by
    unfold Session.cleared
    split
    · next other displaced => exact abandoned fun same => kept (same ▸ displaced)
    · exact found
  cases move with
  | stayed _ _ slotsEq => rw [slotsEq, cleared]
  | settled _ _ _ slotsEq => rw [slotsEq, found]
  | @finished other polled decided _ slotsEq =>
    rw [slotsEq]
    refine abandoned fun same => ?_
    subst same
    exact decided (unfinished polled)
  | began _ _ _ _ _ _ slotsEq => rw [slotsEq, List.lookup_append, cleared, Option.some_or]
  | passed _ _ _ _ _ slotsEq => rw [slotsEq, cleared]
  | timedUp _ _ _ _ slotsEq => rw [slotsEq, found]

namespace Sound

/-- Nobody else can end the wait of a task in a slot. -/
theorem unended (sound : s.Sound) (found : s.slots.lookup slot = some (.task n deadline))
    (kept : x.displaces? ≠ some slot) (unfinished : x = .poll slot → (s.poll slot).1 = .pending)
    (waiting : s.barrier.gate.wait = .active n .task) :
    s.ranOut x n = false ∧ s.displaces x n = false := by
  have active : s.barrier.gate.isActive n := Gate.isActive_iff.mpr ⟨_, waiting⟩
  refine ⟨Bool.eq_false_iff.mpr fun late => ?_, Bool.eq_false_iff.mpr fun displaced => ?_⟩
  · unfold ranOut at late
    split at late
    · next other =>
      split at late
      · next held elsewhere =>
        obtain ⟨number, due⟩ : held.number = n ∧ held.isDue s.clock := by simpa using late
        obtain rfl := sound.slot_unique found elsewhere number.symm
        have past := sound.poll_active elsewhere (number ▸ active)
        rw [unfinished rfl, if_pos due] at past
        cases past
      · cases late
    · simp only [Bool.and_eq_true, beq_iff_eq, List.contains_iff_mem] at late
      exact sound.gate.awake n waiting late.2
    · cases late
  · obtain ⟨other, displaces, task⟩ := displaces?_of_displaces displaced
    obtain ⟨_, elsewhere⟩ := taskIn?_eq_some_iff.mp task
    obtain rfl := sound.slot_unique found elsewhere rfl
    exact kept displaces

/-- The wait of a task that is left alone goes on until the ledger becomes empty. -/
theorem hold_step (sound : s.Sound) (single : x.isSingle)
    (found : s.slots.lookup slot = some (.task n deadline)) (kept : x.displaces? ≠ some slot)
    (unfinished : x = .poll slot → (s.poll slot).1 = .pending)
    (waiting : s.barrier.gate.wait = .active n .task) (filled : s.empties x = false) :
    (s.step x).session.barrier.gate.wait = .active n .task := by
  have active : s.barrier.gate.isActive n := Gate.isActive_iff.mpr ⟨_, waiting⟩
  obtain ⟨intime, undisturbed⟩ := sound.unended found kept unfinished waiting
  have still := sound.isActive_step single active
  rw [filled, intime, undisturbed] at still
  rcases (sound.move_step single).wait_cases with ⟨_, past | same⟩ | ⟨_, _, _, idle, _⟩
  · rw [Gate.isActive_of_idle past] at still
    cases still
  · rw [same, waiting]
  · have past := cleared_isActive s x n
    rw [Gate.isActive_of_idle idle, active, undisturbed] at past
    cases past

end Sound

end Hold

end Quiescence.Session
