import Quiescence.Proofs.Session.Sound

/-! # What one operation makes of the waits

An operation that changes the barrier at most once does one of six things to the gate and the slots.
Everything that is said about the course of a wait is derived from these six.
-/

namespace Quiescence.Session

variable {s : Session} {slot : String} {n : Nat} {x : Step}

/-! ## Waits that end or never last -/

/-- The session once a step has taken its slot from the wait in it. -/
def cleared (x : Step) (s : Session) : Session :=
  match x.displaces? with
  | some slot => s.abandon slot
  | none => s

/-- Whether a step takes its slot from the task of this wait. -/
def displaces (s : Session) (x : Step) (n : Nat) : Bool := x.displaces?.bind s.taskIn? == some n

/-- Whether a step shows the wait of this number that its time is up. -/
def ranOut (s : Session) (x : Step) (n : Nat) : Bool :=
  match x with
  | .poll slot =>
    match s.slots.lookup slot with
    | some held => held.number == n && held.isDue s.clock
    | none => false
  | .timeUp number => number == n && s.limited.contains n && s.barrier.gate.parked.contains n
  | _ => false

/-- Whether a wait that this step begins is over by the time the step ends. -/
def fleeting (s : Session) : Step → Bool
  | .wait _ limit => limit.or s.barrier.waitLimit == some 0
  | .block limit => (limit.or s.barrier.waitLimit).isSome
  | _ => false

theorem displaces?_of_displaces (displaced : s.displaces x n) :
    ∃ slot, x.displaces? = some slot ∧ s.taskIn? slot = some n := by
  unfold displaces at displaced
  exact Option.bind_eq_some_iff.mp (by simpa using displaced)

theorem ranOut_of_displaces? (displaces : x.displaces? = some slot) (n : Nat) :
    s.ranOut x n = false := by
  cases x <;> first | rfl | cases displaces

theorem displaces_eq_false (spares : x.displaces? = none) (n : Nat) : s.displaces x n = false := by
  simp [displaces, spares]

theorem displaces?_of_isMutation (mutation : x.isMutation) : x.displaces? = none := by
  cases x <;> first | rfl | cases mutation

theorem ranOut_of_isMutation (mutation : x.isMutation) (n : Nat) : s.ranOut x n = false := by
  cases x <;> first | rfl | cases mutation

theorem cleared_of_displaces? (displaces : x.displaces? = some slot) :
    s.cleared x = s.abandon slot := by
  simp only [Session.cleared, displaces]

theorem cleared_eq_self (spares : x.displaces? = none) : s.cleared x = s := by
  simp only [Session.cleared, spares]

theorem cleared_isActive (s : Session) (x : Step) (n : Nat) :
    (s.cleared x).barrier.gate.isActive n = (s.barrier.gate.isActive n && !s.displaces x n) := by
  unfold cleared displaces
  cases x.displaces? with
  | none => simp
  | some slot =>
    rw [abandon_isActive]
    rfl

@[simp]
theorem cleared_ledger (s : Session) (x : Step) :
    (s.cleared x).barrier.gate.ledger = s.barrier.gate.ledger := by
  unfold cleared
  split <;> simp

@[simp]
theorem cleared_lastWait (s : Session) (x : Step) :
    (s.cleared x).barrier.gate.lastWait = s.barrier.gate.lastWait := by
  unfold cleared
  split <;> simp

@[simp]
theorem cleared_released (s : Session) (x : Step) :
    (s.cleared x).barrier.gate.released = s.barrier.gate.released := by
  unfold cleared
  split <;> simp

theorem Sound.cleared (sound : s.Sound) (x : Step) : (s.cleared x).Sound := by
  unfold Session.cleared
  split
  · exact sound.abandon _
  · exact sound

/-- The poll of an active wait depends on its deadline alone. -/
theorem Sound.poll_active (sound : s.Sound) {held : Slot} (found : s.slots.lookup slot = some held)
    (active : s.barrier.gate.isActive held.number) :
    (s.poll slot).1 =
      if held.isDue s.clock then .refused (.timedOut s.barrier.gate.ledger.count)
      else .pending := by
  have unreleased := sound.gate.unreleased _ active
  have intime := sound.lookup_overdue active
  rw [poll_answer, found]
  cases held with
  | thread m =>
    simp only [Slot.number] at unreleased intime
    simp [unreleased, intime, Slot.isDue]
  | task m deadline =>
    simp only [Slot.number] at unreleased active
    simp only [unreleased, active, if_true, if_false, Slot.isDue]
    rfl

/-! ## A wait in its slot for the first time -/

section Entered

variable {held : Slot}

theorem lookup_entered (empty : s.slots.lookup slot = none) :
    (s.entered slot held).slots.lookup slot = some held := by
  simp [entered, List.lookup_append, empty]

/-- A wait that is polled as soon as it has begun is pending, unless it has no time at all. -/
theorem Sound.poll_entered (sound : s.Sound) (filled : s.barrier.gate.ledger.isEmpty = false)
    (empty : s.slots.lookup slot = none) (number : held.number = s.barrier.gate.lastWait + 1) :
    (s.entered slot held).poll slot =
      if held.isDue s.clock then
        (.refused (.timedOut s.barrier.gate.ledger.count), (s.entered slot held).abandon slot)
      else (.pending, s.entered slot held) := by
  have entered : (s.entered slot held).Sound := sound.seat filled (.taken empty number) rfl rfl rfl
  have active : (s.entered slot held).barrier.gate.isActive held.number :=
    Gate.isActive_iff.mpr ⟨held.sleeper, by rw [number]; rfl⟩
  have answer : ((s.entered slot held).poll slot).1 =
      if held.isDue s.clock then .refused (.timedOut s.barrier.gate.ledger.count) else .pending :=
    entered.poll_active (lookup_entered empty) active
  by_cases due : held.isDue s.clock
  · rw [if_pos due] at answer ⊢
    exact Prod.ext answer (by rw [poll_session, answer, if_neg nofun])
  · rw [if_neg due] at answer ⊢
    exact Prod.ext answer (by rw [poll_session, if_pos answer])

/-- A task that gives up at once leaves nothing behind but its number. -/
theorem abandon_entered_eq (empty : s.slots.lookup slot = none) (idle : s.barrier.gate.wait = .idle)
    (number : held.number = s.barrier.gate.lastWait + 1) (task : held.sleeper = .task) :
    (s.entered slot held).abandon slot = s.withGate s.barrier.gate.skip := by
  cases held with
  | thread => cases task
  | task m deadline =>
    obtain rfl : m = _ := number
    have found : (s.entered slot (.task (s.barrier.gate.lastWait + 1) deadline)).slots.lookup slot =
        some (.task (s.barrier.gate.lastWait + 1) deadline) := lookup_entered empty
    simp only [abandon, found]
    simp [entered, withGate, vacate, Slot.sleeper, Gate.retract_begun idle, List.filter_append,
      List.filter_key_eq_self empty]

theorem abandon_entered (empty : s.slots.lookup slot = none) (idle : s.barrier.gate.wait = .idle)
    (number : held.number = s.barrier.gate.lastWait + 1) (task : held.sleeper = .task) :
    ((s.entered slot held).abandon slot).barrier.gate = s.barrier.gate.skip ∧
      ((s.entered slot held).abandon slot).slots = s.slots := by
  rw [abandon_entered_eq empty idle number task]
  exact ⟨rfl, rfl⟩

end Entered

/-! ## The six moves -/

/-- What a step can leave of the gate, the slots and the threads that ran out of time. -/
inductive Move (s : Session) (x : Step) (gate : Gate) (slots : List (String × Slot))
    (overdue : List (Nat × Fault)) : Prop
  /-- At most the wait in the slot of the step is abandoned. -/
  | stayed (patient : ∀ n, s.barrier.gate.isActive n → s.ranOut x n = false)
      (gateEq : gate = (s.cleared x).barrier.gate) (slotsEq : slots = (s.cleared x).slots)
      (overdueEq : overdue = s.overdue)
  /-- What is open has changed. -/
  | settled (mutation : x.isMutation) {ledger : Ledger} (tallied : ledger.Tallied)
      (gateEq : gate = s.barrier.gate.settle ledger ∨ gate = (s.barrier.gate.settle ledger).signal)
      (slotsEq : slots = s.slots) (overdueEq : overdue = s.overdue)
  /-- The wait in a slot was found to be over. -/
  | finished {slot : String} (polled : x = .poll slot) (decided : (s.poll slot).1 ≠ .pending)
      (gateEq : gate = (s.abandon slot).barrier.gate) (slotsEq : slots = (s.abandon slot).slots)
      (overdueEq : overdue = s.overdue)
  /-- A wait has begun. -/
  | began (waits : x.isWait) (lasting : s.fleeting x = false)
      (filled : (s.cleared x).barrier.gate.ledger.isEmpty = false)
      (idle : (s.cleared x).barrier.gate.wait = .idle) {sleeper : Sleeper}
      {fresh : List (String × Slot)} (seat : (s.cleared x).Seat sleeper fresh)
      (gateEq : gate = (s.cleared x).barrier.gate.begun sleeper)
      (slotsEq : slots = (s.cleared x).slots ++ fresh) (overdueEq : overdue = s.overdue)
  /-- A wait has begun and is over already. -/
  | passed (waits : x.isWait) (fleeting : s.fleeting x = true)
      (filled : (s.cleared x).barrier.gate.ledger.isEmpty = false)
      (idle : (s.cleared x).barrier.gate.wait = .idle)
      (gateEq : gate = (s.cleared x).barrier.gate.skip) (slotsEq : slots = (s.cleared x).slots)
      (overdueEq : overdue = s.overdue)
  /-- A parked thread has run out of time. -/
  | timedUp {number : Nat} (called : x = .timeUp number) (limited : number ∈ s.limited)
      (slept : number ∈ s.barrier.gate.parked)
      (gateEq : gate = (s.barrier.gate.rouse number).2) (slotsEq : slots = s.slots)
      (overdueEq : overdue = s.overdue ∨ ∃ fault, overdue = s.overdue ++ [(number, fault)])

/-- A wait that goes into a slot makes one of three moves. -/
private theorem begin_move (sound : s.Sound) (waits : x.isWait)
    (displaces : x.displaces? = some slot) {sleeper : Sleeper} {wait : Nat → Slot}
    (suits : ∀ n, (wait n).sleeper = sleeper) (numbered : ∀ n, (wait n).number = n)
    (due : ∀ n, (wait n).isDue s.clock = s.fleeting x) :
    s.Move x (s.begin slot sleeper wait).2.barrier.gate (s.begin slot sleeper wait).2.slots
      (s.begin slot sleeper wait).2.overdue := by
  have cleared := cleared_of_displaces? (s := s) displaces
  have patient (n : Nat) (_ : s.barrier.gate.isActive n) : s.ranOut x n = false :=
    ranOut_of_displaces? displaces n
  rcases begin_cases slot suits s with ⟨_, outcome⟩ | ⟨_, _, outcome⟩ | ⟨filled, idle, outcome⟩
  · rw [outcome]
    exact .stayed patient (by rw [cleared]) (by rw [cleared]) (abandon_overdue s slot)
  · rw [outcome]
    exact .stayed patient (by rw [cleared]) (by rw [cleared]) (abandon_overdue s slot)
  · have sound := sound.abandon slot
    have empty := abandon_vacant s slot
    have number := numbered ((s.abandon slot).barrier.gate.lastWait + 1)
    have timely := due ((s.abandon slot).barrier.gate.lastWait + 1)
    generalize wait ((s.abandon slot).barrier.gate.lastWait + 1) = held at *
    rw [outcome, sound.poll_entered filled empty number, abandon_clock, timely]
    have seat : (s.abandon slot).Seat held.sleeper [(slot, held)] := .taken empty number
    rw [← cleared] at filled idle seat
    cases fleeting : s.fleeting x with
    | false =>
      refine .began waits fleeting filled idle seat ?_ ?_ (abandon_overdue s slot)
      · rw [cleared]
        rfl
      · rw [cleared]
        rfl
    | true =>
      have task : held.sleeper = .task := by
        cases held with
        | task => rfl
        | thread => cases timely.trans fleeting
      rw [cleared] at idle
      obtain ⟨gate, slots⟩ := abandon_entered empty idle number task
      rw [← cleared] at idle
      refine .passed waits fleeting filled idle (by simpa [cleared] using gate)
        (by simpa [cleared] using slots)
        ((abandon_overdue _ slot).trans (abandon_overdue s slot))

private theorem block_move (sound : s.Sound) (limit : Option Nat) :
    s.Move (.block limit) (s.barrier.block limit).2.gate s.slots s.overdue := by
  unfold Barrier.block
  rcases Gate.start_cases .thread s.barrier.gate with
    ⟨_, start⟩ | ⟨_, _, start⟩ | ⟨filled, idle, start⟩
  · simp only [start]
    exact .stayed (fun _ _ => rfl) rfl rfl rfl
  · simp only [start]
    exact .stayed (fun _ _ => rfl) rfl rfl rfl
  · simp only [start]
    cases own : limit.or s.barrier.waitLimit with
    | none =>
      exact .began rfl (by simp [fleeting, own]) filled idle .nowhere rfl (List.append_nil _).symm
        rfl
    | some time =>
      exact .passed rfl (by simp [fleeting, own]) filled idle (sound.gate.rouse_begun idle) rfl rfl

private theorem timeUp_move (number : Nat) :
    s.Move (.timeUp number) (s.timeUp number).barrier.gate (s.timeUp number).slots
      (s.timeUp number).overdue := by
  unfold timeUp
  split
  · next called =>
    obtain ⟨limited, slept⟩ : number ∈ s.limited ∧ number ∈ s.barrier.gate.parked := by
      simpa using called
    cases roused : s.barrier.gate.rouse number with
    | mk outcome gate =>
      cases outcome with
      | error fault =>
        exact .timedUp rfl limited slept (by rw [roused]; rfl) rfl (.inr ⟨fault, rfl⟩)
      | ok => exact .timedUp rfl limited slept (by rw [roused]; rfl) rfl (.inl rfl)
  · next idle =>
    refine .stayed (fun n _ => ?_) rfl rfl rfl
    unfold ranOut
    by_cases same : number = n
    · subst same
      simpa using idle
    · simp [same]

private theorem Sound.mutation_move (sound : s.Sound) (mutation : x.isMutation) :
    s.Move x (s.step x).session.barrier.gate (s.step x).session.slots
      (s.step x).session.overdue := by
  have kept : s.cleared x = s := cleared_eq_self (displaces?_of_isMutation mutation)
  rcases step_mutation mutation (s := s) with
    ⟨fault, refused⟩ | ⟨α, value, answer, gate, effects, change, _, changed⟩
  · rw [refused]
    exact .stayed (fun n _ => ranOut_of_isMutation mutation n) (by rw [kept]) (by rw [kept]) rfl
  · obtain ⟨tallied, settled⟩ := change.eq_settle sound.gate
    rw [changed]
    refine .settled mutation tallied ?_ rfl rfl
    rw [← settled]
    exact Barrier.perform_gate value effects { s.barrier with gate }

private theorem poll_move (sound : s.Sound) (slot : String) :
    s.Move (.poll slot) (s.poll slot).2.barrier.gate (s.poll slot).2.slots
      (s.poll slot).2.overdue := by
  rw [poll_session]
  split
  · next pending =>
    refine .stayed (fun n active => ?_) rfl rfl rfl
    cases found : s.slots.lookup slot with
    | none => simp only [ranOut, found]
    | some held =>
      simp only [ranOut, found, Bool.and_eq_false_imp, beq_iff_eq]
      intro same
      rw [sound.poll_active found (same ▸ active)] at pending
      split at pending
      · cases pending
      · next early => exact Bool.eq_false_iff.mpr early
  · next decided => exact .finished rfl decided rfl rfl (abandon_overdue s slot)

/-- Every operation makes one of the six moves. -/
theorem Sound.move_step (sound : s.Sound) (single : x.isSingle) :
    s.Move x (s.step x).session.barrier.gate (s.step x).session.slots
      (s.step x).session.overdue := by
  cases x with
  | feed => cases single
  | apply | evict | evictAll => exact sound.mutation_move rfl
  | poll slot => exact poll_move sound slot
  | drop slot => exact .stayed (fun _ _ => rfl) rfl rfl (abandon_overdue s slot)
  | wait slot limit =>
    refine begin_move sound rfl rfl (fun _ => rfl) (fun _ => rfl) fun _ => ?_
    simp only [fleeting, Slot.isDue]
    cases limit.or s.barrier.waitLimit with
    | none => rfl
    | some time =>
      rw [Bool.eq_iff_iff]
      simp only [Option.map_some, Option.any_some, decide_eq_true_eq, beq_iff_eq, Option.some.injEq]
      omega
  | park slot limit =>
    obtain ⟨limited, session⟩ := park_session slot limit (s := s)
    simp only [step, quietly, session]
    exact begin_move sound rfl rfl (fun _ => rfl) (fun _ => rfl) fun _ => rfl
  | block limit => exact block_move sound limit
  | timeUp number => exact timeUp_move number
  | _ => exact .stayed (fun _ _ => rfl) rfl rfl rfl

/-! ## Every session that can be reached -/

theorem Sound.of_move (sound : s.Sound) {next : Session}
    (move : s.Move x next.barrier.gate next.slots next.overdue) : next.Sound := by
  have cleared := sound.cleared x
  have unmoved : (s.cleared x).overdue = s.overdue := by
    unfold Session.cleared
    split <;> simp
  cases move with
  | stayed _ gate slots overdue =>
    exact cleared.of_gate (gate ▸ cleared.gate) (.inr (by rw [gate]))
      (Nat.le_of_eq (by rw [gate])) slots
      fun late member => .inl (unmoved ▸ overdue ▸ member)
  | @settled _ ledger tallied gate slots overdue =>
    obtain ⟨_, wait, lastWait, _⟩ := Gate.settled_parts gate
    have settled : next.barrier.gate.Sound := by
      rcases gate with gate | gate
      · exact gate ▸ sound.gate.settle tallied
      · exact gate ▸ (sound.gate.settle tallied).signal
    exact sound.of_gate settled (wait ▸ Gate.settle_wait_cases ledger s.barrier.gate)
      (Nat.le_of_eq lastWait.symm) slots fun late member => .inl (overdue ▸ member)
  | @finished slot _ _ gate slots overdue =>
    have abandoned := sound.abandon slot
    exact abandoned.of_gate (gate ▸ abandoned.gate) (.inr (by rw [gate]))
      (Nat.le_of_eq (by rw [gate])) slots
      fun late member => .inl (abandon_overdue s slot ▸ overdue ▸ member)
  | began _ _ filled _ seat gate slots overdue =>
    exact cleared.seat filled seat gate slots (overdue.trans unmoved.symm)
  | passed _ _ _ idle gate slots overdue =>
    exact cleared.of_gate (gate ▸ cleared.gate.skip idle) (.inr (by rw [gate]; rfl))
      (by rw [gate]; exact Nat.le_succ _) slots fun late member => .inl (unmoved ▸ overdue ▸ member)
  | @timedUp number _ _ slept gate slots overdue =>
    have roused := sound.gate.rouse slept
    have past : (s.barrier.gate.rouse number).2.isActive number = false := by
      simp [Gate.rouse_isActive]
    refine sound.of_gate (gate ▸ roused) (gate ▸ Gate.rouse_wait_cases s.barrier.gate number)
      (by rw [gate]; simp) slots fun late member => ?_
    rcases overdue with same | ⟨fault, more⟩
    · exact .inl (same ▸ member)
    · rw [more, List.mem_append] at member
      rcases member with old | new
      · exact .inl old
      · obtain rfl := List.mem_singleton.mp new
        rw [gate]
        exact .inr ⟨by simpa using sound.gate.parked_le number slept, past⟩

theorem Sound.step (sound : s.Sound) (single : x.isSingle) : (s.step x).session.Sound :=
  sound.of_move (sound.move_step single)

theorem Sound.after_singles (sound : s.Sound) {steps : List Step}
    (singles : ∀ x ∈ steps, x.isSingle) : (s.after steps).Sound := by
  induction steps generalizing s with
  | nil => exact sound
  | cons x rest ih =>
    obtain ⟨single, others⟩ := List.forall_mem_cons.mp singles
    exact ih (sound.step single) others

theorem Sound.after (sound : s.Sound) (steps : List Step) : (s.after steps).Sound := by
  rw [← after_operations]
  exact sound.after_singles fun _ => isSingle_of_mem_operations

/-- What every operation preserves is preserved by a run. -/
theorem Sound.preserved (sound : s.Sound) (holds : Session → Prop) (first : holds s)
    (kept : ∀ {s : Session} {x : Step}, s.Sound → x.isSingle → holds s → holds (s.step x).session)
    (steps : List Step) : holds (s.after steps) := by
  have singles : ∀ x ∈ s.operations steps, x.isSingle := fun _ => isSingle_of_mem_operations
  rw [← after_operations]
  generalize s.operations steps = parts at singles ⊢
  induction parts generalizing s with
  | nil => exact first
  | cons x rest ih =>
    obtain ⟨single, others⟩ := List.forall_mem_cons.mp singles
    exact ih (sound.step single) (kept sound single first) others

end Quiescence.Session
