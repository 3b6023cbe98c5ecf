import Quiescence.Proofs.Gate.Change

/-! # What holds of a gate at all times

A waiter is active only while something is open, and its wait is the last one that began. The active
wait has not been released; it is parked exactly when a thread sleeps in it. Every operation on a
gate keeps this, whatever the numbers are that it is given, so a wait that is over stays over: the
next one has a new number.
-/

namespace Quiescence.Gate

variable {g : Gate} {n : Nat}

/-! ## Waiters -/

theorem isActive_iff : g.isActive n ↔ ∃ sleeper, g.wait = .active n sleeper := by
  unfold isActive
  cases g.wait with
  | idle => simp
  | active number sleeper => simp

theorem isActive_of_idle (idle : g.wait = .idle) (n : Nat) : g.isActive n = false := by
  simp [isActive, idle]

theorem isActive_congr {next : Gate} (same : next.wait = g.wait) : next.isActive = g.isActive := by
  funext n
  simp only [isActive, same]

theorem hasWaiter_iff : g.hasWaiter ↔ ∃ n, g.isActive n := by
  simp only [isActive_iff]
  unfold hasWaiter
  cases g.wait with
  | idle => simp
  | active number sleeper => simp

theorem hasWaiter_eq_false_iff : g.hasWaiter = false ↔ g.wait = .idle := by
  simp [hasWaiter]

theorem isActive_unique {m : Nat} (first : g.isActive n) (second : g.isActive m) : n = m := by
  obtain ⟨_, one⟩ := isActive_iff.mp first
  obtain ⟨_, other⟩ := isActive_iff.mp second
  rw [one] at other
  exact (Wait.active.inj other).1

/-- The number of the active wait. -/
def waiter? (g : Gate) : Option Nat :=
  match g.wait with
  | .idle => none
  | .active number _ => some number

theorem waiter?_eq_some_iff : g.waiter? = some n ↔ g.isActive n := by
  unfold waiter? isActive
  cases g.wait <;> simp

theorem waiter?_eq_none_iff : g.waiter? = none ↔ g.wait = .idle := by
  unfold waiter?
  cases g.wait <;> simp

/-! ## The parts of a gate after an operation -/

section Parts

variable (g : Gate) (n : Nat)

@[simp]
theorem signal_ledger : g.signal.ledger = g.ledger := rfl

@[simp]
theorem isActive_signal : g.signal.isActive = g.isActive := rfl

@[simp]
theorem retract_ledger : (g.retract n).ledger = g.ledger := by unfold retract; split <;> rfl

@[simp]
theorem retract_lastWait : (g.retract n).lastWait = g.lastWait := by unfold retract; split <;> rfl

@[simp]
theorem retract_released : (g.retract n).released = g.released := by unfold retract; split <;> rfl

@[simp]
theorem retract_parked : (g.retract n).parked = g.parked := by unfold retract; split <;> rfl

theorem retract_wait : (g.retract n).wait = if g.isActive n then .idle else g.wait := by
  unfold retract
  split <;> rfl

theorem retract_wait_cases : (g.retract n).wait = .idle ∨ (g.retract n).wait = g.wait := by
  rw [retract_wait]
  exact ite_eq_or_eq _ _ _

/-- Of the waits, only the retracted one ends. -/
theorem retract_isActive (m : Nat) : (g.retract n).isActive m = (g.isActive m && n != m) := by
  by_cases active : g.isActive n
  · rw [isActive_of_idle (by rw [retract_wait, if_pos active]), eq_comm, Bool.and_eq_false_iff]
    by_cases same : g.isActive m
    · exact .inr (by simpa using isActive_unique active same)
    · exact .inl (Bool.eq_false_iff.mpr same)
  · rw [isActive_congr (g := g) (by rw [retract_wait, if_neg active])]
    by_cases same : n = m
    · simpa [← same] using active
    · simp [same]

variable {g n} in
theorem retract_eq_self (inactive : g.isActive n = false) : g.retract n = g := by
  simp [retract, inactive]

theorem retract_retract : (g.retract n).retract n = g.retract n :=
  retract_eq_self (by simp [retract_isActive])

@[simp]
theorem lapse_gate : (g.lapse n).2 = g.retract n := by
  unfold lapse retract
  split <;> rfl

theorem lapse_outcome : (g.lapse n).1 =
    if g.isActive n then .error (.timedOut g.ledger.count) else .ok () := by
  unfold lapse
  split <;> rfl

variable {g n} in
theorem lapse_of_inactive (inactive : g.isActive n = false) : g.lapse n = (.ok (), g) := by
  simp [lapse, inactive]

variable {g n} in
theorem rouse_of_inactive (inactive : g.isActive n = false) :
    g.rouse n = (.ok (), { g.unpark n with released := g.released ++ [n] }) := by
  simp only [rouse, lapse_of_inactive inactive]

theorem rouse_outcome : (g.rouse n).1 = (g.lapse n).1 := by
  unfold rouse
  split
  · next lapsed => rw [lapsed]
  · next lapsed => rw [lapsed]

theorem rouse_gate : (g.rouse n).2 =
    { (g.retract n).unpark n with released := g.released ++ if g.isActive n then [] else [n] } := by
  unfold rouse lapse
  cases active : g.isActive n <;> simp [active, unpark, retract]

@[simp]
theorem rouse_ledger : (g.rouse n).2.ledger = g.ledger := by simp [rouse_gate, unpark]

@[simp]
theorem rouse_lastWait : (g.rouse n).2.lastWait = g.lastWait := by simp [rouse_gate, unpark]

@[simp]
theorem rouse_parked : (g.rouse n).2.parked = g.parked.filter (· != n) := by
  simp [rouse_gate, unpark]

theorem rouse_wait : (g.rouse n).2.wait = if g.isActive n then .idle else g.wait := by
  simp [rouse_gate, unpark, retract_wait]

theorem rouse_wait_cases : (g.rouse n).2.wait = .idle ∨ (g.rouse n).2.wait = g.wait := by
  rw [rouse_wait]
  exact ite_eq_or_eq _ _ _

theorem rouse_isActive (m : Nat) : (g.rouse n).2.isActive m = (g.isActive m && n != m) := by
  rw [← retract_isActive, isActive_congr (g := g.retract n)]
  rw [rouse_wait, retract_wait]

theorem rouse_released :
    (g.rouse n).2.released = g.released ++ if g.isActive n then [] else [n] := by
  simp [rouse_gate]

/-- The gate in which the next wait has begun. -/
def begun (sleeper : Sleeper) (g : Gate) : Gate :=
  { g with
    wait := .active (g.lastWait + 1) sleeper
    lastWait := g.lastWait + 1
    parked := match sleeper with
      | .task => g.parked
      | .thread => g.parked ++ [g.lastWait + 1] }

/-- The gate after a wait that was over as soon as it had begun. -/
def skip (g : Gate) : Gate := { g with lastWait := g.lastWait + 1 }

@[simp]
theorem begun_ledger (sleeper : Sleeper) : (g.begun sleeper).ledger = g.ledger := rfl

@[simp]
theorem skip_ledger : g.skip.ledger = g.ledger := rfl

variable {g} in
theorem retract_begun (idle : g.wait = .idle) :
    (g.begun .task).retract (g.lastWait + 1) = g.skip := by
  simp [retract, begun, skip, isActive, idle]

/-- The three ways in which an attempt to wait turns out. -/
theorem start_cases (sleeper : Sleeper) (g : Gate) :
    (g.ledger.isEmpty ∧ g.start sleeper = (.quiescent, g)) ∨
    (g.ledger.isEmpty = false ∧ g.hasWaiter ∧ g.start sleeper = (.refused, g)) ∨
    (g.ledger.isEmpty = false ∧ g.wait = .idle ∧
      g.start sleeper = (.begun (g.lastWait + 1), g.begun sleeper)) := by
  unfold start
  split
  · next empty => exact .inl ⟨empty, rfl⟩
  · next filled =>
    have filled := Bool.eq_false_iff.mpr filled
    split
    · next busy => exact .inr (.inl ⟨filled, busy, rfl⟩)
    · next free =>
      exact .inr (.inr ⟨filled, hasWaiter_eq_false_iff.mp (Bool.eq_false_iff.mpr free), rfl⟩)

end Parts

/-! ## The invariant -/

/-- What holds of a gate between any two operations on it. -/
structure Sound (g : Gate) : Prop where
  tallied : g.ledger.Tallied
  occupied : g.hasWaiter → g.ledger.isEmpty = false
  latest : ∀ n, g.isActive n → n = g.lastWait
  released_le : ∀ n ∈ g.released, n ≤ g.lastWait
  parked_le : ∀ n ∈ g.parked, n ≤ g.lastWait
  unreleased : ∀ n, g.isActive n → n ∉ g.released
  asleep : ∀ n, g.wait = .active n .thread → n ∈ g.parked
  awake : ∀ n, g.wait = .active n .task → n ∉ g.parked

theorem sound_new : new.Sound where
  tallied := Ledger.tallied_empty
  occupied := nofun
  latest := nofun
  released_le := nofun
  parked_le := nofun
  unreleased := nofun
  asleep := nofun
  awake := nofun

namespace Sound

/-- A gate stays sound when its wait ends or goes on and at most waits that are over are
released. -/
theorem of_wait {next : Gate} (sound : g.Sound) (wait : next.wait = .idle ∨ next.wait = g.wait)
    (tallied : next.ledger.Tallied) (occupied : next.hasWaiter → next.ledger.isEmpty = false)
    (lastWait : next.lastWait = g.lastWait)
    (released : ∀ m ∈ next.released, m ∈ g.released ∨ m ≤ g.lastWait ∧ next.isActive m = false)
    (parked : ∀ m, m ∈ next.parked → m ∈ g.parked)
    (asleep : ∀ m, next.isActive m → m ∈ g.parked → m ∈ next.parked) : next.Sound := by
  have before (m : Nat) (sleeper : Sleeper) (active : next.wait = .active m sleeper) :
      g.wait = .active m sleeper := by
    rcases wait with idle | same
    · rw [idle] at active
      cases active
    · exact same ▸ active
  have active (m : Nat) (now : next.isActive m) : g.isActive m := by
    obtain ⟨sleeper, now⟩ := isActive_iff.mp now
    exact isActive_iff.mpr ⟨sleeper, before m sleeper now⟩
  refine ⟨tallied, occupied, fun m now => ?_, fun m member => ?_, fun m member => ?_,
    fun m now member => ?_, fun m now => ?_, fun m now member => ?_⟩
  · exact lastWait ▸ sound.latest m (active m now)
  · exact lastWait ▸ (released m member).elim (sound.released_le m) And.left
  · exact lastWait ▸ sound.parked_le m (parked m member)
  · rcases released m member with old | ⟨_, past⟩
    · exact sound.unreleased m (active m now) old
    · rw [past] at now
      cases now
  · exact asleep m (isActive_iff.mpr ⟨_, now⟩) (sound.asleep m (before m _ now))
  · exact sound.awake m (before m _ now) (parked m member)

theorem waitingTask_active (m : Nat) (member : m ∈ g.waitingTask) : g.isActive m := by
  unfold waitingTask at member
  unfold isActive
  split at member <;> simp_all

theorem settle (sound : g.Sound) {ledger : Ledger} (tallied : ledger.Tallied) :
    (g.settle ledger).Sound := by
  refine sound.of_wait (settle_wait_cases ledger g) (by simpa using tallied) (fun busy => ?_)
    (by simp) (fun m => ?_) (by simp) (by simp)
  · rw [hasWaiter, settle_wait] at busy
    split at busy
    · cases busy
    · next filled => simpa using filled
  · rw [settle_released]
    split
    · next empty =>
      rw [List.mem_append]
      rintro (old | freed)
      · exact .inl old
      · have last := sound.latest m (waitingTask_active m freed)
        refine .inr ⟨Nat.le_of_eq last, isActive_of_idle ?_ m⟩
        rw [settle_wait, if_pos empty]
    · simpa using .inl

theorem signal (sound : g.Sound) : g.signal.Sound := by
  refine sound.of_wait (.inr rfl) sound.tallied sound.occupied rfl (fun m member => ?_)
    (fun m member => (List.mem_filter.mp member).1) fun m active member => ?_
  · rcases List.mem_append.mp member with old | woken
    · exact .inl old
    · obtain ⟨slept, inactive⟩ := List.mem_filter.mp woken
      exact .inr ⟨sound.parked_le m slept, by simpa using inactive⟩
  · exact List.mem_filter.mpr ⟨member, active⟩

theorem retract (sound : g.Sound) (n : Nat) : (g.retract n).Sound := by
  refine sound.of_wait (retract_wait_cases g n) (by simpa using sound.tallied) (fun busy => ?_)
    (by simp) (by simp +contextual) (by simp) (by simp)
  rcases retract_wait_cases g n with idle | same
  · simp [hasWaiter, idle] at busy
  · rw [hasWaiter, same] at busy
    simpa using sound.occupied busy

theorem rouse (sound : g.Sound) (slept : n ∈ g.parked) : (g.rouse n).2.Sound := by
  have wait : (g.rouse n).2.wait = (g.retract n).wait := by rw [rouse_wait, retract_wait]
  have past : (g.rouse n).2.isActive n = false := by simp [rouse_isActive]
  have rest := sound.retract n
  refine rest.of_wait (.inr wait) (by simpa using sound.tallied) (fun busy => ?_) (by simp)
    (fun m => ?_) (by simp +contextual) fun m active member => ?_
  · rw [hasWaiter, wait] at busy
    simpa using rest.occupied busy
  · rw [rouse_released, List.mem_append]
    rintro (old | woken)
    · exact .inl (by simpa using old)
    · split at woken
      · cases woken
      · obtain rfl := List.mem_singleton.mp woken
        exact .inr ⟨by simpa using sound.parked_le m slept, past⟩
  · rw [rouse_parked, List.mem_filter]
    refine ⟨by simpa using member, bne_iff_ne.mpr fun same => ?_⟩
    rw [same, past] at active
    cases active

theorem begun (sound : g.Sound) (filled : g.ledger.isEmpty = false) (sleeper : Sleeper) :
    (g.begun sleeper).Sound where
  tallied := sound.tallied
  occupied _ := filled
  latest m active := by
    obtain ⟨_, active⟩ := isActive_iff.mp active
    exact (Wait.active.inj active).1.symm
  released_le m member := Nat.le_succ_of_le (sound.released_le m member)
  parked_le m member := by
    cases sleeper with
    | task => exact Nat.le_succ_of_le (sound.parked_le m member)
    | thread =>
      rcases List.mem_append.mp member with old | new
      · exact Nat.le_succ_of_le (sound.parked_le m old)
      · exact Nat.le_of_eq (List.mem_singleton.mp new)
  unreleased m active member := by
    have below : m ≤ g.lastWait := sound.released_le m member
    obtain ⟨_, active⟩ := isActive_iff.mp active
    have same := (Wait.active.inj active).1
    omega
  asleep m active := by
    obtain ⟨rfl, rfl⟩ := Wait.active.inj active
    simp [Gate.begun]
  awake m active member := by
    obtain ⟨rfl, rfl⟩ := Wait.active.inj active
    have below : g.lastWait + 1 ≤ g.lastWait := sound.parked_le _ member
    omega

theorem skip (sound : g.Sound) (idle : g.wait = .idle) : g.skip.Sound :=
  { sound with
    latest := fun m active => by
      rw [isActive_of_idle (g := g.skip) idle] at active
      cases active
    released_le := fun m member => Nat.le_succ_of_le (sound.released_le m member)
    parked_le := fun m member => Nat.le_succ_of_le (sound.parked_le m member) }

/-- A thread whose time is up at once leaves nothing behind but its number. -/
theorem rouse_begun (sound : g.Sound) (idle : g.wait = .idle) :
    ((g.begun .thread).rouse (g.lastWait + 1)).2 = g.skip := by
  have fresh : g.lastWait + 1 ∉ g.parked := fun member => by
    have below := sound.parked_le _ member
    omega
  have awake : g.parked.filter (· != g.lastWait + 1) = g.parked :=
    List.filter_eq_self.mpr fun m member => bne_iff_ne.mpr fun same => fresh (same ▸ member)
  simp [rouse_gate, retract_wait, Gate.begun, unpark, isActive, Gate.skip, awake, idle]

end Sound

/-- On a sound gate every change comes down to leaving another ledger. -/
theorem Change.eq_settle (sound : g.Sound) {next : Gate} {effects : List Effect}
    (change : g.Change next effects) : next.ledger.Tallied ∧ next = g.settle next.ledger := by
  have unchanged {ledger : Ledger} (kept : ledger.isEmpty → g.ledger.isEmpty) :
      { g with ledger } = g.settle ledger := by
    unfold Gate.settle releaseIfEmpty
    split
    · next empty =>
      have idle : g.wait = .idle := by
        refine hasWaiter_eq_false_iff.mp (Bool.eq_false_iff.mpr fun busy => ?_)
        rw [sound.occupied busy] at kept
        cases kept empty
      simp [release, idle]
    · rfl
  cases change with
  | recorded notice kept tallied => exact ⟨tallied sound.tallied, unchanged kept⟩
  | struck closed tallied => exact ⟨by simpa using tallied sound.tallied, by simp⟩
  | untouched => exact ⟨sound.tallied, unchanged id⟩

end Quiescence.Gate
