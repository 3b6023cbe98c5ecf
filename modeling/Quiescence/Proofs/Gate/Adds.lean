import Quiescence.Proofs.Gate.Sound

/-! # Gates with one more wait

Two gates are compared that have gone through the same changes, but in one of them there has been
one more wait. Later waits have a higher number there. As long as the additional wait is active it
keeps others from waiting, and it gets the signal when it is released; once it has ended in another
way, nothing but the numbers tells the two gates apart.
-/

namespace Quiescence

/-- The number of a wait when there is one more wait, whose number is `k`. -/
def renumber (k n : Nat) : Nat := if n < k then n else n + 1

variable {k m n : Nat}

@[simp]
theorem renumber_ne : renumber k n ≠ k := by
  unfold renumber
  split <;> omega

@[simp]
theorem renumber_inj : renumber k m = renumber k n ↔ m = n := by
  unfold renumber
  split <;> split <;> omega

theorem renumber_of_lt (early : n < k) : renumber k n = n := if_pos early

theorem renumber_of_le (late : k ≤ n) : renumber k n = n + 1 := if_neg (Nat.not_lt.mpr late)

/-- Numbers below the additional one stay as they are. -/
theorem renumber_mem {ns : List Nat} (below : ∀ n ∈ ns, n < k) : renumber k n ∈ ns ↔ n ∈ ns := by
  by_cases early : n < k
  · rw [renumber_of_lt early]
  · rw [renumber_of_le (Nat.le_of_not_lt early)]
    constructor
    · intro member
      have lower := below _ member
      omega
    · exact fun member => absurd (below n member) early

/-- The number that a wait had without the one of number `k`. -/
def restore (k n : Nat) : Nat := if n < k then n else n - 1

theorem renumber_restore (other : n ≠ k) : renumber k (restore k n) = n := by
  unfold restore
  split
  · next early => exact renumber_of_lt early
  · rw [renumber_of_le (by omega)]
    omega

namespace Wait

/-- The wait under its new number. -/
def renumber (k : Nat) : Wait → Wait
  | .idle => .idle
  | .active number sleeper => .active (Quiescence.renumber k number) sleeper

/-- The wait, unless it is that of number `k`. -/
def without (k : Nat) : Wait → Wait
  | .idle => .idle
  | .active number sleeper => if number = k then .idle else .active number sleeper

end Wait

namespace Gate

variable {g more : Gate}

/-- The gate `more` has everything that `g` has, and a wait of number `k` in addition. -/
structure Adds (more : Gate) (k : Nat) (g : Gate) : Prop where
  ledger : more.ledger = g.ledger
  wait : more.wait.without k = g.wait.renumber k
  lastWait : more.lastWait = g.lastWait + 1
  begun : k ≤ more.lastWait
  released : ∀ n, renumber k n ∈ more.released ↔ n ∈ g.released
  parked : ∀ n, renumber k n ∈ more.parked ↔ n ∈ g.parked

/-- The gate `more` still has one more wait after a change, and the same effects follow unless the
change releases this wait. -/
def Alongside (more : Gate) (k : Nat) (changedMore changed : Gate × List Effect) : Prop :=
  changedMore.1.Adds k changed.1 ∧
    ((more.isActive k → changedMore.1.isActive k) → changedMore.2 = changed.2)

namespace Adds

/-- Either the additional wait is active and no other, or the same wait is active in both gates. -/
theorem wait_cases (adds : more.Adds k g) :
    (g.wait = .idle ∧ ∃ sleeper, more.wait = .active k sleeper) ∨
    more.isActive k = false ∧ more.wait = g.wait.renumber k := by
  have wait := adds.wait
  unfold Gate.isActive
  cases own : more.wait with
  | idle => simpa [own, Wait.without] using wait
  | active number sleeper =>
    by_cases same : number = k
    · subst same
      refine .inl ⟨?_, sleeper, rfl⟩
      cases other : g.wait <;> simp [own, other, Wait.without, Wait.renumber] at wait ⊢
    · refine .inr ⟨by simpa using same, ?_⟩
      simpa [own, Wait.without, same] using wait

theorem isActive (adds : more.Adds k g) (n : Nat) :
    more.isActive (renumber k n) = g.isActive n := by
  rcases adds.wait_cases with ⟨idle, sleeper, own⟩ | ⟨_, same⟩
  · simp [Gate.isActive, idle, own, Ne.symm renumber_ne]
  · cases wait : g.wait <;> simp [Gate.isActive, same, wait, Wait.renumber]

/-- Once the additional wait is over, both gates agree on whether anybody waits. -/
theorem hasWaiter (adds : more.Adds k g) (past : more.isActive k = false) :
    more.hasWaiter = g.hasWaiter := by
  rcases adds.wait_cases with ⟨_, sleeper, own⟩ | ⟨_, same⟩
  · simp [Gate.isActive, own] at past
  · unfold Gate.hasWaiter
    rw [same]
    cases g.wait <;> rfl

theorem waitingTask (adds : more.Adds k g) (n : Nat) :
    renumber k n ∈ more.waitingTask ↔ n ∈ g.waitingTask := by
  rcases adds.wait_cases with ⟨idle, sleeper, own⟩ | ⟨_, same⟩
  · cases sleeper <;> simp [Gate.waitingTask, idle, own]
  · cases wait : g.wait with
    | idle => simp [Gate.waitingTask, same, wait, Wait.renumber]
    | active number sleeper =>
      cases sleeper <;> simp [Gate.waitingTask, same, wait, Wait.renumber]

/-! ## Waits that begin and end -/

theorem retract (adds : more.Adds k g) (n : Nat) :
    (more.retract (renumber k n)).Adds k (g.retract n) where
  ledger := by simpa using adds.ledger
  wait := by
    rw [retract_wait, retract_wait, adds.isActive]
    split
    · rfl
    · exact adds.wait
  lastWait := by simpa using adds.lastWait
  begun := by simpa using adds.begun
  released := by simpa using adds.released
  parked := by simpa using adds.parked

/-- The additional wait may end at any time. -/
theorem retract_own (adds : more.Adds k g) : (more.retract k).Adds k g where
  ledger := by simpa using adds.ledger
  wait := by
    rw [retract_wait, ← adds.wait]
    split
    · next active =>
      obtain ⟨sleeper, active⟩ := isActive_iff.mp active
      simp [active, Wait.without]
    · rfl
  lastWait := by simpa using adds.lastWait
  begun := by simpa using adds.begun
  released := by simpa using adds.released
  parked := by simpa using adds.parked

theorem lapse (adds : more.Adds k g) (n : Nat) :
    (more.lapse (renumber k n)).1 = (g.lapse n).1 := by
  rw [lapse_outcome, lapse_outcome, adds.isActive, adds.ledger]

theorem rouse (adds : more.Adds k g) (n : Nat) :
    (more.rouse (renumber k n)).2.Adds k (g.rouse n).2 := by
  have rest := adds.retract n
  refine ⟨by simpa using adds.ledger, ?_, by simpa using adds.lastWait, by simpa using adds.begun,
    fun m => ?_, fun m => ?_⟩
  · rw [rouse_wait, rouse_wait, ← retract_wait, ← retract_wait]
    exact rest.wait
  · rw [rouse_released, rouse_released, List.mem_append, List.mem_append, adds.released,
      adds.isActive]
    split <;> simp
  · simp [adds.parked]

theorem rouse_own (adds : more.Adds k g) : (more.rouse k).2.Adds k g := by
  have rest := adds.retract_own
  refine ⟨by simpa using adds.ledger, ?_, by simpa using adds.lastWait, by simpa using adds.begun,
    fun m => ?_, fun m => ?_⟩
  · rw [rouse_wait, ← retract_wait]
    exact rest.wait
  · rw [rouse_released, List.mem_append, adds.released]
    split <;> simp
  · simp [adds.parked]

/-- The next wait begins under the next number in each gate. -/
theorem next (adds : more.Adds k g) : more.lastWait + 1 = renumber k (g.lastWait + 1) := by
  have begun := adds.begun
  rw [adds.lastWait] at begun ⊢
  exact (renumber_of_le begun).symm

theorem begin (adds : more.Adds k g) (sleeper : Sleeper) :
    (more.begun sleeper).Adds k (g.begun sleeper) where
  ledger := adds.ledger
  wait := by
    have begun := adds.begun
    simp only [Gate.begun, Wait.without, Wait.renumber, ← adds.next]
    exact if_neg (by omega)
  lastWait := congrArg (· + 1) adds.lastWait
  begun := Nat.le_succ_of_le adds.begun
  released := adds.released
  parked n := by
    cases sleeper with
    | task => exact adds.parked n
    | thread => simp [Gate.begun, adds.next, adds.parked]

/-! ## Changes -/

theorem signal (adds : more.Adds k g) : more.signal.Adds k g.signal where
  ledger := adds.ledger
  wait := adds.wait
  lastWait := adds.lastWait
  begun := adds.begun
  released n := by simp [Gate.signal, adds.released, adds.parked, adds.isActive]
  parked n := by simp [Gate.signal, adds.parked, adds.isActive]

theorem settle (adds : more.Adds k g) (ledger : Ledger) :
    (more.settle ledger).Adds k (g.settle ledger) where
  ledger := by simp
  wait := by
    rw [settle_wait, settle_wait]
    split
    · rfl
    · exact adds.wait
  lastWait := by simpa using adds.lastWait
  begun := by simpa using adds.begun
  released n := by
    rw [settle_released, settle_released, List.mem_append, List.mem_append, adds.released]
    split
    · rw [adds.waitingTask]
    · simp
  parked n := by simpa using adds.parked n

/-- The same follows a change in both gates, unless the change releases the additional wait. -/
theorem closing (adds : more.Adds k g) {ledger : Ledger} (closed : List Handle)
    (kept : more.isActive k → (more.settle ledger).isActive k) :
    closing more (more.settle ledger) closed = closing g (g.settle ledger) closed := by
  unfold Gate.closing
  rw [settle_ledger, settle_ledger]
  split
  · next empty =>
    have past : more.isActive k = false := by
      refine Bool.eq_false_iff.mpr fun active => ?_
      have still := kept active
      rw [isActive_of_idle (by rw [settle_wait, if_pos empty])] at still
      cases still
    rw [adds.hasWaiter past]
  · rfl

/-- Another ledger is entered in both gates alike. -/
theorem record (adds : more.Adds k g) (ledger : Ledger) :
    Adds { more with ledger } k { g with ledger } :=
  ⟨rfl, adds.wait, adds.lastWait, adds.begun, adds.released, adds.parked⟩

theorem apply (adds : more.Adds k g) (now : Moment) (event : Event) :
    (∃ fault, g.apply now event = .error fault ∧ more.apply now event = .error fault) ∨
    ∃ changed changedMore, g.apply now event = .ok changed ∧
      more.apply now event = .ok changedMore ∧ more.Alongside k changedMore changed :=
  apply_rel adds.ledger (fun ledger _ => ⟨adds.record ledger, fun _ => rfl⟩)
    (fun ledger closed => ⟨adds.settle ledger, adds.closing closed⟩) now event

theorem evict (adds : more.Adds k g) (context : String) :
    (more.evict context).1 = (g.evict context).1 ∧
      more.Alongside k (more.evict context).2 (g.evict context).2 :=
  evict_rel adds.ledger ⟨adds, fun _ => rfl⟩
    (fun ledger closed => ⟨adds.settle ledger, adds.closing closed⟩) context

theorem evictAll (adds : more.Adds k g) :
    more.evictAll.1 = g.evictAll.1 ∧ more.Alongside k more.evictAll.2 g.evictAll.2 :=
  evictAll_rel adds.ledger ⟨adds, fun _ => rfl⟩
    fun ledger closed => ⟨adds.settle ledger, adds.closing closed⟩

end Adds

/-! ## The first gate with one more wait -/

namespace Sound

theorem begun_adds (sound : g.Sound) (idle : g.wait = .idle) (sleeper : Sleeper) :
    (g.begun sleeper).Adds (g.lastWait + 1) g where
  ledger := rfl
  wait := by simp [Gate.begun, Wait.without, Wait.renumber, idle]
  lastWait := rfl
  begun := Nat.le_refl _
  released _ := renumber_mem fun n member => Nat.lt_succ_of_le (sound.released_le n member)
  parked m := by
    have below := renumber_mem (n := m) fun n member => Nat.lt_succ_of_le (sound.parked_le n member)
    cases sleeper with
    | task => exact below
    | thread => simpa [Gate.begun] using below

theorem skip_adds (sound : g.Sound) (idle : g.wait = .idle) : g.skip.Adds (g.lastWait + 1) g where
  ledger := rfl
  wait := by simp [Gate.skip, Wait.without, Wait.renumber, idle]
  lastWait := rfl
  begun := Nat.le_refl _
  released _ := renumber_mem fun n member => Nat.lt_succ_of_le (sound.released_le n member)
  parked _ := renumber_mem fun n member => Nat.lt_succ_of_le (sound.parked_le n member)

end Sound

end Gate

end Quiescence
