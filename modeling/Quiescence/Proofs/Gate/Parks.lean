import Quiescence.Proofs.Gate.Sound

/-! # Gates where a thread waits instead of a task

Two gates are compared that have gone through the same changes, but the wait of one number is a
task's in the first gate and a thread's in the second. A task is released by the change that leaves
nothing open, a thread only by the signal behind it. So between a change and its signal the thread
is still parked although its wait is over; apart from this, the gates differ in nothing but in who
sleeps there.
-/

namespace Quiescence

/-- The wait, in which a thread sleeps if it has this number. -/
def Wait.park (n : Nat) : Wait → Wait
  | .idle => .idle
  | .active number sleeper => .active number (if number = n then .thread else sleeper)

namespace Gate

variable {g other next : Gate} {m n : Nat}

/-- The thread of this number is parked only as long as its wait is active. -/
def Prompt (g : Gate) (n : Nat) : Prop := n ∈ g.parked → g.isActive n

/-- In the gate `other` a thread sleeps in the wait of number `n`, where in `g` a task does. -/
structure Parks (other : Gate) (n : Nat) (g : Gate) : Prop where
  ledger : other.ledger = g.ledger
  wait : other.wait = g.wait.park n
  lastWait : other.lastWait = g.lastWait
  begun : n ≤ g.lastWait
  released : ∀ m ≠ n, m ∈ other.released ↔ m ∈ g.released
  parked : ∀ m ≠ n, m ∈ other.parked ↔ m ∈ g.parked
  /-- The task has been released as soon as the wait of the thread is over. -/
  own : n ∈ g.released ↔ n ∈ other.released ∨ n ∈ other.parked ∧ other.isActive n = false
  asleep : other.isActive n → n ∈ other.parked
  awake : n ∉ g.parked
  task : ∀ sleeper, g.wait = .active n sleeper → sleeper = .task

namespace Parks

theorem isActive (parks : other.Parks n g) : other.isActive = g.isActive := by
  funext m
  have wait := parks.wait
  unfold Gate.isActive
  cases own : g.wait <;> simp [wait, own, Wait.park]

theorem hasWaiter (parks : other.Parks n g) : other.hasWaiter = g.hasWaiter := by
  rw [Bool.eq_iff_iff, hasWaiter_iff, hasWaiter_iff, parks.isActive]

theorem idle (parks : other.Parks n g) (idle : g.wait = .idle) : other.wait = .idle := by
  rw [parks.wait, idle]
  rfl

/-- A thread that is not left asleep is released together with the task. -/
theorem released_iff (parks : other.Parks n g) (prompt : other.Prompt n) (m : Nat) :
    m ∈ other.released ↔ m ∈ g.released := by
  by_cases same : m = n
  · rw [same, parks.own]
    refine ⟨.inl, fun freed => freed.resolve_right ?_⟩
    rintro ⟨slept, past⟩
    rw [prompt slept] at past
    cases past
  · exact parks.released m same

/-- A task that goes on waiting, or whose wait ends, is still no thread. -/
theorem task_of_wait (parks : other.Parks n g) (wait : next.wait = .idle ∨ next.wait = g.wait)
    (sleeper : Sleeper) (active : next.wait = .active n sleeper) : sleeper = .task := by
  rcases wait with idle | same
  · rw [idle] at active
    cases active
  · exact parks.task sleeper (same ▸ active)

/-- The wait of the compared task is the thread's. -/
theorem waitingTask (parks : other.Parks n g) :
    n ∉ other.waitingTask ∧ (n ∈ g.waitingTask ↔ other.isActive n) := by
  have wait := parks.wait
  have task := parks.task
  rw [parks.isActive]
  unfold Gate.waitingTask Gate.isActive
  cases own : g.wait with
  | idle => simp [wait, own, Wait.park]
  | active number sleeper =>
    by_cases same : number = n
    · subst same
      obtain rfl := task sleeper own
      simp [wait, own, Wait.park]
    · cases sleeper <;> simp [wait, own, Wait.park, same, Ne.symm same]

/-- Of the waiting tasks, the compared one is missing. -/
theorem mem_waitingTask (parks : other.Parks n g) (differ : m ≠ n) :
    m ∈ other.waitingTask ↔ m ∈ g.waitingTask := by
  have wait := parks.wait
  unfold Gate.waitingTask
  cases own : g.wait with
  | idle => simp [wait, own, Wait.park]
  | active number sleeper =>
    by_cases same : number = n
    · subst same
      cases sleeper <;> simp [wait, own, Wait.park, differ]
    · simp [wait, own, Wait.park, same]

/-! ## Waits that begin and end -/

theorem retract (parks : other.Parks n g) (differ : m ≠ n) :
    (other.retract m).Parks n (g.retract m) where
  ledger := by simpa using parks.ledger
  wait := by
    rw [retract_wait, retract_wait, parks.isActive]
    split
    · rfl
    · exact parks.wait
  lastWait := by simpa using parks.lastWait
  begun := by simpa using parks.begun
  released := by simpa using parks.released
  parked := by simpa using parks.parked
  own := by
    have kept : (other.retract m).isActive n = other.isActive n := by
      simp [retract_isActive, differ]
    simpa [kept] using parks.own
  asleep active := by
    rw [retract_isActive, Bool.and_eq_true] at active
    simpa using parks.asleep active.1
  awake := by simpa using parks.awake
  task := parks.task_of_wait (retract_wait_cases g m)

theorem lapse (parks : other.Parks n g) (m : Nat) : (other.lapse m).1 = (g.lapse m).1 := by
  rw [lapse_outcome, lapse_outcome, parks.isActive, parks.ledger]

theorem rouse (parks : other.Parks n g) (differ : m ≠ n) :
    (other.rouse m).2.Parks n (g.rouse m).2 where
  ledger := by simpa using parks.ledger
  wait := by
    rw [rouse_wait, rouse_wait, ← retract_wait, ← retract_wait]
    exact (parks.retract differ).wait
  lastWait := by simpa using parks.lastWait
  begun := by simpa using parks.begun
  released k apart := by
    rw [rouse_released, rouse_released, List.mem_append, List.mem_append, parks.released k apart,
      parks.isActive]
  parked k apart := by simp [parks.parked k apart]
  own := by
    have kept : (other.rouse m).2.isActive n = other.isActive n := by
      simp [rouse_isActive, differ]
    have others : n ∉ (if g.isActive m then [] else [m]) := by
      split <;> simp [Ne.symm differ]
    rw [rouse_released, rouse_released, List.mem_append, List.mem_append, parks.isActive,
      or_iff_left others, or_iff_left others, parks.own, kept, rouse_parked, List.mem_filter]
    simp [Ne.symm differ]
  asleep active := by
    rw [rouse_isActive, Bool.and_eq_true] at active
    simpa [Ne.symm differ] using parks.asleep active.1
  awake := by simp [parks.awake]
  task := parks.task_of_wait (rouse_wait_cases g m)

/-- The next wait begins alike in both gates, when nobody waits. -/
theorem begin (parks : other.Parks n g) (idle : g.wait = .idle) (sleeper : Sleeper) :
    (other.begun sleeper).Parks n (g.begun sleeper) := by
  have fresh : n ≠ g.lastWait + 1 := Nat.ne_of_lt (Nat.lt_succ_of_le parks.begun)
  have before : other.isActive n = false := isActive_of_idle (parks.idle idle) n
  have after : (other.begun sleeper).isActive n = false := by
    simp [Gate.isActive, Gate.begun, parks.lastWait, Ne.symm fresh]
  refine ⟨parks.ledger, ?_, congrArg (· + 1) parks.lastWait, Nat.le_succ_of_le parks.begun,
    parks.released, fun k differ => ?_, ?_, fun active => ?_, ?_, fun sleeper active => ?_⟩
  · simp [Gate.begun, Wait.park, parks.lastWait, Ne.symm fresh]
  · cases sleeper with
    | task => exact parks.parked k differ
    | thread => simp [Gate.begun, parks.parked k differ, parks.lastWait]
  · have own := parks.own
    rw [before] at own
    rw [after]
    cases sleeper with
    | task => exact own
    | thread => simpa [Gate.begun, parks.lastWait, fresh] using own
  · rw [after] at active
    cases active
  · cases sleeper with
    | task => exact parks.awake
    | thread => simpa [Gate.begun, fresh] using parks.awake
  · exact absurd (Wait.active.inj active).1 (Ne.symm fresh)

/-! ## Changes -/

theorem signal (parks : other.Parks n g) : other.signal.Parks n g.signal where
  ledger := parks.ledger
  wait := parks.wait
  lastWait := parks.lastWait
  begun := parks.begun
  released k differ := by
    simp [Gate.signal, parks.released k differ, parks.parked k differ, parks.isActive]
  parked k differ := by simp [Gate.signal, parks.parked k differ, parks.isActive]
  own := by
    rw [isActive_signal]
    simp only [Gate.signal, List.mem_append, List.mem_filter, parks.own, parks.awake]
    cases other.isActive n <;> simp
  asleep active := by
    rw [isActive_signal] at active
    exact List.mem_filter.mpr ⟨parks.asleep active, active⟩
  awake member := parks.awake (List.mem_filter.mp member).1
  task := parks.task

theorem settle (parks : other.Parks n g) (ledger : Ledger) :
    (other.settle ledger).Parks n (g.settle ledger) where
  ledger := by simp
  wait := by
    rw [settle_wait, settle_wait]
    split
    · rfl
    · exact parks.wait
  lastWait := by simpa using parks.lastWait
  begun := by simpa using parks.begun
  released k differ := by
    rw [settle_released, settle_released, List.mem_append, List.mem_append,
      parks.released k differ]
    split
    · rw [parks.mem_waitingTask differ]
    · simp
  parked k differ := by simpa using parks.parked k differ
  own := by
    rw [settle_released, settle_released, settle_parked, List.mem_append, List.mem_append]
    split
    · next empty =>
      -- the change releases the task, and the wait of the thread is over with it
      have past : (other.settle ledger).isActive n = false :=
        isActive_of_idle (by rw [settle_wait, if_pos empty]) n
      obtain ⟨thread, waits⟩ := parks.waitingTask
      have asleep := parks.asleep
      rw [parks.own, past, waits, or_iff_left thread]
      cases active : other.isActive n with
      | true => simp [asleep active]
      | false => simp
    · next filled =>
      have same : (other.settle ledger).isActive n = other.isActive n := by
        rw [isActive_congr (g := other) (by rw [settle_wait, if_neg filled])]
      simpa [same] using parks.own
  asleep active := by
    have before : other.isActive n := by
      rcases settle_wait_cases ledger other with idle | same
      · rw [isActive_of_idle idle] at active
        cases active
      · rwa [← isActive_congr same]
    simpa using parks.asleep before
  awake := by simpa using parks.awake
  task := parks.task_of_wait (settle_wait_cases ledger g)

/-- Another ledger is entered in both gates alike. -/
theorem record (parks : other.Parks n g) (ledger : Ledger) :
    Parks { other with ledger } n { g with ledger } :=
  ⟨rfl, parks.wait, parks.lastWait, parks.begun, parks.released, parks.parked, parks.own,
    parks.asleep, parks.awake, parks.task⟩

/-- The same follows a change in both gates, a signal included. -/
theorem closing (parks : other.Parks n g) (ledger : Ledger) (closed : List Handle) :
    Gate.closing other (other.settle ledger) closed = Gate.closing g (g.settle ledger) closed := by
  unfold Gate.closing
  rw [settle_ledger, settle_ledger, parks.hasWaiter]

theorem apply (parks : other.Parks n g) (now : Moment) (event : Event) :
    (∃ fault, g.apply now event = .error fault ∧ other.apply now event = .error fault) ∨
    ∃ result resultOther, g.apply now event = .ok result ∧
      other.apply now event = .ok resultOther ∧
      resultOther.1.Parks n result.1 ∧ resultOther.2 = result.2 :=
  apply_rel (R := fun two one => two.1.Parks n one.1 ∧ two.2 = one.2) parks.ledger
    (fun ledger _ => ⟨parks.record ledger, rfl⟩)
    (fun ledger closed => ⟨parks.settle ledger, parks.closing ledger closed⟩) now event

theorem evict (parks : other.Parks n g) (context : String) :
    (other.evict context).1 = (g.evict context).1 ∧
      (other.evict context).2.1.Parks n (g.evict context).2.1 ∧
      (other.evict context).2.2 = (g.evict context).2.2 :=
  evict_rel (R := fun two one => two.1.Parks n one.1 ∧ two.2 = one.2) parks.ledger ⟨parks, rfl⟩
    (fun ledger closed => ⟨parks.settle ledger, parks.closing ledger closed⟩) context

theorem evictAll (parks : other.Parks n g) :
    other.evictAll.1 = g.evictAll.1 ∧ other.evictAll.2.1.Parks n g.evictAll.2.1 ∧
      other.evictAll.2.2 = g.evictAll.2.2 :=
  evictAll_rel (R := fun two one => two.1.Parks n one.1 ∧ two.2 = one.2) parks.ledger ⟨parks, rfl⟩
    fun ledger closed => ⟨parks.settle ledger, parks.closing ledger closed⟩

end Parks

/-- The two gates when the task and the thread begin to wait. -/
theorem Sound.begun_parks (sound : g.Sound) :
    (g.begun .thread).Parks (g.lastWait + 1) (g.begun .task) where
  ledger := rfl
  wait := by simp [Gate.begun, Wait.park]
  lastWait := rfl
  begun := Nat.le_refl _
  released _ _ := Iff.rfl
  parked m differ := by simp [Gate.begun, differ]
  own := by simp [Gate.begun, Gate.isActive]
  asleep _ := List.mem_append_right _ List.mem_cons_self
  awake member := by
    have below : g.lastWait + 1 ≤ g.lastWait := sound.parked_le _ member
    omega
  task sleeper active := (Wait.active.inj active).2.symm

/-! ## No thread is left asleep -/

namespace Prompt

theorem retract (prompt : g.Prompt n) (differ : m ≠ n) : (g.retract m).Prompt n := by
  intro slept
  rw [retract_isActive, prompt (by simpa using slept)]
  simpa using differ

theorem rouse (prompt : g.Prompt n) (differ : m ≠ n) : (g.rouse m).2.Prompt n := by
  intro slept
  rw [rouse_parked, List.mem_filter] at slept
  rw [rouse_isActive, prompt slept.1]
  simpa using differ

/-- Before the next wait begins, no thread of an earlier one sleeps. -/
theorem begin (prompt : g.Prompt n) (begun : n ≤ g.lastWait) (idle : g.wait = .idle)
    (sleeper : Sleeper) : (g.begun sleeper).Prompt n := by
  have awake : n ∉ g.parked := fun slept => by
    have active := prompt slept
    rw [isActive_of_idle idle] at active
    cases active
  intro slept
  cases sleeper with
  | task => exact absurd slept awake
  | thread =>
    rcases List.mem_append.mp slept with old | new
    · exact absurd old awake
    · rw [List.mem_singleton.mp new] at begun
      omega

end Prompt

/-- The signal leaves nobody asleep whose wait is over. -/
theorem prompt_signal (g : Gate) (n : Nat) : g.signal.Prompt n :=
  fun slept => (List.mem_filter.mp slept).2

/-- A change that ends the wait of a thread is followed by a signal. -/
theorem Change.prompt {effects : List Effect} (change : g.Change next effects)
    (prompt : g.Prompt n) : next.Prompt n ∨ .signal ∈ effects := by
  cases change with
  | recorded | untouched => exact .inl prompt
  | @struck ledger closed =>
    cases empty : ledger.isEmpty with
    | false =>
      refine .inl fun slept => ?_
      rw [isActive_congr (g := g) (by simp [settle_wait, empty])]
      exact prompt (by simpa using slept)
    | true =>
      cases busy : g.hasWaiter with
      | true => exact .inr (by simp [Gate.closing, empty, busy])
      | false =>
        refine .inl fun slept => ?_
        have active := prompt (by simpa using slept)
        rw [isActive_of_idle (hasWaiter_eq_false_iff.mp busy)] at active
        cases active

end Gate

end Quiescence
