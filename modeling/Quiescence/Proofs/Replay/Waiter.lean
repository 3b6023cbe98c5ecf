import Quiescence.Proofs.Replay.Delivery

/-! # The waiter of a replay

The waiter waits for the end of the busy period that goes on, with a deadline that counts from the
start of this period, or it is on its way to look at the barrier, or it has come to an end. On its
way the events of one and the same time may end this period and start others. The clock stands still
meanwhile, so a wait that it then begins late still counts from the start of the period that goes
on.
-/

namespace Quiescence.Replay

variable {r : Replay} {script : Script} {limit : Option Nat} {now : Nat}

/-! ## Steps -/

/-- A wait has begun. -/
def begun (r : Replay) : Replay :=
  { r with
    barrier := { r.barrier with gate := r.barrier.gate.begun .task }
    watch := .waiting (r.barrier.gate.lastWait + 1) (r.barrier.waitLimit.map (r.clock + ·)) }

theorem step_looking (looking : r.watch = .looking) (idle : r.barrier.gate.wait = .idle) :
    r.step = if r.barrier.gate.ledger.isEmpty then r.conclude else r.begun := by
  rcases Gate.start_cases .task r.barrier.gate with
    ⟨empty, start⟩ | ⟨_, busy, _⟩ | ⟨filled, _, start⟩
  · simp only [step, looking, start, empty, if_true]
  · rw [Gate.hasWaiter_eq_false_iff.mpr idle] at busy
    cases busy
  · simp only [step, looking, start, filled, Bool.false_eq_true, if_false, begun]

@[simp]
theorem step_delivered (r : Replay) : r.step.delivered = r.delivered := by
  unfold step conclude
  repeat' split
  all_goals rfl

/-- An upper bound for the number of steps after which the waiter is held up. -/
def errand (r : Replay) : Nat :=
  match r.watch with
  | .looking => if r.signalled then 3 else 1
  | .resting => if r.signalled || r.delivered then 2 else 0
  | .waiting number _ => if r.barrier.gate.released.contains number then 3 else 0
  | .off | .gaveUp | .done => 0

theorem errand_le (r : Replay) : r.errand ≤ 3 := by
  unfold errand
  repeat' split
  all_goals decide

/-- A waiter that is held up stays where it is. -/
theorem step_of_held (held : r.errand = 0) : r.step = r := by
  cases watch : r.watch with
  | looking => cases signalled : r.signalled <;> simp [errand, watch, signalled] at held
  | resting =>
    have asleep : r.signalled = false ∧ r.delivered = false := by simpa [errand, watch] using held
    simp [step, watch, asleep]
  | waiting number deadline =>
    have unreleased : number ∉ r.barrier.gate.released := by simpa [errand, watch] using held
    simp [step, watch, unreleased]
  | off | gaveUp | done => simp [step, watch]

theorem conclude_errand_le (r : Replay) : r.conclude.errand ≤ 2 := by
  unfold conclude
  cases r.delivered && r.barrier.gate.ledger.isEmpty with
  | true => exact Nat.zero_le 2
  | false =>
    simp only [errand, Bool.false_eq_true, if_false]
    split <;> decide

/-- Without a signal, a waiter that finds nothing open has nothing more to do. -/
theorem conclude_held (empty : r.barrier.gate.ledger.isEmpty) (unsignalled : r.signalled = false) :
    r.conclude.errand = 0 := by
  cases delivered : r.delivered <;> simp [conclude, errand, empty, unsignalled, delivered]

theorem begun_held (sound : r.barrier.gate.Sound)
    (filled : r.barrier.gate.ledger.isEmpty = false) : r.begun.errand = 0 := by
  have active : (r.barrier.gate.begun .task).isActive (r.barrier.gate.lastWait + 1) :=
    Gate.isActive_iff.mpr ⟨_, rfl⟩
  have unreleased := (sound.begun filled .task).unreleased _ active
  simp [begun, errand, unreleased]

/-- A waiter that is not held up comes nearer to it with each step. -/
theorem errand_step (sound : r.barrier.gate.Sound)
    (idle : r.watch = .looking → r.barrier.gate.wait = .idle) :
    r.step.errand ≤ r.errand - 1 := by
  cases watch : r.watch with
  | looking =>
    rw [step_looking watch (idle watch)]
    cases empty : r.barrier.gate.ledger.isEmpty with
    | true =>
      rw [if_pos rfl]
      cases signalled : r.signalled with
      | true => simpa [errand, watch, signalled] using r.conclude_errand_le
      | false => simp [conclude_held empty signalled]
    | false => simp [begun_held sound empty]
  | resting =>
    cases signalled : r.signalled with
    | true => simp [step, errand, watch, signalled]
    | false => cases delivered : r.delivered <;> simp [step, errand, watch, signalled, delivered]
  | waiting number deadline =>
    by_cases released : number ∈ r.barrier.gate.released
    · simpa [step, errand, watch, released] using r.conclude_errand_le
    · simp [step, errand, watch, released]
  | off | gaveUp | done => simp [step, errand, watch]

/-! ## The invariant -/

/-- The waiter is going to look at the barrier, or it will if something is open. -/
def Due (r : Replay) : Prop :=
  match r.watch with
  | .looking => True
  | .resting => r.barrier.gate.ledger.isEmpty = false → r.signalled
  | .waiting number _ => number ∈ r.barrier.gate.released ∧
    (r.barrier.gate.ledger.isEmpty = false → r.signalled)
  | .off | .gaveUp | .done => False

/-- If a waiter is held up although it is due, then it rests and nothing is open. -/
theorem Due.resting (due : r.Due) (held : r.errand = 0) :
    r.watch = .resting ∧ r.delivered = false ∧ r.barrier.gate.ledger.isEmpty := by
  cases watch : r.watch with
  | looking => cases signalled : r.signalled <;> simp [errand, watch, signalled] at held
  | resting =>
    obtain ⟨unsignalled, undelivered⟩ : r.signalled = false ∧ r.delivered = false := by
      simpa [errand, watch] using held
    have empty : r.barrier.gate.ledger.isEmpty := by simpa [Due, watch, unsignalled] using due
    exact ⟨rfl, undelivered, empty⟩
  | waiting number deadline =>
    simp only [Due, watch] at due
    simp [errand, watch, due.1] at held
  | off | gaveUp | done => simp [Due, watch] at due

/-- What the waiter of a replay is up to after some events. -/
inductive Watches (script : Script) (r : Replay) : Prop
  /-- It has given up, since a busy period has reached the limit. -/
  | gaveUp {T : Nat} (watch : r.watch = .gaveUp) (limit : r.barrier.waitLimit = some T)
      (missed : script.Missed T r.clock)
  /-- It waits for the end of the busy period that goes on. -/
  | waiting {number i : Nat} (lasts : script.Lasts i)
      (watch : r.watch = .waiting number (r.barrier.waitLimit.map (script.time i + ·)))
      (active : r.barrier.gate.wait = .active number .task)
      (inTime : ∀ T ∈ r.barrier.waitLimit, script.InTime T r.clock)
  /-- It is going to look at the barrier. A busy period that goes on has only just started. -/
  | due (due : r.Due) (idle : r.barrier.gate.wait = .idle)
      (fresh : ∀ i, script.Lasts i → script.time i = r.clock)
      (inTime : ∀ T ∈ r.barrier.waitLimit, script.InTime T r.clock)
  /-- It has come to an end in time. -/
  | done (watch : r.watch = .done) (delivered : r.delivered)
      (empty : script.openAfter script.length = ∅)
      (inTime : ∀ T ∈ r.barrier.waitLimit, script.InTime T r.clock)

/-- A replay is in step with its script. -/
structure InStep (limit : Option Nat) (script : Script) (now : Nat) (r : Replay) : Prop where
  left : r.barrier.LeftBy script
  limit : r.barrier.waitLimit = limit
  clock : r.clock = now
  watches : r.Watches script

theorem inStep_start (settings : Settings) {mode : ReplayMode} (wait : mode.wait) (room : Room) :
    (start settings mode room).InStep settings.barrier.waitLimit [] 0 where
  left := leftBy_start settings mode room
  limit := rfl
  clock := rfl
  watches := by
    have looking : (start settings mode room).watch = .looking := if_pos wait
    refine .due ?_ rfl (fun i lasts => absurd rfl lasts.filled) fun T _ => Script.inTime_nil T _
    simp only [Due, looking]

/-- A wait that is over leaves the waiter at rest, or at its end. -/
theorem inStep_conclude (left : r.barrier.LeftBy script) (idle : r.barrier.gate.wait = .idle)
    (told : r.barrier.gate.ledger.isEmpty = false → r.signalled)
    (fresh : ∀ i, script.Lasts i → script.time i = r.clock)
    (inTime : ∀ T ∈ r.barrier.waitLimit, script.InTime T r.clock) :
    r.conclude.InStep r.barrier.waitLimit script r.clock := by
  refine ⟨left, rfl, rfl, ?_⟩
  cases ended : r.delivered && r.barrier.gate.ledger.isEmpty with
  | true =>
    obtain ⟨delivered, empty⟩ := Bool.and_eq_true_iff.mp ended
    refine .done ?_ delivered (left.isEmpty_iff.mp empty) inTime
    simp [conclude, ended]
  | false =>
    refine .due ?_ idle fresh inTime
    simpa [conclude, Due, ended] using told

/-- A wait begins while something is open. It counts from the start of the busy period. -/
theorem inStep_begun (left : r.barrier.LeftBy script)
    (filled : r.barrier.gate.ledger.isEmpty = false)
    (fresh : ∀ i, script.Lasts i → script.time i = r.clock)
    (inTime : ∀ T ∈ r.barrier.waitLimit, script.InTime T r.clock) :
    r.begun.InStep r.barrier.waitLimit script r.clock := by
  obtain ⟨i, lasts⟩ := Script.exists_lasts (left.filled filled)
  refine ⟨left.of_gate (left.sound.begun filled .task) rfl, rfl, rfl, ?_⟩
  refine .waiting lasts ?_ rfl inTime
  rw [fresh i lasts]
  rfl

namespace InStep

theorem step (inStep : r.InStep limit script now) : r.step.InStep limit script now := by
  have same (held : r.errand = 0) : r.step.InStep limit script now := by rwa [step_of_held held]
  obtain ⟨left, rfl, rfl, watches⟩ := inStep
  cases watches with
  | gaveUp watch => exact same (by simp [errand, watch])
  | done watch => exact same (by simp [errand, watch])
  | @waiting number i lasts watch active =>
    have unreleased := left.sound.unreleased number (Gate.isActive_iff.mpr ⟨_, active⟩)
    exact same (by simp [errand, watch, unreleased])
  | due due idle fresh inTime =>
    cases watch : r.watch with
    | looking =>
      rw [step_looking watch idle]
      split
      · next empty => exact inStep_conclude left idle (by simp [empty]) fresh inTime
      · next filled => exact inStep_begun left (Bool.eq_false_of_not_eq_true filled) fresh inTime
    | resting =>
      have woken (signalled : Bool) : InStep r.barrier.waitLimit script r.clock
          { r with watch := .looking, signalled } :=
        ⟨left, rfl, rfl, .due trivial idle fresh inTime⟩
      cases signalled : r.signalled with
      | true => simpa [Replay.step, watch, signalled] using woken false
      | false =>
        cases delivered : r.delivered with
        | true => simpa [Replay.step, watch, signalled, delivered] using woken false
        | false => exact same (by simp [errand, watch, signalled, delivered])
    | waiting number deadline =>
      simp only [Due, watch] at due
      have concluded : r.step = r.conclude := by simp [Replay.step, watch, due.1]
      rw [concluded]
      exact inStep_conclude left idle due.2 fresh inTime
    | off | gaveUp | done => simp [Due, watch] at due

theorem steps (inStep : r.InStep limit script now) (n : Nat) :
    (r.steps n).InStep limit script now ∧ (r.steps n).errand ≤ r.errand - n ∧
      (r.steps n).delivered = r.delivered := by
  induction n generalizing r with
  | zero => exact ⟨inStep, le_rfl, rfl⟩
  | succ n ih =>
    have looks : r.watch = .looking → r.barrier.gate.wait = .idle := by
      intro looking
      cases inStep.watches with
      | due _ idle => exact idle
      | gaveUp watch | waiting _ watch | done watch => rw [looking] at watch; cases watch
    have nearer := errand_step inStep.left.sound looks
    obtain ⟨later, errand, delivered⟩ := ih inStep.step
    exact ⟨later, by simp only [Replay.steps]; omega, delivered.trans (step_delivered r)⟩

/-- After its turn the waiter is held up. -/
theorem turn (inStep : r.InStep limit script now) :
    r.turn.InStep limit script now ∧ r.turn.errand = 0 ∧ r.turn.delivered = r.delivered := by
  obtain ⟨turned, errand, delivered⟩ := inStep.steps 3
  have bound := r.errand_le
  exact ⟨turned, by simp only [Replay.turn]; omega, delivered⟩

/-! ## Time -/

/-- Time goes on while the waiter is held up; a deadline that is reached by then is missed. -/
theorem passTo (inStep : r.InStep limit script now) (held : r.errand = 0)
    (undelivered : r.delivered = false) {time : Nat} (order : now ≤ time) :
    (r.passTo time).InStep limit script time ∧ (r.passTo time).delivered = false := by
  obtain ⟨left, rfl, rfl, watches⟩ := inStep
  cases watches with
  | gaveUp watch limit missed =>
    simp only [Replay.passTo, watch]
    exact ⟨⟨left, rfl, rfl, .gaveUp rfl limit (missed.later order)⟩, undelivered⟩
  | done watch delivered =>
    rw [undelivered] at delivered
    cases delivered
  | due due idle fresh inTime =>
    obtain ⟨resting, _, empty⟩ := due.resting held
    have nothing := left.isEmpty_iff.mp empty
    simp only [Replay.passTo, resting]
    refine ⟨⟨left, rfl, rfl, .due ?_ idle (fun i lasts => absurd nothing lasts.filled) ?_⟩,
      undelivered⟩
    · simp [Due, empty]
    · exact fun T limit => (inTime T limit).later fun i lasts => absurd nothing lasts.filled
  | @waiting number i lasts watch active inTime =>
    have isActive : r.barrier.gate.isActive number := Gate.isActive_iff.mpr ⟨_, active⟩
    cases limit : r.barrier.waitLimit with
    | none =>
      rw [limit] at watch
      simp only [Replay.passTo, watch, Option.map_none]
      refine ⟨⟨left, limit, rfl, .waiting lasts ?_ active ?_⟩, undelivered⟩
      · simp [limit]
      · simp [limit]
    | some T =>
      rw [limit] at watch
      simp only [Replay.passTo, watch, Option.map_some, Gate.lapse, isActive, if_true]
      by_cases late : script.time i + T ≤ time
      · rw [if_pos late]
        have left := left.of_gate (left.sound.retract number) (Gate.retract_ledger _ number)
        exact ⟨⟨left, limit, rfl, .gaveUp rfl limit (lasts.missed late)⟩, undelivered⟩
      · rw [if_neg late]
        refine ⟨⟨left, limit, rfl, .waiting lasts ?_ active fun T' same => ?_⟩, undelivered⟩
        · simp [limit]
        · obtain rfl : T = T' := by simpa [limit] using same
          refine (inTime T limit).later fun j other => ?_
          rw [other.unique lasts]
          exact Nat.not_le.mp late

theorem pass (inStep : r.InStep limit script now) (undelivered : r.delivered = false)
    (delay : Nat) :
    (r.pass delay).InStep limit script (now + delay) ∧ (r.pass delay).delivered = false := by
  unfold Replay.pass
  split
  · next still =>
    rw [still]
    exact ⟨inStep, undelivered⟩
  · rw [inStep.clock]
    obtain ⟨turned, held, kept⟩ := inStep.turn
    exact turned.passTo held (kept.trans undelivered) (Nat.le_add_right _ _)

/-! ## Arrivals -/

/-- An event is taken in, which may end a busy period or start one. -/
theorem take (inStep : r.InStep limit script now) (undelivered : r.delivered = false)
    (positive : ∀ T ∈ limit, 0 < T) (stamp : Nat → Moment) {next : Arrival}
    (arrives : now = Script.time (script ++ [next]) (script.length + 1)) :
    (r.take stamp next.event).InStep limit (script ++ [next]) now := by
  obtain ⟨left, rfl, rfl, watches⟩ := inStep
  obtain ⟨_, _, taken⟩ := take_eq stamp next.event r
  have receives := left.receives (stamp r.clock) next.event
  have after := left.apply (stamp r.clock) next
  have wait := receives.wait
  have inTime (before : ∀ T ∈ r.barrier.waitLimit, script.InTime T r.clock) :
      ∀ T ∈ (r.barrier.apply (stamp r.clock) next.event).barrier.waitLimit,
        (script ++ [next]).InTime T r.clock := by
    rw [receives.waitLimit]
    exact fun T limit => (before T limit).append (positive T limit) arrives
  rw [taken]
  refine ⟨after, receives.waitLimit, rfl, ?_⟩
  cases watches with
  | gaveUp watch limit missed =>
    exact .gaveUp watch (receives.waitLimit.trans limit) (missed.append arrives)
  | done watch delivered =>
    rw [undelivered] at delivered
    cases delivered
  | @waiting number i lasts watch active timely =>
    cases empty : (r.barrier.apply (stamp r.clock) next.event).barrier.gate.ledger.isEmpty with
    | true =>
      have nothing := after.isEmpty_iff.mp empty
      have freed := receives.released (.inr ⟨empty, active⟩)
      refine .due ?_ (by simpa [empty] using wait) (fun j lasts => absurd nothing lasts.filled)
        (inTime timely)
      simp [Due, watch, freed, empty]
    | false =>
      have filled := after.filled empty
      rw [Script.openAfter_whole_concat] at filled
      refine .waiting (lasts.append filled) ?_ (by simpa [empty, active] using wait) (inTime timely)
      rw [Script.time_append lasts.starts.arrived, receives.waitLimit]
      exact watch
  | due due idle fresh timely =>
    let outcome := r.barrier.apply (stamp r.clock) next.event
    have told (before : r.barrier.gate.ledger.isEmpty = false → r.signalled)
        (filled : outcome.barrier.gate.ledger.isEmpty = false) :
        r.signalled || outcome.log.any Callback.isSignal := by
      rw [Bool.or_eq_true]
      cases empty : r.barrier.gate.ledger.isEmpty with
      | false => exact .inl (before empty)
      | true => exact .inr (left.signals (stamp r.clock) next empty filled)
    refine .due ?_ (by simpa [idle] using wait) (fun i lasts => ?_) (inTime timely)
    · cases watch : r.watch with
      | looking => trivial
      | resting =>
        simp only [Due, watch] at due ⊢
        exact told due
      | waiting number deadline =>
        simp only [Due, watch] at due ⊢
        exact ⟨receives.released (.inl due.1), told due.2⟩
      | off | gaveUp | done => simp [Due, watch] at due
    · rcases lasts.of_append with early | rfl
      · rw [Script.time_append early.starts.arrived, fresh i early]
      · exact arrives.symm

theorem arrive (inStep : r.InStep limit script (script.time script.length))
    (undelivered : r.delivered = false) (positive : ∀ T ∈ limit, 0 < T) (stamp : Nat → Moment)
    (pace : Replay → Nat) (next : Arrival) :
    (r.arrive stamp pace next).InStep limit (script ++ [next])
        (Script.time (script ++ [next]) (script.length + 1)) ∧
      (r.arrive stamp pace next).delivered = false := by
  have arrives := Script.time_concat script next
  obtain ⟨passed, undelivered⟩ := inStep.pass undelivered next.delay
  rw [← arrives] at passed
  have taken := passed.take undelivered positive stamp rfl
  obtain ⟨moved, _, kept⟩ := taken.steps (pace ((r.pass next.delay).take stamp next.event))
  exact ⟨moved, by rw [Replay.arrive, kept, take_delivered, undelivered]⟩

end InStep

/-- Whatever steps the waiter makes, the replay is in step with its script at every event. -/
theorem inStep_arriveAll {settings : Settings} {mode : ReplayMode} (wait : mode.wait)
    (positive : ∀ T ∈ settings.barrier.waitLimit, 0 < T) (stamp : Nat → Moment)
    (pace : Replay → Nat) (script : Script) (room : Room) :
    let r := (start settings mode room).arriveAll stamp pace script
    r.InStep settings.barrier.waitLimit script (script.time script.length) ∧
      r.delivered = false := by
  induction script using List.reverseRecOn with
  | nil => exact ⟨inStep_start settings wait room, rfl⟩
  | append_singleton earlier next ih =>
    obtain ⟨inStep, undelivered⟩ := ih
    have arrived := inStep.arrive undelivered positive stamp pace next
    simp only [arriveAll, List.foldl_concat, List.length_append, List.length_singleton] at *
    exact arrived

end Quiescence.Replay
