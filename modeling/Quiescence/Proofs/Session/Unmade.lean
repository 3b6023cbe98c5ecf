import Quiescence.Proofs.Session.Adds
import Quiescence.Proofs.Session.Course

/-! # Calls that are not made

A call that waits and gives up can be struck from a run, together with the attempts to wait that
were refused because of it. What is left of the run leaves the same session behind, apart from the
numbers of the waits after it, and nobody can tell the difference from then on.
-/

namespace Quiescence.Session

variable {s more : Session} {k n : Nat} {slot : String} {x : Step} {steps : List Step}

/-! ## Sessions that have forgotten a wait -/

/-- A step puts no other wait into a slot than the next one. -/
theorem Move.slots_cases {gate : Gate} {slots : List (String × Slot)} {overdue : List (Nat × Fault)}
    (move : s.Move x gate slots overdue) : ∀ held ∈ slots,
      held ∈ s.slots ∨ held.2.number = s.barrier.gate.lastWait + 1 := by
  have abandoned {slot : String} : ∀ held ∈ (s.abandon slot).slots, held ∈ s.slots := by
    intro held member
    rw [abandon_slots] at member
    exact List.mem_of_mem_filter member
  have cleared : ∀ held ∈ (s.cleared x).slots, held ∈ s.slots := by
    unfold Session.cleared
    split
    · exact abandoned
    · exact fun _ => id
  intro held member
  cases move with
  | stayed _ _ slotsEq => exact .inl (cleared held (slotsEq ▸ member))
  | settled _ _ _ slotsEq => exact .inl (slotsEq ▸ member)
  | finished _ _ _ slotsEq => exact .inl (abandoned held (slotsEq ▸ member))
  | passed _ _ _ _ _ slotsEq => exact .inl (cleared held (slotsEq ▸ member))
  | timedUp _ _ _ _ slotsEq => exact .inl (slotsEq ▸ member)
  | began _ _ _ _ seat _ slotsEq =>
    rw [slotsEq, List.mem_append] at member
    rcases member with old | new
    · exact .inl (cleared held old)
    · cases seat with
      | nowhere => cases new
      | taken _ number =>
        obtain rfl := List.mem_singleton.mp new
        rw [cleared_lastWait] at number
        exact .inr number

theorem Sound.lastWait_le (sound : s.Sound) (single : x.isSingle) :
    s.barrier.gate.lastWait ≤ (s.step x).session.barrier.gate.lastWait := by
  rcases (sound.move_step single).wait_cases with ⟨same, _⟩ | ⟨next, _⟩
  · exact Nat.le_of_eq same.symm
  · omega

theorem Sound.begun_after (sound : s.Sound) (begun : k ≤ s.barrier.gate.lastWait)
    (steps : List Step) : k ≤ (s.after steps).barrier.gate.lastWait :=
  sound.preserved (k ≤ ·.barrier.gate.lastWait) begun
    (fun sound single begun => Nat.le_trans begun (sound.lastWait_le single)) steps

/-- A wait that has begun becomes active no more. -/
theorem Sound.isActive_of_step (sound : s.Sound) (single : x.isSingle)
    (begun : k ≤ s.barrier.gate.lastWait)
    (active : (s.step x).session.barrier.gate.isActive k) : s.barrier.gate.isActive k := by
  rcases (sound.move_step single).wait_cases with ⟨_, idle | same⟩ | ⟨last, _, _, _, _⟩
  · rw [Gate.isActive_of_idle idle] at active
    cases active
  · rwa [← Gate.isActive_congr same]
  · have latest := (sound.step single).gate.latest k active
    omega

theorem Forgets.step_single (forgets : s.Forgets k) (sound : s.Sound) (single : x.isSingle) :
    (s.step x).session.Forgets k where
  begun := Nat.le_trans forgets.begun (sound.lastWait_le single)
  past := Bool.eq_false_iff.mpr fun active => by
    have before := sound.isActive_of_step single forgets.begun active
    rw [forgets.past] at before
    cases before
  unheld held member := by
    have begun := forgets.begun
    rcases (sound.move_step single).slots_cases held member with old | new
    · exact forgets.unheld held old
    · omega

theorem Forgets.after (forgets : s.Forgets k) (sound : s.Sound) (steps : List Step) :
    (s.after steps).Forgets k :=
  sound.preserved (Forgets · k) forgets
    (fun sound single forgets => forgets.step_single sound single) steps

/-- Whatever is done from now on has the same answers and makes the same callbacks in both sessions,
although there is a wait of number `k` more in one of them. -/
def SameFuture (k : Nat) (s more : Session) : Prop :=
  ∀ later : List Step, more.answers (later.map (Step.renumber k)) = s.answers later ∧
    more.callbacks (later.map (Step.renumber k)) = s.callbacks later

/-- Nobody can tell sessions apart of which one has forgotten one more wait. -/
theorem Adds.sameFuture (adds : more.Adds k s) (forgets : more.Forgets k) (sound : more.Sound) :
    SameFuture k s more := by
  intro later
  induction later generalizing s more with
  | nil => exact ⟨rfl, rfl⟩
  | cons x rest ih =>
    obtain ⟨next, alike⟩ := adds.step x fun active => by
      rw [forgets.past] at active
      cases active
    obtain ⟨answer, log⟩ := alike forgets
    have after : (more.step (x.renumber k)).session.Sound := sound.after [x.renumber k]
    obtain ⟨answers, callbacks⟩ := ih next (forgets.after sound [x.renumber k]) after
    simp only [List.map_cons, Session.answers, Session.callbacks, answer, log, answers, callbacks,
      and_self]

/-! ## What is noted of threads -/

/-- The threads with a limit have begun to wait, and those that ran out of time found this. -/
structure Noted (s : Session) : Prop where
  limited : ∀ n ∈ s.limited, n ≤ s.barrier.gate.lastWait
  overdue : ∀ late ∈ s.overdue, ∃ count, late.2 = .timedOut count

theorem noted_new (limit : Option Nat) : (new limit).Noted := ⟨nofun, nofun⟩

theorem poll_noted (slot : String) :
    (s.poll slot).2.limited = s.limited ∧ (s.poll slot).2.overdue = s.overdue := by
  rw [poll_session]
  split
  · exact ⟨rfl, rfl⟩
  · exact ⟨abandon_limited s slot, abandon_overdue s slot⟩

theorem begin_noted (s : Session) (slot : String) {sleeper : Sleeper} (wait : Nat → Slot)
    (suits : ∀ n, (wait n).sleeper = sleeper) :
    (s.begin slot sleeper wait).2.limited = s.limited ∧
      (s.begin slot sleeper wait).2.overdue = s.overdue := by
  have limited := abandon_limited s slot
  have overdue := abandon_overdue s slot
  rw [begin_eq slot suits]
  split
  · exact ⟨limited, overdue⟩
  · split
    · exact ⟨limited, overdue⟩
    · obtain ⟨first, second⟩ := poll_noted slot (s := (s.abandon slot).entered slot
        (wait ((s.abandon slot).barrier.gate.lastWait + 1)))
      exact ⟨first.trans limited, second.trans overdue⟩

/-- Only a thread that begins to wait is noted to have a limit. -/
theorem step_limited (s : Session) (x : Step) : (s.step x).session.limited = s.limited ∨
    (s.step x).session.limited = s.limited ++ [(s.step x).session.barrier.gate.lastWait] := by
  cases x with
  | poll slot => exact .inl (poll_noted slot).1
  | drop slot => exact .inl (abandon_limited s slot)
  | wait slot limit => exact .inl (begin_noted s slot (.task · _) fun _ => rfl).1
  | timeUp number =>
    simp only [step, timeUp_eq]
    split
    · exact .inl rfl
    · exact .inl rfl
  | feed capacity events =>
    rw [step_feed_session]
    exact .inl rfl
  | park slot limit =>
    have suits : ∀ n, (Slot.thread n).sleeper = .thread := fun _ => rfl
    have limited := (begin_noted s slot .thread suits).1
    simp only [step, quietly, park]
    split
    · next found _ =>
      have last := (begin_lookup suits (fun _ => rfl) found).2
      exact .inr (by rw [limited, last]; rfl)
    · exact .inl limited
  | _ => exact .inl rfl

/-- Only a thread whose time is up is noted to have run out of it. -/
theorem step_overdue (s : Session) (x : Step) : (s.step x).session.overdue = s.overdue ∨
    ∃ number, x = .timeUp number ∧ s.barrier.gate.isActive number ∧ (s.step x).session.overdue =
      s.overdue ++ [(number, .timedOut s.barrier.gate.ledger.count)] := by
  cases x with
  | poll slot => exact .inl (poll_noted slot).2
  | drop slot => exact .inl (abandon_overdue s slot)
  | wait slot limit => exact .inl (begin_noted s slot (.task · _) fun _ => rfl).2
  | park slot limit =>
    obtain ⟨limited, session⟩ := park_session slot limit (s := s)
    simp only [step, quietly, session]
    exact .inl (begin_noted s slot .thread fun _ => rfl).2
  | timeUp number =>
    simp only [step, timeUp_eq]
    split
    · split
      · next active => exact .inr ⟨number, rfl, active, rfl⟩
      · exact .inl (List.append_nil _)
    · exact .inl rfl
  | feed capacity events =>
    rw [step_feed_session]
    exact .inl rfl
  | _ => exact .inl rfl

theorem Noted.step_single (noted : s.Noted) (sound : s.Sound) (single : x.isSingle) :
    (s.step x).session.Noted where
  limited n member := by
    have later := sound.lastWait_le single
    rcases step_limited s x with same | grown
    · exact Nat.le_trans (noted.limited n (same ▸ member)) later
    · rw [grown, List.mem_append] at member
      rcases member with old | new
      · exact Nat.le_trans (noted.limited n old) later
      · exact Nat.le_of_eq (List.mem_singleton.mp new)
  overdue late member := by
    rcases step_overdue s x with same | ⟨number, _, _, grown⟩
    · exact noted.overdue late (same ▸ member)
    · rw [grown, List.mem_append] at member
      rcases member with old | new
      · exact noted.overdue late old
      · obtain rfl := List.mem_singleton.mp new
        exact ⟨_, rfl⟩

theorem Noted.after (noted : s.Noted) (sound : s.Sound) (steps : List Step) :
    (s.after steps).Noted :=
  sound.preserved Noted noted (fun sound single noted => noted.step_single sound single) steps

/-! ## The wait that one of two sessions makes -/

/-- In a session where nobody waits, the next wait is additional once it has begun, whether it is
over already or not. -/
theorem Sound.adds (sound : s.Sound) (noted : s.Noted)
    (gate : more.barrier.gate.Adds (s.barrier.gate.lastWait + 1) s.barrier.gate)
    (undisturbed : s.barrier.Undisturbed more.barrier) (clock : more.clock = s.clock)
    {fresh : List (String × Slot)} (slots : more.slots = s.slots ++ fresh)
    (numbered : ∀ held ∈ fresh, held.2.number = s.barrier.gate.lastWait + 1)
    {extra : List Nat} (limited : more.limited = s.limited ++ extra)
    (own : ∀ n ∈ extra, n = s.barrier.gate.lastWait + 1) (overdue : more.overdue = s.overdue) :
    more.Adds (s.barrier.gate.lastWait + 1) s := by
  refine ⟨⟨gate, undisturbed.audience, undisturbed.waitLimit⟩, clock, fun slot => ?_, fun n => ?_,
    fun n => ?_⟩
  · rw [slots, List.lookup_append]
    cases found : s.slots.lookup slot with
    | some held =>
      have early : held.number < s.barrier.gate.lastWait + 1 :=
        Nat.lt_succ_of_le (sound.begun _ (List.mem_of_lookup_eq_some found))
      rw [Option.some_or, Option.filter_some_pos (by simpa using Nat.ne_of_lt early),
        Option.map_some, Slot.renumber_of_lt early]
    | none =>
      rw [Option.none_or, Option.map_none]
      refine Option.filter_eq_none_iff.mpr fun held entered => ?_
      simpa using numbered _ (List.mem_of_lookup_eq_some entered)
  · rw [limited, List.mem_append]
    have other : renumber (s.barrier.gate.lastWait + 1) n ∉ extra :=
      fun member => renumber_ne (own _ member)
    rw [or_iff_left other]
    exact renumber_mem fun m member => Nat.lt_succ_of_le (noted.limited m member)
  · rw [overdue]
    have early (late : Nat × Fault) (member : late ∈ s.overdue) :
        late.1 < s.barrier.gate.lastWait + 1 :=
      Nat.lt_succ_of_le (sound.overdue late member).1
    by_cases before : n < s.barrier.gate.lastWait + 1
    · rw [renumber_of_lt before]
    · have absent (m : Nat) (after : n ≤ m) : s.overdue.lookup m = none := by
        refine List.lookup_eq_none_iff.mpr fun late member => bne_iff_ne.mpr fun same => ?_
        have below := early late member
        omega
      rw [renumber_of_le (Nat.le_of_not_lt before), absent n (Nat.le_refl n),
        absent (n + 1) (Nat.le_succ n)]

/-! ## The run without a call -/

/-- The wait of this number is active, or its thread has run out of time and has yet to say so. -/
def Lingers (s : Session) (k : Nat) : Prop :=
  s.barrier.gate.isActive k ∨ (s.overdue.lookup k).isSome

theorem Sound.lingers_of_step (sound : s.Sound) (single : x.isSingle)
    (begun : k ≤ s.barrier.gate.lastWait) (lingers : (s.step x).session.Lingers k) :
    s.Lingers k := by
  rcases lingers with active | late
  · exact .inl (sound.isActive_of_step single begun active)
  · rcases step_overdue s x with same | ⟨number, _, active, grown⟩
    · exact .inr (same ▸ late)
    · rw [grown, List.lookup_append, Option.isSome_or, Bool.or_eq_true] at late
      rcases late with old | new
      · exact .inr old
      · by_cases own : k = number
        · exact .inl (own ▸ active)
        · simp [List.lookup_cons, beq_false_of_ne own] at new

/-- A wait that lasts to the end has lasted all along. -/
theorem Sound.lingers_of_after (sound : s.Sound) (begun : k ≤ s.barrier.gate.lastWait)
    (lingers : (s.after steps).Lingers k) : s.Lingers k := by
  let lasted (t : Session) : Prop :=
    k ≤ t.barrier.gate.lastWait ∧ (t.Lingers k → s.Lingers k)
  have kept : lasted (s.after steps) := by
    refine sound.preserved lasted ⟨begun, id⟩ (fun sound single lasted => ?_) steps
    obtain ⟨begun, before⟩ := lasted
    exact ⟨Nat.le_trans begun (sound.lastWait_le single),
      fun lingers => before (sound.lingers_of_step single begun lingers)⟩
  exact kept.2 lingers

/-- What is left of a step when the wait of number `k` is not made. Nobody is turned away because
of it, and whoever was has merely taken the slot; the waits after it have their old numbers. -/
def unmade (k : Nat) (s : Session) : Step → List Step
  | .timeUp number => if number = k then [] else [.timeUp (restore k number)]
  | x => if x.isWait && s.barrier.gate.isActive k then (x.displaces?.map .drop).toList else [x]

/-- What is left of a run when the wait of number `k` is not made. -/
def unmadeRun (k : Nat) (s : Session) : List Step → List Step
  | [] => []
  | x :: rest => s.unmade k x ++ (s.step x).session.unmadeRun k rest

theorem after_drop (s : Session) (x : Step) :
    s.after ((x.displaces?.map .drop).toList) = s.cleared x := by
  unfold Session.cleared
  cases x.displaces? <;> rfl

theorem Adds.cleared (adds : more.Adds k s) (x : Step) : (more.cleared x).Adds k (s.cleared x) := by
  unfold Session.cleared
  split
  · exact adds.abandon _
  · exact adds

/-- Who tries to wait while somebody else does is turned away and has merely taken the slot. -/
theorem step_of_busy (waits : x.isWait) (filled : s.barrier.gate.ledger.isEmpty = false)
    (busy : (s.cleared x).barrier.gate.hasWaiter) :
    s.step x = ⟨s.cleared x, [], .refused .waitActive⟩ := by
  have begun (slot : String) {sleeper : Sleeper} (wait : Nat → Slot)
      (suits : ∀ n, (wait n).sleeper = sleeper)
      (busy : (s.abandon slot).barrier.gate.hasWaiter) :
      s.begin slot sleeper wait = (.refused .waitActive, s.abandon slot) := by
    rw [begin_eq slot suits, abandon_ledger, filled, busy]
    rfl
  cases x with
  | wait slot limit =>
    let deadline := (limit.or s.barrier.waitLimit).map (s.clock + ·)
    exact congrArg quietly (begun slot (.task · deadline) (fun _ => rfl) busy)
  | park slot limit =>
    have refused := begun slot .thread (fun _ => rfl) busy
    simp only [step, quietly, park, refused, abandon_vacant]
    rfl
  | block limit =>
    have busy : s.barrier.gate.hasWaiter := busy
    simp only [step, block_eq, filled, busy]
    rfl
  | _ => cases waits

theorem Sound.attempt_cleared (sound : s.Sound) (waits : x.isWait)
    (active : s.barrier.gate.isActive k) (still : (s.step x).session.barrier.gate.isActive k) :
    (s.step x).session = s.cleared x := by
  have filled := sound.gate.occupied (Gate.hasWaiter_iff.mpr ⟨k, active⟩)
  have single : x.isSingle := by cases x <;> first | rfl | cases waits
  have spared : s.displaces x k = false := by
    rw [sound.isActive_step single active, Bool.not_eq_true', Bool.or_eq_false_iff] at still
    exact still.2
  have busy : (s.cleared x).barrier.gate.hasWaiter := by
    refine Gate.hasWaiter_iff.mpr ⟨k, ?_⟩
    rw [cleared_isActive, active, spared]
    rfl
  rw [step_of_busy waits filled busy]

/-- A step leaves the same behind without the wait of number `k`, apart from this wait. -/
theorem Adds.step_unmade (adds : more.Adds k s) (sound : more.Sound)
    (lingers : (more.step x).session.Lingers k) :
    (more.step x).session.Adds k (s.after (more.unmade k x)) := by
  by_cases called : ∃ number, x = .timeUp number
  · obtain ⟨number, rfl⟩ := called
    by_cases own : number = k
    · rw [unmade, if_pos own, own]
      exact adds.timeUp_own
    · have same := adds.timeUp (restore k number)
      rw [renumber_restore own] at same
      rw [unmade, if_neg own]
      exact same
  -- No other step runs the thread out of time, so the wait is still active if it was.
  have still (active : more.barrier.gate.isActive k) :
      (more.step x).session.barrier.gate.isActive k := by
    refine lingers.resolve_right fun late => ?_
    rcases step_overdue more x with same | ⟨number, rfl, _⟩
    · rw [same, sound.lookup_overdue active] at late
      cases late
    · exact called ⟨number, rfl⟩
  have left : x.renumber k = x ∧ more.unmade k x =
      if x.isWait && more.barrier.gate.isActive k then (x.displaces?.map .drop).toList
      else [x] := by
    cases x with
    | timeUp number => exact absurd ⟨number, rfl⟩ called
    | _ => exact ⟨rfl, rfl⟩
  rw [left.2]
  split
  · next attempt =>
    obtain ⟨waits, active⟩ := Bool.and_eq_true_iff.mp attempt
    rw [after_drop, sound.attempt_cleared waits active (still active)]
    exact adds.cleared x
  · next granted =>
    have stepped := (adds.step x fun active => ⟨?_, fun _ => still active⟩).1
    · rwa [left.1] at stepped
    · simpa [active] using granted

theorem Adds.after_unmadeRun (adds : more.Adds k s) (sound : more.Sound)
    (lingers : (more.after steps).Lingers k) :
    (more.after steps).Adds k (s.after (more.unmadeRun k steps)) := by
  induction steps generalizing s more with
  | nil => exact adds
  | cons x rest ih =>
    have stepped : (more.step x).session.Sound := sound.after [x]
    have begun := sound.begun_after adds.barrier.gate.begun [x]
    rw [unmadeRun, after_append]
    exact ih (adds.step_unmade sound (stepped.lingers_of_after begun lingers)) stepped lingers

end Quiescence.Session
