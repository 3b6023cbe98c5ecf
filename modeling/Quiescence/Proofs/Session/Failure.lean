import Quiescence.Proofs.Ledger.Entries
import Quiescence.Proofs.Session.Lifetime
import Quiescence.Proofs.Session.Unmade

/-! # Failures leave no trace

A step that fails because the caller broke the rules changes nothing at all. A call that waits and
gives up ends its own wait and changes nothing else. In either case nobody hears of it, and from
then on the session behaves as if the call had not been made.
-/

namespace Quiescence

/-- An event that is refused was reported by a caller who broke the rules. -/
theorem Gate.isCallerError_of_apply {g : Gate} {now : Moment} {event : Event} {fault : Fault}
    (refused : g.apply now event = .error fault) : fault.isCallerError := by
  have caller {change : Except Fault Ledger} {follow : Ledger → Gate × List Effect} {misuse : Fault}
      (error : misuse.isCallerError) (verdict : change = .error misuse ∨ ∃ next, change = .ok next)
      (refused : (do return follow (← change)) = Except.error fault) : fault.isCallerError := by
    rcases verdict with rejected | ⟨next, accepted⟩
    · rw [rejected] at refused
      exact Except.error.inj refused ▸ error
    · rw [accepted] at refused
      cases refused
  obtain ⟨kind, h⟩ := event
  cases kind with
  | opened =>
    exact caller rfl ((Ledger.add_cases now h g.ledger).imp And.right And.right) refused
  | modified =>
    exact caller rfl ((Ledger.mark_cases now h g.ledger).imp And.right And.right) refused
  | closed =>
    exact caller rfl ((Ledger.remove_cases h g.ledger).imp And.right And.right) refused

/-- Only a task can find its deadline passed. -/
theorem Slot.sleeper_of_isDue {held : Slot} {clock : Nat} (due : held.isDue clock) :
    held.sleeper = .task := by
  cases held with
  | task => rfl
  | thread => cases due

/-- A queue of events is never refused as a whole. -/
theorem Barrier.drainQueue_reply (now : Moment) (events : List Event) (report : FeedReport)
    (b : Barrier) (fault : Fault) : (b.drainQueue now events report).reply ≠ .refused fault := by
  induction events generalizing b report with
  | nil =>
    intro refused
    cases refused
  | cons event rest ih =>
    simp only [Barrier.drainQueue]
    split
    · intro refused
      cases refused
    · exact ih _ _
    · exact ih _ _

namespace Session

variable {s more : Session} {x : Step} {slot : String} {fault : Fault} {k count : Nat}

/-! ## How a step fails -/

/-- What becomes of a session when a step fails. -/
inductive Fails (s : Session) : Step → Fault → Session → Prop
  /-- The caller broke the rules, and nothing has happened. The slot of an attempt to wait has been
  taken from the wait that was there before. -/
  | misused {x : Step} {fault : Fault} (error : fault.isCallerError) : Fails s x fault (s.cleared x)
  /-- A task that finds its deadline passed ends its wait. -/
  | task {slot : String} {number : Nat} {deadline : Option Nat}
      (held : s.slots.lookup slot = some (.task number deadline))
      (active : s.barrier.gate.isActive number) :
      Fails s (.poll slot) (.timedOut s.barrier.gate.ledger.count)
        ((s.vacate slot).withGate { s.barrier.gate with wait := .idle })
  /-- The wait of a thread has ended when its time was up, and its slot becomes empty now. -/
  | thread {slot : String} {number count : Nat} (held : s.slots.lookup slot = some (.thread number))
      (late : s.overdue.lookup number = some (.timedOut count)) :
      Fails s (.poll slot) (.timedOut count) (s.vacate slot)
  /-- A wait without any time begins, which uses up its number, and is over at once. -/
  | atOnce {x : Step} (waits : x.isWait) (idle : (s.cleared x).barrier.gate.wait = .idle) :
      Fails s x (.timedOut s.barrier.gate.ledger.count)
        ((s.cleared x).withGate (s.cleared x).barrier.gate.skip)

theorem perform_unrefused {α : Type} (value : α) (effects : List Effect) (b : Barrier)
    {answer : α → Answer} (grants : answer value ≠ .refused fault) :
    (s.ofOutcome answer (b.perform value effects)).answer ≠ .refused fault := by
  rcases Barrier.perform_reply value effects b with reply | ⟨observer, reply⟩
  · simpa [Session.ofOutcome, reply] using grants
  · simp [Session.ofOutcome, reply]

theorem feed_unrefused (capacity : Nat) (events : List Event) :
    (s.step (.feed capacity events)).answer ≠ .refused fault := by
  intro refused
  rcases Nat.lt_or_ge mostRoom capacity with large | fits
  · rw [step_feed_of_large large] at refused
    cases refused
  · rw [step_feed_of_fits fits, Session.ofOutcome] at refused
    cases reply : (s.barrier.drainQueue s.now events ⟨0, 0⟩).reply with
    | done | panicked =>
      simp only [reply] at refused
      cases refused
    | refused found => exact Barrier.drainQueue_reply s.now events ⟨0, 0⟩ s.barrier found reply

theorem apply_fails {event : Event} (refused : (s.step (.apply event)).answer = .refused fault) :
    s.Fails (.apply event) fault (s.step (.apply event)).session ∧
      (s.step (.apply event)).log = [] := by
  simp only [step, Barrier.apply] at refused ⊢
  cases applied : s.barrier.gate.apply s.now event with
  | error found =>
    rw [applied] at refused
    obtain rfl := Answer.refused.inj refused
    exact ⟨.misused (Gate.isCallerError_of_apply applied), rfl⟩
  | ok result =>
    rw [applied] at refused
    exact absurd refused (perform_unrefused () result.2 _ (by simp))

theorem Noted.poll_fails (noted : s.Noted) (refused : (s.poll slot).1 = .refused fault) :
    s.Fails (.poll slot) fault (s.poll slot).2 := by
  have session : (s.poll slot).2 = s.abandon slot := by
    rw [poll_session, refused, if_neg nofun]
  rw [poll_answer] at refused
  rw [session, Session.abandon]
  cases held : s.slots.lookup slot with
  | none => simp [held] at refused
  | some wait =>
    cases wait with
    | thread number =>
      simp only [held] at refused ⊢
      split at refused
      · cases refused
      · split at refused
        · next found late =>
          obtain rfl := Answer.refused.inj refused
          obtain ⟨count, out⟩ := noted.overdue _ (List.mem_of_lookup_eq_some late)
          obtain rfl : found = .timedOut count := out
          exact .thread held late
        · cases refused
    | task number deadline =>
      simp only [held] at refused ⊢
      split at refused
      · cases refused
      · split at refused
        · split at refused
          · next active =>
            obtain rfl := Answer.refused.inj refused
            rw [Gate.retract, if_pos active]
            exact .task held active
          · cases refused
        · cases refused

private theorem begin_fails (sound : s.Sound) (waits : x.isWait)
    (displaces : x.displaces? = some slot) {sleeper : Sleeper} {wait : Nat → Slot}
    (suits : ∀ n, (wait n).sleeper = sleeper) (numbered : ∀ n, (wait n).number = n)
    (refused : (s.begin slot sleeper wait).1 = .refused fault) :
    s.Fails x fault (s.begin slot sleeper wait).2 := by
  have cleared := cleared_of_displaces? (s := s) displaces
  rcases begin_cases slot suits s with ⟨_, outcome⟩ | ⟨_, _, outcome⟩ | ⟨filled, idle, outcome⟩
  · rw [outcome] at refused
    cases refused
  · rw [outcome] at refused ⊢
    obtain rfl := Answer.refused.inj refused
    rw [← cleared]
    exact .misused rfl
  · have empty := abandon_vacant s slot
    have number := numbered ((s.abandon slot).barrier.gate.lastWait + 1)
    rw [outcome, (sound.abandon slot).poll_entered filled empty number] at refused ⊢
    split at refused
    · next due =>
      rw [if_pos due]
      obtain rfl := Answer.refused.inj refused
      have task := Slot.sleeper_of_isDue due
      rw [abandon_entered_eq empty idle number task, abandon_ledger]
      rw [← cleared] at idle ⊢
      exact .atOnce waits idle
    · cases refused

private theorem block_fails (sound : s.Sound) {limit : Option Nat}
    (refused : (s.step (.block limit)).answer = .refused fault) :
    s.Fails (.block limit) fault (s.step (.block limit)).session := by
  simp only [step, block_eq] at refused ⊢
  split at refused
  · cases refused
  · next filled =>
    rw [if_neg filled]
    split at refused
    · next busy =>
      rw [if_pos busy]
      obtain rfl := Answer.refused.inj refused
      exact .misused rfl
    · next free =>
      rw [if_neg free]
      have idle := Gate.hasWaiter_eq_false_iff.mp (Bool.eq_false_iff.mpr free)
      cases own : limit.or s.barrier.waitLimit with
      | none => simp [own] at refused
      | some time =>
        simp only [own, Gate.rouse_outcome, Gate.lapse_outcome] at refused
        split at refused
        · obtain rfl := Answer.refused.inj refused
          simp only [sound.gate.rouse_begun idle]
          exact .atOnce rfl idle
        · cases refused

/-- A step fails in one of four ways, and nobody hears of it. -/
theorem Sound.fails (sound : s.Sound) (noted : s.Noted)
    (refused : (s.step x).answer = .refused fault) :
    s.Fails x fault (s.step x).session ∧ (s.step x).log = [] := by
  cases x with
  | apply event => exact apply_fails refused
  | evict context => exact absurd refused (perform_unrefused _ _ _ (by simp))
  | evictAll => exact absurd refused (perform_unrefused _ _ _ (by simp))
  | feed capacity events => exact absurd refused (feed_unrefused capacity events)
  | wait slot limit =>
    exact ⟨begin_fails sound rfl rfl (fun _ => rfl) (fun _ => rfl) refused, rfl⟩
  | park slot limit =>
    have suits : ∀ n, (Slot.thread n).sleeper = .thread := fun _ => rfl
    have answer : (s.begin slot .thread .thread).1 = .refused fault :=
      (park_answer slot limit).symm.trans refused
    rcases begin_settles s slot .thread suits with ⟨_, vacant⟩ | ⟨pending, _, _⟩
    · have same : s.park slot limit = s.begin slot .thread .thread := by
        simp only [park, vacant]
      simp only [Session.step, quietly, same]
      exact ⟨begin_fails sound rfl rfl suits (fun _ => rfl) answer, trivial⟩
    · rw [answer] at pending
      cases pending
  | block limit => exact ⟨block_fails sound refused, rfl⟩
  | poll slot => exact ⟨noted.poll_fails refused, rfl⟩
  | _ => cases refused

/-- The wait of a thread whose time is up ends, and nothing else happens. The thread says so when
it is looked at. -/
theorem Sound.timeUp_active {n : Nat} (sound : s.Sound) (limited : n ∈ s.limited)
    (active : s.barrier.gate.wait = .active n .thread) :
    s.timeUp n =
      { s.withGate
          { s.barrier.gate with wait := .idle, parked := s.barrier.gate.parked.filter (· != n) } with
        overdue := s.overdue ++ [(n, .timedOut s.barrier.gate.ledger.count)] } := by
  have own : s.barrier.gate.isActive n := Gate.isActive_iff.mpr ⟨_, active⟩
  have asleep := sound.gate.asleep n active
  rw [timeUp_eq, if_pos ⟨limited, asleep⟩, if_pos own]
  simp [Gate.rouse_gate, Gate.retract, Gate.unpark, own]

/-! ## What follows a failure -/

theorem Noted.cleared (noted : s.Noted) (x : Step) : (s.cleared x).Noted := by
  unfold Session.cleared
  split
  · exact ⟨by simpa using noted.limited, by simpa using noted.overdue⟩
  · exact noted

/-- A wait that ended as soon as it had begun is forgotten on the spot. -/
theorem Sound.sameFuture_skip (sound : s.Sound) (noted : s.Noted)
    (idle : s.barrier.gate.wait = .idle) (later : (s.withGate s.barrier.gate.skip).Sound) :
    SameFuture (s.barrier.gate.lastWait + 1) s (s.withGate s.barrier.gate.skip) := by
  have adds : (s.withGate s.barrier.gate.skip).Adds (s.barrier.gate.lastWait + 1) s :=
    sound.adds noted (sound.gate.skip_adds idle) ⟨rfl, rfl, rfl⟩ rfl (List.append_nil _).symm
      nofun (List.append_nil _).symm nofun rfl
  refine adds.sameFuture ⟨Nat.le_refl _, Gate.isActive_of_idle idle _, fun held member => ?_⟩ later
  have begun := sound.begun held member
  omega

/-- The slot of a call that waits on holds the next wait, and nothing else has been done. -/
theorem step_pending (waits : x.isWait) (displaces : x.displaces? = some slot)
    (pending : (s.step x).answer = .pending) :
    (s.abandon slot).barrier.gate.wait = .idle ∧ ∃ (held : Slot) (extra : List Nat),
      held.number = s.barrier.gate.lastWait + 1 ∧
      (∀ n ∈ extra, n = s.barrier.gate.lastWait + 1) ∧
      (s.step x).session =
        { (s.abandon slot).entered slot held with limited := s.limited ++ extra } := by
  cases x with
  | wait own limit =>
    obtain rfl := Option.some.inj displaces
    let deadline := (limit.or s.barrier.waitLimit).map (s.clock + ·)
    obtain ⟨_, idle, session⟩ :=
      (begin_settles s own (.task · deadline) fun _ => rfl).resolve_left (absurd pending ·.1)
    refine ⟨idle, .task (s.barrier.gate.lastWait + 1) deadline, [], rfl, nofun, session.trans ?_⟩
    rw [List.append_nil, ← abandon_limited s own]
    rfl
  | park own limit =>
    obtain rfl := Option.some.inj displaces
    have pending : (s.begin own .thread .thread).1 = .pending :=
      (park_answer own limit).symm.trans pending
    obtain ⟨_, idle, session⟩ :=
      (begin_settles s own .thread fun _ => rfl).resolve_left (absurd pending ·.1)
    have found : ((s.abandon own).entered own
        (.thread (s.barrier.gate.lastWait + 1))).slots.lookup own =
          some (.thread (s.barrier.gate.lastWait + 1)) :=
      lookup_entered (abandon_vacant s own)
    refine ⟨idle, .thread (s.barrier.gate.lastWait + 1),
      if (limit.or s.barrier.waitLimit).isSome then [s.barrier.gate.lastWait + 1] else [], rfl,
      fun n member => ?_, ?_⟩
    · split at member
      · exact List.mem_singleton.mp member
      · cases member
    · simp only [step, quietly, park, session, found, ← abandon_limited s own]
      cases limit.or s.barrier.waitLimit with
      | none => simp [entered, withGate]
      | some time => rfl
  | block => cases displaces
  | _ => cases waits

/-- The wait of a call that waits on is the only difference that the call has made. -/
theorem Sound.adds_of_pending (sound : s.Sound) (noted : s.Noted) (waits : x.isWait)
    (displaces : x.displaces? = some slot) (pending : (s.step x).answer = .pending) :
    (s.step x).session.Adds (s.barrier.gate.lastWait + 1) (s.cleared x) := by
  obtain ⟨idle, held, extra, number, own, session⟩ := step_pending waits displaces pending
  have noted := noted.cleared x
  have sound := sound.abandon slot
  rw [cleared_of_displaces? displaces] at noted ⊢
  rw [← abandon_lastWait s slot] at number own ⊢
  rw [session]
  refine sound.adds noted (sound.gate.begun_adds idle held.sleeper) ⟨rfl, rfl, rfl⟩ rfl rfl ?_
    (congrArg (· ++ extra) (abandon_limited s slot).symm) own rfl
  intro other member
  obtain rfl := List.mem_singleton.mp member
  exact number

/-- A wait that ran out of time is that of a task and still active, or that of a thread which has
run out of time before. -/
theorem Noted.timedOut_cases (noted : s.Noted) {held : Slot}
    (found : s.slots.lookup slot = some held)
    (refused : (s.poll slot).1 = .refused (.timedOut count)) :
    s.taskIn? slot = some held.number ∧ s.barrier.gate.isActive held.number ∨
      (s.overdue.lookup held.number).isSome := by
  have fails := noted.poll_fails refused
  generalize (s.poll slot).2 = after at fails
  cases fails with
  | misused error => cases error
  | atOnce waits => cases waits
  | @task _ number deadline own active =>
    obtain rfl : held = .task number deadline := Option.some.inj (found.symm.trans own)
    exact .inl ⟨taskIn?_eq_some_iff.mpr ⟨deadline, own⟩, active⟩
  | @thread _ number _ own late =>
    obtain rfl : held = .thread number := Option.some.inj (found.symm.trans own)
    exact .inr (Option.isSome_of_eq_some late)

/-- A wait that ran out of time is forgotten once its slot has said so. -/
theorem Sound.forgets_poll (sound : s.Sound) (noted : s.Noted) {held : Slot}
    (found : s.slots.lookup slot = some held)
    (refused : (s.poll slot).1 = .refused (.timedOut count)) :
    (s.poll slot).2.Forgets held.number := by
  have session : (s.poll slot).2 = s.abandon slot := by
    rw [poll_session, refused, if_neg nofun]
  refine ⟨?_, ?_, fun other member same => ?_⟩
  · rw [session, abandon_lastWait]
    exact sound.begun _ (List.mem_of_lookup_eq_some found)
  · rw [session, abandon_isActive]
    rcases noted.timedOut_cases found refused with ⟨own, _⟩ | late
    · simp [own]
    · have past : s.barrier.gate.isActive held.number = false := by
        refine Bool.eq_false_iff.mpr fun active => ?_
        rw [sound.lookup_overdue active] at late
        cases late
      rw [past, Bool.false_and]
  · rw [session, abandon_slots, List.mem_filter] at member
    have there : s.slots.lookup other.1 = some other.2 :=
      List.lookup_eq_some_of_mem sound.keys member.1
    simp [sound.slot_unique there found same] at member

/-- How a session takes the failures of its steps. -/
structure FailsCleanly (s : Session) : Prop where
  /-- When the caller broke the rules, nothing happens and no observer hears of it. The slot of an
  attempt to wait has been taken from the wait that was there before. -/
  misused : ∀ x fault, (s.step x).answer = .refused fault → fault.isCallerError →
    s.step x = ⟨s.cleared x, [], .refused fault⟩
  /-- A call that ran out of time ends its wait in one of three ways; no observer hears of it. -/
  timedOut : ∀ x count, (s.step x).answer = .refused (.timedOut count) →
    s.Fails x (.timedOut count) (s.step x).session ∧ (s.step x).log = []
  /-- When the time of a thread is up, its wait ends, and no more happens. -/
  timeUp : ∀ n ∈ s.limited, s.barrier.gate.wait = .active n .thread →
    s.step (.timeUp n) =
      ⟨{ s.withGate
            { s.barrier.gate with
              wait := .idle, parked := s.barrier.gate.parked.filter (· != n) } with
          overdue := s.overdue ++ [(n, .timedOut s.barrier.gate.ledger.count)] }, [], .ok⟩
  /-- Nobody can tell whether a call without any time has been made. -/
  forgottenAtOnce : ∀ x count, x.isWait → (s.step x).answer = .refused (.timedOut count) →
    SameFuture (s.barrier.gate.lastWait + 1) (s.cleared x) (s.step x).session
  /-- Nobody can tell whether a call that waited for a while and ran out of time has been made,
  whatever was done in between. Those who were turned away meanwhile have not called either. -/
  forgottenInTheEnd : ∀ x slot between count, x.isWait → x.displaces? = some slot →
    (s.step x).answer = .pending →
    let number := s.barrier.gate.lastWait + 1
    let begun := (s.step x).session
    let last := begun.after between
    (last.slots.lookup slot).map Slot.number = some number →
    (last.step (.poll slot)).answer = .refused (.timedOut count) →
      SameFuture number ((s.cleared x).after (begun.unmadeRun number between))
        (last.step (.poll slot)).session

/-- Every failure that is reported leaves the session as if the call had not been made. -/
theorem failures_leave_no_trace (limit : Option Nat) (steps : List Step) :
    ((new limit).after steps).FailsCleanly := by
  have sound := (sound_new limit).after steps
  have noted := (noted_new limit).after (sound_new limit) steps
  generalize (new limit).after steps = s at sound noted
  refine ⟨fun x fault refused error => ?_, fun x count refused => sound.fails noted refused,
    fun n limited active => congrArg (Turn.mk · [] .ok) (sound.timeUp_active limited active),
    fun x count waits refused => ?_, ?_⟩
  · obtain ⟨fails, silent⟩ := sound.fails noted refused
    generalize s.step x = turn at refused fails silent
    obtain ⟨after, log, answer⟩ := turn
    obtain rfl : log = [] := silent
    obtain rfl : answer = .refused fault := refused
    cases fails with
    | misused => rfl
    | task | thread | atOnce => cases error
  · have fails := (sound.fails noted refused).1
    have later : (s.step x).session.Sound := sound.after [x]
    generalize (s.step x).session = after at fails later
    cases fails with
    | misused error => cases error
    | task | thread => cases waits
    | atOnce waits idle =>
      rw [← cleared_lastWait s x]
      exact (sound.cleared x).sameFuture_skip (noted.cleared x) idle later
  · intro x slot between count waits displaces pending number begun last found refused
    obtain ⟨held, there, own⟩ := Option.map_eq_some_iff.mp found
    have begunSound : begun.Sound := sound.after [x]
    have begunNoted : begun.Noted := noted.after sound [x]
    have lastSound : last.Sound := begunSound.after between
    have lastNoted : last.Noted := begunNoted.after begunSound between
    have lingers : last.Lingers number := by
      rcases lastNoted.timedOut_cases there refused with ⟨_, active⟩ | late
      · exact .inl (own ▸ active)
      · exact .inr (own ▸ late)
    have adds : last.Adds number ((s.cleared x).after (begun.unmadeRun number between)) :=
      (sound.adds_of_pending noted waits displaces pending).after_unmadeRun begunSound lingers
    have vacant := adds.vacant_of_own there own
    have polled := (adds.poll slot).1
    rw [poll_of_vacant vacant] at polled
    exact polled.sameFuture (own ▸ lastSound.forgets_poll lastNoted there refused)
      (lastSound.after [.poll slot])

/-- A task gives up after a thread has been turned away because of it and a handle has been closed:
what comes then is the same as if neither of the two had tried to wait. -/
theorem late_task_leaves_no_trace :
    let opens : List Step := [.apply ⟨.opened, ⟨"A", "x"⟩⟩, .apply ⟨.opened, ⟨"A", "y"⟩⟩]
    let closes : Step := .apply ⟨.closed, ⟨"A", "x"⟩⟩
    let s := (new none).after opens
    let begun := (s.step (.wait "w" (some 5))).session
    let last := begun.after [.park "t" none, closes, .advance 5]
    SameFuture 1 (((s.step (.drop "t")).session.step closes).session.step (.advance 5)).session
      (last.step (.poll "w")).session := by
  intro opens closes s begun last
  exact (failures_leave_no_trace none opens).forgottenInTheEnd (.wait "w" (some 5)) "w"
    [.park "t" none, closes, .advance 5] 1 rfl rfl (by decide) (by decide) (by decide)

end Session

end Quiescence
