import Quiescence.Proofs.Replay.Delivery
import Quiescence.Proofs.Session.LastEvent

/-! # The outcome of a replay

Apart from times, what a replay reports is decided by the events of its script: by nothing that the
waiter does beside them, and by no delay, limit or queue. It is what a new barrier reports to which
the events are applied one by one.
-/

namespace Quiescence

/-- A row without its times: the handle, and whether it was modified. -/
def Row.mark (row : Row) : Handle × Bool := (row.handle, row.modifiedAt.isSome)

/-- What becomes of some events, apart from times. -/
structure Gist where
  events : Nat
  applied : Nat
  rejected : Nat
  quiescent : Bool
  /-- The handles that are left open, and whether each was modified. -/
  remaining : List (Handle × Bool)
deriving DecidableEq

/-- What a summary says of its events. -/
def Summary.gist (s : Summary) : Gist :=
  ⟨s.events, s.applied, s.rejected, s.quiescent, s.remaining.map Row.mark⟩

/-- What becomes of some events that are applied one by one to a new barrier. -/
def Session.gist (limit : Option Nat) (events : List Event) : Gist :=
  let steps := events.map Step.apply
  let answers := (new limit).answers steps
  let ledger := ((new limit).after steps).barrier.gate.ledger
  { events := answers.length
    applied := answers.count .ok
    rejected := answers.countP Answer.isRefusal
    quiescent := ledger.isEmpty
    remaining := ledger.rows.map Row.mark }

namespace Past

/-- What becomes of some events. -/
def gist (past : Past) : Gist where
  events := past.length
  applied := (accepted [] past).length
  rejected := past.length - (accepted [] past).length
  quiescent := past.roll.opened = ∅
  remaining := past.roll.listing

variable {past : Past} {ledger : Ledger}

/-- Whoever records the events and counts the accepted ones reports their gist. -/
theorem gist_eq (records : ledger.Records past) {applied rejected : Nat}
    (counted : applied = (accepted [] past).length)
    (total : applied + rejected = past.length) :
    past.gist = ⟨past.length, applied, rejected, ledger.isEmpty, ledger.rows.map Row.mark⟩ := by
  have depicts := records.depicts
  have rejected : past.length - (accepted [] past).length = rejected := by omega
  have quiescent : decide (past.roll.opened = ∅) = ledger.isEmpty := by
    rw [depicts.opened_eq, Bool.eq_iff_iff, decide_eq_true_iff, depicts.tallied.isEmpty_iff]
  have remaining : past.roll.listing = ledger.rows.map Row.mark := depicts.rows_eq.symm
  rw [gist, rejected, quiescent, counted, remaining]

end Past

namespace Barrier

variable {b : Barrier}

/-- Steady observers do not panic, whatever arrives. -/
theorem apply_calm (steady : ∀ notice, b.audience.Steady notice) (now : Moment) (event : Event) :
    (∀ observer, (b.apply now event).reply ≠ .panicked observer) ∧
      ∀ notice, (b.apply now event).barrier.audience.Steady notice := by
  simp only [apply]
  cases b.gate.apply now event with
  | error fault => exact ⟨by simp, steady⟩
  | ok result =>
    obtain ⟨gate, effects⟩ := result
    obtain ⟨reply, alike, _⟩ :=
      perform_steady () effects { b with gate } fun notice _ => steady notice
    refine ⟨fun observer panicked => ?_, fun notice => (steady notice).of_alike alike⟩
    rw [reply] at panicked
    cases panicked

theorem drainQueue_calm (steady : ∀ notice, b.audience.Steady notice) (now : Moment)
    (events : List Event) (report : FeedReport) :
    (∀ observer, (b.drainQueue now events report).reply ≠ .panicked observer) ∧
      ∀ notice, (b.drainQueue now events report).barrier.audience.Steady notice := by
  induction events generalizing b report with
  | nil => exact ⟨nofun, steady⟩
  | cons event rest ih =>
    obtain ⟨calm, still⟩ := apply_calm steady now event
    simp only [drainQueue]
    cases ended : (b.apply now event).reply with
    | panicked observer => exact absurd ended (calm observer)
    | done | refused => exact ih still _

end Barrier

/-! ## One by one -/

namespace Session

variable {s : Session} {past : Past}

/-- Steady observers leave everybody calm who applies events. -/
theorem calm_applies_of_steady (steady : ∀ notice, s.barrier.audience.Steady notice)
    (events : List Event) : s.Calm (events.map .apply) := by
  induction events generalizing s with
  | nil => nofun
  | cons event rest ih =>
    obtain ⟨calm, still⟩ := Barrier.apply_calm steady s.now event
    refine List.forall_mem_cons.mpr ⟨?_, ih (s := (s.step (.apply event)).session) still⟩
    cases reply : (s.barrier.apply s.now event).reply with
    | panicked observer => exact absurd reply (calm observer)
    | done | refused => simp only [step, ofOutcome, reply, Answer.isPanic]

theorem answers_applies (records : s.barrier.gate.ledger.Records past) {events : List Event}
    (calm : s.Calm (events.map .apply)) :
    let answers := s.answers (events.map .apply)
    answers.length = events.length ∧ answers.count .ok = (past.accepted events).length ∧
      answers.count .ok + answers.countP Answer.isRefusal = events.length := by
  induction events generalizing s past with
  | nil => exact ⟨rfl, rfl, rfl⟩
  | cons event rest ih =>
    obtain ⟨now, later⟩ := List.forall_mem_cons.mp calm
    obtain ⟨length, applied, total⟩ := ih (step_records records rfl now) later
    simp only [List.map_cons, answers, answer_apply records now, Past.accepted,
      Step.events] at length applied total ⊢
    cases past.fault? event with
    | none =>
      simp [Answer.ofFault?, Answer.isRefusal, length, applied] at total ⊢
      omega
    | some fault =>
      simp [Answer.ofFault?, Answer.isRefusal, List.countP_cons, length, applied] at total ⊢
      omega

/-- What becomes of events that are applied one by one is decided by them alone. -/
theorem gist_eq (limit : Option Nat) (events : List Event) :
    gist limit events = Past.gist events := by
  have fresh : (new limit).barrier.gate.ledger.Records [] := Ledger.records_empty
  have calm : (new limit).Calm (events.map .apply) :=
    calm_applies_of_steady (fun _ _ => ⟨rfl, rfl⟩) events
  have unforced : ∀ x ∈ events.map Step.apply, x.isForced = false := by
    rintro x member
    obtain ⟨event, _, rfl⟩ := List.mem_map.mp member
    rfl
  have records := after_records fresh unforced calm
  rw [flatMap_events_applies, List.nil_append] at records
  obtain ⟨length, applied, total⟩ := answers_applies fresh calm
  rw [Past.gist_eq records applied total, gist, length]

end Session

/-! ## In a replay -/

namespace Replay

variable {r next : Replay} {past : Past}

/-- Between two states of a replay nothing has arrived. -/
structure Aside (r next : Replay) : Prop where
  ledger : next.barrier.gate.ledger = r.barrier.gate.ledger
  audience : next.barrier.audience = r.barrier.audience
  applied : next.applied = r.applied
  rejected : next.rejected = r.rejected

namespace Aside

theorem refl (r : Replay) : r.Aside r := ⟨rfl, rfl, rfl, rfl⟩

theorem trans {last : Replay} (first : r.Aside next) (second : next.Aside last) : r.Aside last :=
  ⟨second.ledger.trans first.ledger, second.audience.trans first.audience,
    second.applied.trans first.applied, second.rejected.trans first.rejected⟩

end Aside

theorem aside_conclude (r : Replay) : r.Aside r.conclude := ⟨rfl, rfl, rfl, rfl⟩

theorem aside_step (r : Replay) : r.Aside r.step := by
  cases watch : r.watch with
  | off | gaveUp | done => simpa only [step, watch] using .refl r
  | waiting number deadline =>
    simp only [step, watch]
    split
    · exact aside_conclude r
    · exact .refl r
  | resting =>
    simp only [step, watch]
    split
    · exact ⟨rfl, rfl, rfl, rfl⟩
    · split
      · exact ⟨rfl, rfl, rfl, rfl⟩
      · exact .refl r
  | looking =>
    simp only [step, watch]
    rcases Gate.start_cases .task r.barrier.gate with
      ⟨_, start⟩ | ⟨_, _, start⟩ | ⟨_, _, start⟩
    · simpa only [start] using aside_conclude r
    · simpa only [start] using aside_conclude r
    · simp only [start]
      exact ⟨rfl, rfl, rfl, rfl⟩

theorem aside_steps (r : Replay) (n : Nat) : r.Aside (r.steps n) := by
  induction n generalizing r with
  | zero => exact .refl r
  | succ n ih => exact (aside_step r).trans (ih r.step)

theorem aside_passTo (r : Replay) (time : Nat) : r.Aside (r.passTo time) := by
  simp only [passTo]
  split
  · next number deadline _ =>
    split
    · have kept := congrArg Gate.ledger (Gate.lapse_gate (g := r.barrier.gate) (n := number))
      rw [Gate.retract_ledger] at kept
      split
      · next lapsed =>
        rw [lapsed] at kept
        exact ⟨kept, rfl, rfl, rfl⟩
      · exact ⟨rfl, rfl, rfl, rfl⟩
    · exact ⟨rfl, rfl, rfl, rfl⟩
  · exact ⟨rfl, rfl, rfl, rfl⟩

theorem aside_pass (r : Replay) (delay : Nat) : r.Aside (r.pass delay) := by
  unfold pass
  split
  · exact .refl r
  · exact (aside_steps r 3).trans (aside_passTo _ _)

theorem aside_finish (r : Replay) : r.Aside r.finish := by
  have aside := aside_steps { r with delivered := true } 3
  exact ⟨aside.ledger, aside.audience, aside.applied, aside.rejected⟩

/-- A replay has taken in some events, and counted those that were accepted. -/
structure Took (past : Past) (r : Replay) : Prop where
  records : r.barrier.gate.ledger.Records past
  steady : ∀ notice, r.barrier.audience.Steady notice
  applied : r.applied = (Past.accepted [] past).length
  total : r.applied + r.rejected = past.length

theorem took_start (settings : Settings) (mode : ReplayMode) (room : Room) :
    (start settings mode room).Took [] where
  records := Ledger.records_empty
  steady := (leftBy_start settings mode room).steady
  applied := rfl
  total := rfl

namespace Took

theorem aside (took : r.Took past) (aside : r.Aside next) : next.Took past where
  records := aside.ledger ▸ took.records
  steady := aside.audience ▸ took.steady
  applied := aside.applied.trans took.applied
  total := by rw [aside.applied, aside.rejected, took.total]

theorem take (took : r.Took past) (stamp : Nat → Moment) (event : Event) :
    (r.take stamp event).Took (past ++ [event]) := by
  obtain ⟨records, steady, applied, total⟩ := took
  obtain ⟨calm, still⟩ := Barrier.drainQueue_calm steady (stamp r.clock) [event] ⟨0, 0⟩
  obtain ⟨_, recorded, report, reply, accepted, counted⟩ :=
    Barrier.drainQueue_records records calm
  simp only [Replay.take, Barrier.feed_eq_drainQueue, reply]
  rw [Nat.zero_add] at accepted
  refine ⟨recorded, still, ?_, ?_⟩
  · rw [Past.accepted_append, List.length_append, List.nil_append, ← applied, accepted]
  · simp only [List.length_append, List.length_singleton] at counted ⊢
    omega

theorem arriveAll (took : r.Took past) (stamp : Nat → Moment) (pace : Replay → Nat)
    (script : Script) :
    (r.arriveAll stamp pace script).Took (past ++ script.map Arrival.event) := by
  induction script generalizing r past with
  | nil => exact (List.append_nil past).symm ▸ took
  | cons next rest ih =>
    have arrived : (r.arrive stamp pace next).Took (past ++ [next.event]) :=
      ((took.aside (aside_pass r next.delay)).take stamp next.event).aside (aside_steps _ _)
    rw [List.map_cons, ← List.singleton_append, ← List.append_assoc]
    exact ih arrived

end Took

/-- When its script has ended, a replay has taken in all events. -/
theorem took_finish (stamp : Nat → Moment) (script : Script) (settings : Settings)
    (mode : ReplayMode) (pace : Replay → Nat) (room : Room) :
    ((start settings mode room).arriveAll stamp pace script).finish.Took
      (script.map Arrival.event) := by
  have took := (took_start settings mode room).arriveAll stamp pace script
  rw [List.nil_append] at took
  exact took.aside (aside_finish _)

/-- The events of a script decide what becomes of them. -/
theorem play_gist (stamp : Nat → Moment) (script : Script) (settings : Settings)
    (mode : ReplayMode) (pace : Replay → Nat) (room : Room) :
    (play stamp script settings mode pace room).gist = Past.gist (script.map Arrival.event) := by
  obtain ⟨records, _, applied, total⟩ := took_finish stamp script settings mode pace room
  rw [Past.gist_eq records applied total, List.length_map, ← records.tallied.isEmpty_rows]
  rfl

/-- A replay reports an outcome unless it can get no queue. Replays of the same events then report
the same apart from times, and the same as a new barrier to which the events are applied one by one.
Every event is counted once, and the barrier is quiescent in the end if no handle is listed as
open. -/
theorem run_outcome (stamp stamp' : Nat → Moment) (script script' : Script)
    (settings settings' : Settings) (mode mode' : ReplayMode) (pace pace' : Replay → Nat)
    (limit : Option Nat) (same : script.map Arrival.event = script'.map Arrival.event) :
    (run stamp script settings mode pace = none ↔ mostRoom < settings.barrier.capacity) ∧
    ∀ summary ∈ run stamp script settings mode pace,
      (∀ other ∈ run stamp' script' settings' mode' pace', summary.gist = other.gist) ∧
      summary.gist = Session.gist limit (script.map Arrival.event) ∧
      summary.events = summary.applied + summary.rejected ∧
      (summary.quiescent ↔ summary.remaining = []) := by
  refine ⟨run_eq_none_iff, fun summary reported => ?_⟩
  obtain ⟨room, rfl⟩ := exists_play reported
  have decided := play_gist stamp script settings mode pace room
  refine ⟨fun other reported' => ?_, ?_, ?_, List.isEmpty_iff⟩
  · obtain ⟨room', rfl⟩ := exists_play reported'
    rw [decided, play_gist, same]
  · rw [decided, Session.gist_eq]
  · have counted := (took_finish stamp script settings mode pace room).total
    rw [List.length_map] at counted
    exact counted.symm

/-- A replay in which the waiter gives up, and one without a waiter in which everything happens at
once. -/
theorem run_outcome_of_late_waiter :
    let x : Handle := ⟨"A", "x"⟩
    let y : Handle := ⟨"B", "y"⟩
    let script : Script := [⟨⟨.opened, y⟩, 5⟩, ⟨⟨.opened, x⟩, 0⟩, ⟨⟨.opened, x⟩, 40⟩,
      ⟨⟨.modified, x⟩, 1⟩, ⟨⟨.closed, y⟩, 0⟩]
    let settings : Settings := { barrier := { waitLimit := some 16, capacity := 2 } }
    ∃ late atOnce, run (fun _ => .epoch) script settings ⟨true, true⟩ (fun _ => 1) = some late ∧
      run (fun _ => .epoch) (script.map fun next => { next with delay := 0 }) {} ⟨false, false⟩
        (fun _ => 0) = some atOnce ∧
      late.timedOut ∧ atOnce.timedOut = false ∧ late.gist = atOnce.gist ∧
      late.gist = ⟨5, 4, 1, false, [(x, true)]⟩ := by
  intro x y script settings
  let late := play (fun _ => .epoch) script settings ⟨true, true⟩ (fun _ => 1)
    ⟨2, by decide, by decide⟩
  let atOnce := play (fun _ => .epoch) (script.map fun next => { next with delay := 0 }) {}
    ⟨false, false⟩ (fun _ => 0) ⟨1024, by decide, by decide⟩
  have reported : run (fun _ => .epoch) script settings ⟨true, true⟩ (fun _ => 1) = some late := rfl
  have reported' : run (fun _ => .epoch) (script.map fun next => { next with delay := 0 }) {}
      ⟨false, false⟩ (fun _ => 0) = some atOnce := rfl
  obtain ⟨_, outcome⟩ := run_outcome (fun _ => .epoch) (fun _ => .epoch) script
    (script.map fun next => { next with delay := 0 }) settings {} ⟨true, true⟩ ⟨false, false⟩
    (fun _ => 1) (fun _ => 0) none rfl
  have gist : late.gist = ⟨5, 4, 1, false, [(x, true)]⟩ := by
    unfold late script settings x y
    decide +kernel
  exact ⟨late, atOnce, reported, reported', by decide, by decide,
    (outcome late reported).1 atOnce reported', gist⟩

/-- Settings with a capacity for which there is a queue, and valid settings with one for which there
is none. -/
theorem run_outcome_without_queue :
    let script : Script := [⟨⟨.opened, ⟨"A", "x"⟩⟩, 0⟩, ⟨⟨.closed, ⟨"A", "x"⟩⟩, 0⟩]
    let settings (capacity : Nat) : Settings := { barrier := { capacity } }
    let report (capacity : Nat) : Option Summary :=
      run (fun _ => .epoch) script (settings capacity) ⟨true, false⟩ fun _ => 0
    (settings (mostRoom + 1)).flaw? = none ∧
      (report mostRoom).map Summary.gist = some ⟨2, 2, 0, true, []⟩ ∧
      report (mostRoom + 1) = none := by
  decide +kernel

end Replay

end Quiescence
