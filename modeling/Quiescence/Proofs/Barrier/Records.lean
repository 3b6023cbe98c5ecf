import Quiescence.Proofs.Barrier.Delivery
import Quiescence.Proofs.Barrier.Effects
import Quiescence.Proofs.Event.Past
import Quiescence.Proofs.Ledger.Roll

/-! # The ledger records what the events decide

However events reach a barrier, its ledger knows of every handle what the events so far say of it,
and it accepts the next event exactly if they let it. A panicking observer makes no difference to
this: it takes away the answer and the events behind it, but not what has been recorded.
-/

namespace Quiescence

/-- The roll that some events leave. -/
def Past.roll (past : Past) : Roll where
  opened := (past.map Event.handle).toFinset.filter fun h => past.isOpen h
  modified := (past.map Event.handle).toFinset.filter fun h => past.isMarked h
  modified_subset := Finset.monotone_filter_right _ fun _ _ => Past.isOpen_of_isMarked

namespace Past

variable {past first second : Past} {h : Handle}

theorem mem_roll_opened : h ∈ past.roll.opened ↔ past.isOpen h := by
  rw [roll, Finset.mem_filter, List.mem_toFinset]
  exact and_iff_right_of_imp mem_of_isOpen

theorem mem_roll_modified : h ∈ past.roll.modified ↔ past.isMarked h := by
  rw [roll, Finset.mem_filter, List.mem_toFinset]
  exact and_iff_right_of_imp fun marked => mem_of_isOpen (isOpen_of_isMarked marked)

/-- Events that say the same of every handle leave the same roll. -/
theorem roll_congr (same : ∀ h, first.standing h = second.standing h) :
    first.roll = second.roll := by
  have opened : first.roll.opened = second.roll.opened := by
    ext h
    rw [mem_roll_opened, mem_roll_opened, ← isSome_standing, same, isSome_standing]
  have modified : first.roll.modified = second.roll.modified := by
    ext h
    rw [mem_roll_modified, mem_roll_modified, ← standing_eq_true, same, standing_eq_true]
  exact Roll.ext opened modified

end Past

namespace Ledger

variable {ledger next : Ledger} {past : Past} {now : Moment} {h : Handle}

/-- The ledger knows of every handle what some events say of it. -/
structure Records (ledger : Ledger) (past : Past) : Prop where
  tallied : ledger.Tallied
  standing : ∀ h, (ledger.entry? h).map (·.modifiedAt.isSome) = past.standing h
  count : ledger.count + (Past.accepted [] past).countP (·.kind = .closed) =
    (Past.accepted [] past).countP (·.kind = .opened)

theorem records_empty : empty.Records [] where
  tallied := tallied_empty
  standing _ := rfl
  count := rfl

namespace Records

theorem contains_eq (records : ledger.Records past) (h : Handle) :
    ledger.contains h = past.isOpen h := by
  have same := congrArg Option.isSome (records.standing h)
  rw [Option.isSome_map] at same
  rw [contains, same, Past.standing]
  cases past.isOpen h <;> rfl

theorem isMarked_iff (records : ledger.Records past) (h : Handle) :
    past.isMarked h ↔ ∃ entry, ledger.entry? h = some entry ∧ entry.modifiedAt.isSome := by
  rw [← Past.standing_eq_true, ← records.standing, Option.map_eq_some_iff]

theorem depicts (records : ledger.Records past) : ledger.Depicts past.roll where
  tallied := records.tallied
  opened h := by
    rw [records.contains_eq, Past.mem_roll_opened]
  modified h := by
    rw [← records.isMarked_iff, Past.mem_roll_modified]

/-- A ledger that an event has left as it was, or changed as its kind says, records it. -/
theorem concat (records : ledger.Records past) {event : Event} (tallied : next.Tallied)
    (own : (next.entry? event.handle).map (·.modifiedAt.isSome) =
      Past.standing (past ++ [event]) event.handle)
    (others : ∀ h ≠ event.handle, next.entry? h = ledger.entry? h)
    (count : next.count + (if past.fault? event = none ∧ event.kind = .closed then 1 else 0) =
      ledger.count + if past.fault? event = none ∧ event.kind = .opened then 1 else 0) :
    next.Records (past ++ [event]) where
  tallied
  standing h := by
    by_cases same : h = event.handle
    · rw [same, own]
    · rw [others h same, records.standing, Past.standing_concat, if_neg (Ne.symm same)]
  count := by
    have before := records.count
    rw [Past.accepted_append, List.nil_append, List.countP_append, List.countP_append]
    cases verdict : past.fault? event <;> cases kind : event.kind <;>
      simp_all [Past.accepted] <;> omega

/-- A refused event changes nothing, also in the eyes of what the events say. -/
theorem refused (records : ledger.Records past) {event : Event} {fault : Fault}
    (verdict : past.fault? event = some fault) : ledger.Records (past ++ [event]) := by
  refine records.concat records.tallied ?_ (fun _ _ => rfl) (by simp [verdict])
  rw [records.standing, Past.standing_concat, if_pos rfl]
  obtain ⟨kind, h⟩ := event
  unfold Past.fault? at verdict
  unfold Past.standing
  cases shut : past.isOpen h <;> cases kind <;> simp [shut] at verdict ⊢

theorem add (records : ledger.Records past) (added : ledger.add now h = .ok next) :
    next.Records (past ++ [⟨.opened, h⟩]) := by
  have shut : past.isOpen h = false := by
    rw [← records.contains_eq]
    exact Bool.eq_false_iff.mpr fun present =>
      (records.tallied.opened_add added).1 ((records.tallied.mem_opened_iff h).mpr present)
  refine records.concat (records.tallied.add added) ?_ (fun k other => ?_) ?_
  · rw [entry?_add added, if_pos rfl, Past.standing_concat, if_pos rfl, Past.standing, shut]
    rfl
  · rw [entry?_add added, if_neg other]
  · simp [count_add added, Past.fault?, shut]

theorem remove (records : ledger.Records past) (removed : ledger.remove h = .ok next) :
    next.Records (past ++ [⟨.closed, h⟩]) := by
  have present : past.isOpen h := by
    rw [← records.contains_eq, ← records.tallied.mem_opened_iff]
    exact (records.tallied.opened_remove removed).1
  refine records.concat (records.tallied.remove removed) ?_ (fun k other => ?_) ?_
  · rw [entry?_remove removed, if_pos rfl, Past.standing_concat, if_pos rfl]
    rfl
  · rw [entry?_remove removed, if_neg other]
  · simp [records.tallied.count_remove removed, Past.fault?, present]

theorem mark (records : ledger.Records past) (marked : ledger.mark now h = .ok next) :
    next.Records (past ++ [⟨.modified, h⟩]) := by
  refine records.concat (records.tallied.mark marked) ?_ (fun k other => ?_) ?_
  · rw [entry?_mark marked, if_pos rfl, Past.standing_concat, if_pos rfl, ← records.standing,
      Option.map_map, Option.map_map]
    rfl
  · rw [entry?_mark marked, if_neg other]
  · simp [count_mark marked]

end Records

/-- A ledger in which nothing is open records that nothing has happened. -/
theorem Tallied.records_of_closed (tallied : ledger.Tallied)
    (closed : ∀ h, ledger.contains h = false) : ledger.Records [] where
  tallied
  standing h := by
    rw [Option.not_isSome_iff_eq_none.mp (Bool.eq_false_iff.mp (closed h))]
    rfl
  count := by
    have empty : ledger.opened = ∅ := Finset.eq_empty_of_forall_notMem fun h member =>
      Bool.eq_false_iff.mp (closed h) ((tallied.mem_opened_iff h).mp member)
    rw [← tallied.card_opened, empty]
    rfl

/-- What is known of one more handle could have been reported by one or two events. -/
theorem Records.restore (records : next.Records past) (tallied : ledger.Tallied)
    (removed : ledger.remove h = .ok next) : ∃ later, ledger.Records (past ++ later) := by
  have absent : next.contains h = false := Bool.eq_false_iff.mpr fun present =>
    ((contains_remove removed h).mp present).2 rfl
  obtain ⟨opened, added⟩ :=
    ((add_cases Moment.epoch h next).resolve_left (by simp [absent])).2
  have count : ledger.count = opened.count := by
    rw [count_add added, tallied.count_remove removed]
  have others (k : Handle) (other : k ≠ h) : ledger.entry? k = opened.entry? k := by
    rw [entry?_add added, if_neg other, entry?_remove removed, if_neg other]
  have own : opened.entry? h = some ⟨Moment.epoch, none⟩ := by
    rw [entry?_add added, if_pos rfl]
  have known := records.add added
  have present : ledger.contains h :=
    (tallied.mem_opened_iff h).mp (tallied.opened_remove removed).1
  obtain ⟨entry, found⟩ := contains_iff.mp present
  cases marked : entry.modifiedAt.isSome with
  | false =>
    refine ⟨[⟨.opened, h⟩], tallied, fun k => ?_, ?_⟩
    · by_cases same : k = h
      · rw [same, ← known.standing, found, own, Option.map_some, marked]
        rfl
      · rw [others k same, known.standing]
    · rw [count, known.count]
  | true =>
    refine ⟨[⟨.opened, h⟩, ⟨.modified, h⟩], ?_⟩
    rw [← List.singleton_append, ← List.append_assoc]
    refine known.concat tallied ?_ others (by simp [count])
    rw [Past.standing_concat, if_pos rfl, ← known.standing, own, found, Option.map_some, marked]
    rfl

/-- What a ledger knows could have been reported by some events. -/
theorem Tallied.exists_records (tallied : ledger.Tallied) : ∃ past, ledger.Records past := by
  induction count : ledger.count using Nat.strong_induction_on generalizing ledger with
  | _ count' fewer =>
    by_cases filled : ∃ h, ledger.contains h
    · obtain ⟨h, present⟩ := filled
      obtain ⟨next, removed⟩ := ((remove_cases h ledger).resolve_left (by simp [present])).2
      have smaller := tallied.count_remove removed
      obtain ⟨past, records⟩ := fewer next.count (by omega) (tallied.remove removed) rfl
      obtain ⟨later, restored⟩ := records.restore tallied removed
      exact ⟨past ++ later, restored⟩
    · exact ⟨[], tallied.records_of_closed fun h => by simpa using not_exists.mp filled h⟩

end Ledger

/-! ## Events that reach a barrier -/

variable {past : Past}

namespace Gate

variable {g : Gate}

/-- The gate refuses an event for the reason that the events so far give, or it accepts it. -/
theorem apply_records (records : g.ledger.Records past) (now : Moment) (event : Event) :
    (∃ fault, past.fault? event = some fault ∧ g.apply now event = .error fault) ∨
    (past.fault? event = none ∧ ∃ next effects, g.apply now event = .ok (next, effects) ∧
      next.ledger.Records (past ++ [event])) := by
  obtain ⟨kind, h⟩ := event
  have known := records.contains_eq h
  cases kind with
  | opened =>
    rcases Ledger.add_cases now h g.ledger with ⟨present, refused⟩ | ⟨absent, next, added⟩
    · refine .inl ⟨.alreadyOpen h, ?_, ?_⟩
      · simp [Past.fault?, ← known, present]
      · simp [apply, refused, bind, Except.bind]
    · refine .inr ⟨?_, { g with ledger := next }, [.tell (.opened h)], ?_,
        records.add added⟩
      · simp [Past.fault?, ← known, absent]
      · simp only [apply, added]
        rfl
  | closed =>
    rcases Ledger.remove_cases h g.ledger with ⟨absent, refused⟩ | ⟨present, next, removed⟩
    · refine .inl ⟨.notOpen h, ?_, ?_⟩
      · simp [Past.fault?, ← known, absent]
      · simp [apply, refused, bind, Except.bind]
    · refine .inr ⟨?_, g.settle next, closing g (g.settle next) [h], ?_, ?_⟩
      · simp [Past.fault?, ← known, present]
      · simp only [apply, removed]
        rfl
      · rw [settle_ledger]
        exact records.remove removed
  | modified =>
    rcases Ledger.mark_cases now h g.ledger with ⟨absent, refused⟩ | ⟨present, next, marked⟩
    · refine .inl ⟨.notOpen h, ?_, ?_⟩
      · simp [Past.fault?, ← known, absent]
      · simp [apply, refused, bind, Except.bind]
    · refine .inr ⟨?_, { g with ledger := next }, [.tell (.modified h)], ?_,
        records.mark marked⟩
      · simp [Past.fault?, ← known, present]
      · simp only [apply, marked]
        rfl

end Gate

namespace Barrier

variable {b : Barrier}

/-- The barrier records the event, and its answer is the one that the events so far give, unless an
observer panics. -/
theorem apply_records (records : b.gate.ledger.Records past) (now : Moment) (event : Event) :
    let outcome := b.apply now event
    outcome.barrier.gate.ledger.Records (past ++ [event]) ∧
      match past.fault? event with
      | some fault => outcome = ⟨b, [], .refused fault⟩
      | none => outcome.reply = .done () ∨ ∃ observer, outcome.reply = .panicked observer := by
  rcases Gate.apply_records records now event with
    ⟨fault, verdict, refused⟩ | ⟨verdict, next, effects, applied, recorded⟩
  · simp only [apply, refused, verdict]
    exact ⟨records.refused verdict, trivial⟩
  · simp only [apply, applied, verdict]
    constructor
    · rcases perform_gate () effects { b with gate := next } with same | signalled
      · rwa [same]
      · rwa [signalled]
    · exact perform_reply () effects { b with gate := next }

/-- Unless an observer panics, a queue delivers all its events and counts the accepted ones. -/
theorem drainQueue_records (records : b.gate.ledger.Records past) {now : Moment}
    {events : List Event} {report : FeedReport}
    (calm : ∀ observer, (b.drainQueue now events report).reply ≠ .panicked observer) :
    b.arriving now events = events ∧
    (b.drainQueue now events report).barrier.gate.ledger.Records (past ++ events) ∧
    ∃ counted, (b.drainQueue now events report).reply = .done counted ∧
      counted.applied = report.applied + (past.accepted events).length ∧
      counted.applied + counted.rejected = report.applied + report.rejected + events.length := by
  induction events generalizing past report b with
  | nil => exact ⟨rfl, by rwa [List.append_nil], report, rfl, rfl, rfl⟩
  | cons event rest ih =>
    obtain ⟨recorded, answer⟩ := apply_records records now event
    rw [← List.singleton_append, ← List.append_assoc]
    simp only [drainQueue, arriving, Past.accepted, List.singleton_append] at calm ⊢
    cases verdict : past.fault? event with
    | some fault =>
      simp only [verdict] at answer
      simp only [answer] at calm recorded ⊢
      obtain ⟨arrive, later, counted, done, applied, total⟩ := ih recorded calm
      refine ⟨congrArg (event :: ·) arrive, later, counted, done, ?_, ?_⟩
      · simpa using applied
      · simp only [List.length_cons] at total ⊢
        omega
    | none =>
      simp only [verdict] at answer
      rcases answer with reply | ⟨observer, reply⟩
      · simp only [reply] at calm ⊢
        obtain ⟨arrive, later, counted, done, applied, total⟩ := ih recorded calm
        refine ⟨congrArg (event :: ·) arrive, later, counted, done, ?_, ?_⟩
        · rw [applied]
          simp only [if_true, List.length_append, List.length_singleton]
          omega
        · simp only [List.length_cons] at total ⊢
          omega
      · simp only [reply] at calm
        exact absurd rfl (calm observer)

end Barrier

end Quiescence
