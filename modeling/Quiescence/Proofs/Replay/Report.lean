import Quiescence.Proofs.Replay.Remainder
import Quiescence.Proofs.Replay.Verdict

/-! # The text that reports a replay

A summary carries three flags, a list and two numbers that are shown independently of each other.
In the summary of a replay they always fit together: what is shown is decided by what the script
leaves open, by the mode and by the time limit.
-/

namespace Quiescence

namespace Summary

variable {s : Summary} {left : Finset Handle} {since : Handle → Moment}

/-- The entry of a handle that has been open since some moment. -/
def entry (time : Moment → String) (h : Handle) (since : Moment) : String :=
  "  " ++ h.text ++ "  (opened " ++ time since ++ ")\n"

/-- The text of a summary that lists the handles `left`, of which all or none are closed by
force. -/
theorem text_eq (time : Moment → String) (forceClose : Bool)
    (remaining : s.remaining.map Row.handle = left.sort)
    (forced : s.forceClosed = if forceClose then left.card else 0)
    (known : ∀ row ∈ s.remaining, row.openedAt = since row.handle) :
    let entries := left.sort.map fun h => entry time h (since h)
    s.text time =
      "events: " ++ toString s.events ++ "  applied: " ++ toString s.applied
        ++ "  rejected: " ++ toString s.rejected ++ "\nstate: " ++ s.state ++ "\n"
        ++ (if left = ∅ then "" else "still open:\n" ++ String.join entries)
        ++ (if forceClose ∧ left ≠ ∅
            then "force-closed: " ++ toString entries.length ++ "\n" else "") := by
  intro entries
  have listed : s.remaining.map (rowLine time) = entries := by
    simp only [entries, ← remaining, List.map_map]
    refine List.map_congr_left fun row member => ?_
    rw [Function.comp_apply, ← known row member]
    rfl
  have number : entries.length = left.card := by rw [List.length_map, Finset.length_sort]
  have nothing : s.remaining.isEmpty ↔ left = ∅ := by
    have count := congrArg List.length remaining
    rw [List.length_map, Finset.length_sort] at count
    rw [← Finset.card_eq_zero, ← count, List.isEmpty_iff_length_eq_zero]
  have list : (if s.remaining.isEmpty then "" else "still open:\n" ++ String.join entries) =
      if left = ∅ then "" else "still open:\n" ++ String.join entries := by
    by_cases empty : left = ∅
    · rw [if_pos (nothing.mpr empty), if_pos empty]
    · rw [if_neg (nothing.not.mpr empty), if_neg empty]
  have line : (if s.forceClosed = 0 then "" else "force-closed: " ++ toString s.forceClosed ++ "\n")
      = if forceClose ∧ left ≠ ∅
        then "force-closed: " ++ toString entries.length ++ "\n" else "" := by
    rw [forced, number]
    cases forceClose with
    | false => simp
    | true => by_cases empty : left = ∅ <;> simp [empty]
  unfold text
  rw [listed, list, line]

/-- Every handle is listed at most once, so the moment in its row is a function of the handle. -/
theorem exists_since {rows : List Row} (once : (rows.map Row.handle).Nodup) :
    ∃ since : Handle → Moment, ∀ row ∈ rows, row.openedAt = since row.handle := by
  induction rows with
  | nil => exact ⟨fun _ => .epoch, nofun⟩
  | cons row rest ih =>
    obtain ⟨fresh, once⟩ := List.nodup_cons.mp once
    obtain ⟨since, known⟩ := ih once
    refine ⟨Function.update since row.handle row.openedAt, List.forall_mem_cons.mpr ⟨?_, ?_⟩⟩
    · rw [Function.update_self]
    · intro other member
      have different : other.handle ≠ row.handle := by
        intro same
        exact fresh (same ▸ List.mem_map_of_mem member)
      rw [Function.update_of_ne different, known other member]

end Summary

namespace Replay

variable {settings : Settings}

/-- The word for how a replay ends that leaves these handles open. -/
def ending (settings : Settings) (mode : ReplayMode) (left : Finset Handle) : String :=
  if left = ∅ then "quiescent"
  else if mode.wait then
    if settings.barrier.waitLimit.isSome then "timed out" else "stalled"
  else "not quiescent"

/-- The three flags of a summary agree on how the replay has ended. -/
theorem play_state (stamp : Nat → Moment) (script : Script) (mode : ReplayMode)
    (pace : Replay → Nat) (room : Room) (valid : settings.flaw? = none) :
    (play stamp script settings mode pace room).state =
      ending settings mode (Past.leftOpen (script.map Arrival.event)) := by
  have quiescent := (play_leftOpen stamp script settings mode pace room).1
  unfold Summary.state ending
  by_cases empty : Past.leftOpen (script.map Arrival.event) = ∅
  · rw [if_pos (quiescent.mpr empty), if_pos empty]
  rw [if_neg (quiescent.not.mpr empty), if_neg empty]
  cases wait : mode.wait with
  | false =>
    have off : (start settings mode room).watch = .off := if_neg (by simp [wait])
    obtain ⟨timedOut, stalled⟩ :=
      summary_off (arriveAll_off off stamp pace script) script.length mode
    simp [play, timedOut, stalled]
  | true =>
    have inStep := (inStep_arriveAll wait (positive_of_valid valid) stamp pace script room).1
    have filled : script.openAfter script.length ≠ ∅ := by
      intro nothing
      have took := took_finish stamp script settings mode pace room
      refine empty (quiescent.mp (took.records.tallied.isEmpty_rows.trans ?_))
      exact inStep.finish.1.isEmpty_iff.mpr nothing
    cases limit : settings.barrier.waitLimit with
    | none =>
      rw [limit] at inStep
      obtain ⟨timedOut, stalled⟩ := inStep.summary_unlimited script.length mode
      simp [play, timedOut, stalled.mpr filled]
    | some T =>
      rw [limit] at inStep
      have gaveUp : ((start settings mode room).arriveAll stamp pace script).finish.sitOut.watch =
          .gaveUp := by
        rcases inStep.sitOut_cases with ⟨gaveUp, _⟩ | ⟨_, nothing, _⟩
        · exact gaveUp
        · exact absurd nothing filled
      have timedOut := (inStep.summary_limited script.length mode).1.mpr gaveUp
      simp [play, timedOut]

/-- Every row of a replay tells since when its handle is open, and with these moments the text of
its summary is given by the events of the script, by the mode and by the time limit. -/
theorem play_text (stamp : Nat → Moment) (time : Moment → String) (script : Script)
    (mode : ReplayMode) (pace : Replay → Nat) (room : Room) (valid : settings.flaw? = none) :
    let summary := play stamp script settings mode pace room
    let past : Past := script.map Arrival.event
    ∃ since : Handle → Moment, (∀ row ∈ summary.remaining, row.openedAt = since row.handle) ∧
      let entries := past.leftOpen.sort.map fun h => Summary.entry time h (since h)
      summary.text time =
        "events: " ++ toString script.length
          ++ "  applied: " ++ toString (Past.accepted [] past).length
          ++ "  rejected: " ++ toString (script.length - (Past.accepted [] past).length)
          ++ "\nstate: " ++ ending settings mode past.leftOpen ++ "\n"
          ++ (if past.leftOpen = ∅ then "" else "still open:\n" ++ String.join entries)
          ++ (if mode.forceClose ∧ past.leftOpen ≠ ∅
              then "force-closed: " ++ toString past.leftOpen.card ++ "\n" else "") := by
  intro summary past
  obtain ⟨_, remaining, forced⟩ := play_leftOpen stamp script settings mode pace room
  have once : (summary.remaining.map Row.handle).Nodup := by
    rw [show summary.remaining.map Row.handle = _ from remaining]
    exact Finset.sort_nodup _ _
  have gist := play_gist stamp script settings mode pace room
  have applied : summary.applied = (Past.accepted [] past).length := congrArg Gist.applied gist
  have rejected : summary.rejected = past.length - (Past.accepted [] past).length :=
    congrArg Gist.rejected gist
  obtain ⟨since, known⟩ := Summary.exists_since once
  refine ⟨since, known, ?_⟩
  rw [Summary.text_eq time mode.forceClose remaining forced known,
    play_state stamp script mode pace room valid, applied, rejected, List.length_map,
    List.length_map, Finset.length_sort]
  rfl

/-- The text that reports a replay is decided by what the script leaves open, by the mode and by the
time limit: the word for the end, an entry for each handle that is left open, in their order and
with the moment since when it is open, and the number of these entries if they are closed by force.
Every event is counted once, as applied or as rejected. There is such a text unless the replay gets
no queue. -/
theorem text_of_run (stamp : Nat → Moment) (time : Moment → String) (script : Script)
    (settings : Settings) (mode : ReplayMode) (pace : Replay → Nat)
    (valid : settings.flaw? = none) :
    (run stamp script settings mode pace = none ↔ mostRoom < settings.barrier.capacity) ∧
    ∀ summary ∈ run stamp script settings mode pace,
      let past : Past := script.map Arrival.event
      summary.applied = (Past.accepted [] past).length ∧
      summary.applied + summary.rejected = script.length ∧
      ∃ since : Handle → Moment, (∀ row ∈ summary.remaining, row.openedAt = since row.handle) ∧
        let entries := past.leftOpen.sort.map fun h => Summary.entry time h (since h)
        summary.text time =
          "events: " ++ toString script.length ++ "  applied: " ++ toString summary.applied
            ++ "  rejected: " ++ toString summary.rejected
            ++ "\nstate: " ++ ending settings mode past.leftOpen ++ "\n"
            ++ (if past.leftOpen = ∅ then "" else "still open:\n" ++ String.join entries)
            ++ (if mode.forceClose ∧ past.leftOpen ≠ ∅
                then "force-closed: " ++ toString entries.length ++ "\n" else "") := by
  refine ⟨run_eq_none_iff, fun summary reported => ?_⟩
  obtain ⟨room, rfl⟩ := exists_play reported
  set r := ((start settings mode room).arriveAll stamp pace script).finish
  obtain ⟨_, _, applied, total⟩ : r.Took _ := took_finish stamp script settings mode pace room
  rw [List.length_map] at total
  obtain ⟨since, known, text⟩ := play_text stamp time script mode pace room valid
  have rejected : script.length - r.applied = r.rejected := Nat.sub_eq_of_eq_add' total.symm
  refine ⟨applied, total, since, known, ?_⟩
  intro entries
  have number : entries.length = (Past.leftOpen (script.map Arrival.event)).card := by
    rw [List.length_map, Finset.length_sort]
  rw [text, ← applied, rejected, number]
  rfl

/-- A handle is left open that the waiter sees still open at its deadline, and that is closed by
force in the end. One event is rejected. -/
theorem text_of_leaky_run :
    let settings : Settings := { barrier := { waitLimit := some 16 } }
    let script : Script := [⟨⟨.opened, ⟨"B", "y"⟩⟩, 0⟩, ⟨⟨.opened, ⟨"A", "x"⟩⟩, 5⟩,
      ⟨⟨.closed, ⟨"B", "y"⟩⟩, 1⟩, ⟨⟨.closed, ⟨"B", "y"⟩⟩, 0⟩]
    (run (fun _ => .epoch) script settings ⟨true, true⟩ fun _ => 0).map
        (Summary.text fun _ => "today") =
      some ("events: 4  applied: 3  rejected: 1\nstate: timed out\n"
        ++ "still open:\n  A/x  (opened today)\nforce-closed: 1\n") := by
  intro settings script
  let summary := play (fun _ => .epoch) script settings ⟨true, true⟩ (fun _ => 0)
    ⟨1024, by decide, by decide⟩
  have reported : run (fun _ => .epoch) script settings ⟨true, true⟩ (fun _ => 0) =
      some summary := rfl
  obtain ⟨_, texts⟩ := text_of_run (fun _ => .epoch) (fun _ => "today") script
    settings ⟨true, true⟩ (fun _ => 0) (by decide)
  obtain ⟨applied, total, since, _, text⟩ := texts summary reported
  have left : Past.leftOpen (script.map Arrival.event) = {⟨"A", "x"⟩} := by decide
  have accepted : (Past.accepted [] (script.map Arrival.event)).length = 3 := by decide
  have rejected : summary.rejected = 1 := by
    have length : script.length = 4 := rfl
    omega
  rw [reported, Option.map_some, text, left, applied, accepted, rejected]
  simp only [Finset.sort_singleton, List.map_singleton, Summary.entry]
  decide

end Replay

end Quiescence
