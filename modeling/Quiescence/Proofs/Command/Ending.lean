import Quiescence.Proofs.Command.Configuration
import Quiescence.Proofs.Replay.Rendering
import Quiescence.Proofs.Replay.Report

/-! # How the replay command ends

Once it has its settings and its script, the replay command prints the summary, unless the settings
ask for a queue that cannot be made. Whether it succeeds after that is decided by the script alone:
by the handles that the script opens later than it closes them. It does not matter whether anybody
waited for them, whether the waiter gave up, or whether they were closed by force in the end.
-/

namespace Quiescence

namespace Command

section Once

variable {style : TimeStyle} {s : Surroundings} {r : ReplayRequest} {settings : Settings}
  {script : Script}

/-- Nothing is printed of a replay that gets no queue. -/
theorem run_replay_of_none (configured : settingsFor r s = .ok settings)
    (logged : LogFilter.unusable? s.logFilter settings.logging.level = none)
    (parsed : Script.ofFile (s.stored r.script) = .ok script)
    (none : Replay.run s.stamp script settings ⟨!r.noWait, r.forceClose⟩ = none) :
    run style s (.replay r) = .failed (!(s.stored r.config).isThere) .noQueue := by
  simp only [run, replay, configured, logged, parsed, none]

/-- A summary is printed, whatever it says. -/
theorem run_replay_of_some (configured : settingsFor r s = .ok settings)
    (logged : LogFilter.unusable? s.logFilter settings.logging.level = none)
    (parsed : Script.ofFile (s.stored r.script) = .ok script) {summary : Summary}
    (reported : Replay.run s.stamp script settings ⟨!r.noWait, r.forceClose⟩ = some summary) :
    run style s (.replay r) = ⟨printed style r.json summary, !(s.stored r.config).isThere,
      if summary.quiescent then none else some (.leftOpen summary.remaining.length)⟩ := by
  simp only [run, replay, configured, logged, parsed, reported]

theorem flaw?_of_settingsFor (given : settingsFor r s = .ok settings) : settings.flaw? = none :=
  Settings.flaw?_eq_none_iff.mpr (((configured r s).accepted settings).mp given).1

end Once

/-! ## What is printed -/

section Printed

variable (style : TimeStyle) (stamp : Nat → Moment) (script : Script) (settings : Settings)
  (mode : ReplayMode) (room : Room)

/-- In JSON, the summary of a replay is printed as a document and the end of its line. -/
theorem printed_json (rfc : style.json = Moment.toRfc3339) (few : script.length < 2 ^ 64) :
    let summary := Replay.play stamp script settings mode (fun _ => 0) room
    ∃ text, printed style true summary = text ++ "\n" ∧ summary.RenderedBy text := by
  intro summary
  have counts : ∀ n ∈ [summary.events, summary.applied, summary.rejected, summary.forceClosed],
      n < 2 ^ 64 := fun n counted => Nat.lt_of_le_of_lt
    (Replay.play_counts_le stamp script settings mode (fun _ => 0) room n counted) few
  refine ⟨(summary.toJson Moment.toRfc3339).pretty, ?_, ?_⟩
  · rw [printed, if_pos rfl, rfc]
  · exact {
      wellFormed := Json.Value.spelledBy_pretty _
      tokens := Json.Written.tokens (Json.Value.spelledBy_pretty _)
      decoded := summary.decoded_pretty counts
      stripped := Json.Value.strip_pretty _ }

end Printed

/-- The replay command panics and prints nothing if the capacity in its settings is too large for a
queue. Otherwise it prints the summary, as a text or as a JSON document, and then fails exactly if
some handle of the script is opened later than closed, and it says how many such handles there are.
How far the waiter gets while the events arrive makes no difference to this. -/
theorem replay_succeeds_iff_closed (style : TimeStyle) (s : Surroundings) (r : ReplayRequest)
    {settings : Settings} {script : Script} (configured : settingsFor r s = .ok settings)
    (logged : LogFilter.unusable? s.logFilter settings.logging.level = none)
    (parsed : Script.ofFile (s.stored r.script) = .ok script) :
    let past : Past := script.map Arrival.event
    let mode : ReplayMode := ⟨!r.noWait, r.forceClose⟩
    let ending := run style s (.replay r)
    (mostRoom < settings.barrier.capacity →
      ending.output = "" ∧ ending.failure = some .noQueue ∧ ending.exitCode = 101) ∧
    (settings.barrier.capacity ≤ mostRoom →
      (ending.exitCode = 0 ↔
        ∀ h ∈ past.map Event.handle, past.latest? h = some .closed ∨ past.latest? h = none) ∧
      ending.failure = (if past.leftOpen = ∅ then none else some (.leftOpen past.leftOpen.card)) ∧
      (∀ pace, ∀ summary ∈ Replay.run s.stamp script settings mode pace,
        summary.gist = past.gist ∧ summary.remaining.map Row.handle = past.leftOpen.sort ∧
          summary.forceClosed = if r.forceClose then past.leftOpen.card else 0) ∧
      ∃ summary ∈ Replay.run s.stamp script settings mode,
        (r.json → style.json = Moment.toRfc3339 → script.length < 2 ^ 64 →
          ∃ text, ending.output = text ++ "\n" ∧ summary.RenderedBy text) ∧
        (r.json = false →
          ∃ since : Handle → Moment,
            (∀ row ∈ summary.remaining, row.openedAt = since row.handle) ∧
            let entries := past.leftOpen.sort.map fun h =>
              "  " ++ h.text ++ "  (opened " ++ style.text (since h) ++ ")\n"
            ending.output =
              "events: " ++ toString script.length
                ++ "  applied: " ++ toString (Past.accepted [] past).length
                ++ "  rejected: " ++ toString (script.length - (Past.accepted [] past).length)
                ++ "\nstate: " ++ Replay.ending settings mode past.leftOpen ++ "\n"
                ++ (if past.leftOpen = ∅ then "" else "still open:\n" ++ String.join entries)
                ++ (if r.forceClose ∧ past.leftOpen ≠ ∅
                    then "force-closed: " ++ toString past.leftOpen.card ++ "\n" else ""))) := by
  intro past mode ending
  refine ⟨fun large => ?_, fun fits => ?_⟩
  · have none : Replay.run s.stamp script settings mode = none :=
      Replay.run_eq_none_iff.mpr large
    have ends : ending = _ := run_replay_of_none configured logged parsed none
    exact ⟨congrArg Ending.output ends, congrArg Ending.failure ends,
      congrArg Ending.exitCode ends⟩
  have gets : Replay.run s.stamp script settings mode ≠ none :=
    fun none => absurd (Replay.run_eq_none_iff.mp none) (Nat.not_lt.mpr fits)
  obtain ⟨summary, reported⟩ := Option.ne_none_iff_exists'.mp gets
  obtain ⟨room, rfl⟩ := Replay.exists_play reported
  have ends : ending = _ := run_replay_of_some configured logged parsed reported
  have failure :
      ending.failure = if past.leftOpen = ∅ then none else some (.leftOpen past.leftOpen.card) := by
    obtain ⟨quiescent, remaining, _⟩ :=
      Replay.play_leftOpen s.stamp script settings mode (fun _ => 0) room
    have count := congrArg List.length remaining
    rw [List.length_map, Finset.length_sort] at count
    rw [ends]
    simp only [quiescent, count, past]
  refine ⟨?_, failure, fun pace summary reported => ?_, _, reported, ?_, ?_⟩
  · rw [← Past.leftOpen_eq_empty_iff, Ending.exitCode, failure]
    by_cases shut : past.leftOpen = ∅
    · simp [shut]
    · simp [shut, Failure.exitCode]
  · obtain ⟨room, rfl⟩ := Replay.exists_play reported
    obtain ⟨_, remaining, forceClosed⟩ :=
      Replay.play_leftOpen s.stamp script settings mode pace room
    exact ⟨Replay.play_gist s.stamp script settings mode pace room, remaining, forceClosed⟩
  · intro json rfc few
    rw [ends, json]
    exact printed_json style s.stamp script settings mode room rfc few
  · intro text
    rw [ends, text]
    exact Replay.play_text s.stamp style.text script mode (fun _ => 0) room
      (flaw?_of_settingsFor configured)

/-- The waiter gives up before the last handle is closed, and the command succeeds. A handle is left
open and then closed by force, and the command fails after it has printed a document. -/
theorem replay_of_two_scripts :
    let late : ReplayRequest := ⟨"late", "settings", some 16, false, false, false⟩
    let left : ReplayRequest := ⟨"left", "settings", none, false, true, true⟩
    let s : Surroundings :=
      { stored := fun name =>
          if name = "settings" then .file "barrier = [99, 1]".toUTF8
          else if name = "late" then
            .file "events = [['opened', 'A', 'x'], ['closed', 'A', 'x', 40]]".toUTF8
          else .file
            "events = [['opened', 'A', 'x'], ['opened', 'B', 'y'], ['closed', 'B', 'y']]".toUTF8
        logFilter := none
        stamp := fun _ => .epoch
        completions := fun _ => "" }
    (∃ settings script, settingsFor late s = .ok settings ∧
      Script.ofFile (s.stored "late") = .ok script ∧
      (Replay.run s.stamp script settings ⟨true, false⟩).map Summary.timedOut = some true) ∧
    (run .standard s (.replay late)).exitCode = 0 ∧
    (run .standard s (.replay late)).output =
      "events: 2  applied: 2  rejected: 0\nstate: quiescent\n" ∧
    (run .standard s (.replay left)).exitCode = 1 ∧
    (run .standard s (.replay left)).failure = some (.leftOpen 1) ∧
    ∃ (summary : Summary) (text : String), (run .standard s (.replay left)).output = text ++ "\n" ∧
      summary.RenderedBy text ∧ summary.remaining.map Row.handle = [⟨"A", "x"⟩] ∧
      summary.forceClosed = 1 := by
  intro late left s
  have configured : settingsFor late s =
      .ok { barrier := { waitLimit := some 16, capacity := 1 } } := by decide +kernel
  have configured' : settingsFor left s =
      .ok { barrier := { waitLimit := some 99, capacity := 1 } } := by decide +kernel
  have logged : LogFilter.unusable? none "info" = none := by decide +kernel
  let closing : Script := [⟨⟨.opened, ⟨"A", "x"⟩⟩, 0⟩, ⟨⟨.closed, ⟨"A", "x"⟩⟩, 40⟩]
  have parsed : Script.ofFile (s.stored "late") = .ok closing := by decide +kernel
  let leaky : Script := [⟨⟨.opened, ⟨"A", "x"⟩⟩, 0⟩, ⟨⟨.opened, ⟨"B", "y"⟩⟩, 0⟩,
    ⟨⟨.closed, ⟨"B", "y"⟩⟩, 0⟩]
  have parsed' : Script.ofFile (s.stored "left") = .ok leaky := by decide +kernel
  have open_x : Past.leftOpen (leaky.map Arrival.event) = {⟨"A", "x"⟩} := by decide
  obtain ⟨succeeds, _, _, _, _, _, text⟩ :=
    (replay_succeeds_iff_closed .standard s late configured logged parsed).2 (by decide)
  obtain ⟨_, _, printed⟩ := text rfl
  have shut : Past.leftOpen (closing.map Arrival.event) = ∅ := by decide
  have accepted : (Past.accepted [] (closing.map Arrival.event)).length = 2 := by decide
  obtain ⟨_, failure, decided, summary, reported, json, _⟩ :=
    (replay_succeeds_iff_closed .standard s left configured' logged parsed').2 (by decide)
  obtain ⟨text, printed', rendered⟩ := json rfl rfl (by decide)
  obtain ⟨_, remaining, forced⟩ := decided _ summary reported
  have failure : (run .standard s (.replay left)).failure = some (.leftOpen 1) := by
    rw [failure, open_x]
    rfl
  refine ⟨⟨_, _, configured, parsed, by decide⟩, succeeds.mpr (by decide), ?_, ?_, failure,
    summary, text, printed', rendered, ?_, ?_⟩
  · rw [printed, shut, accepted, if_pos rfl]
    decide
  · rw [Ending.exitCode, failure]
    rfl
  · rw [remaining, open_x, Finset.sort_singleton]
  · rw [forced, open_x]
    rfl

/-- The settings are valid and everything is closed in the end, but with one more than the largest
capacity for which there is a queue the command panics and prints nothing. -/
theorem replay_without_queue :
    let r : ReplayRequest := ⟨"script", "settings", none, false, false, false⟩
    let s (capacity : String) : Surroundings :=
      { stored := fun name =>
          if name = "settings" then .file ("barrier = [99, " ++ capacity ++ "]").toUTF8
          else .file "events = [['opened', 'A', 'x'], ['closed', 'A', 'x']]".toUTF8
        logFilter := none
        stamp := fun _ => .epoch
        completions := fun _ => "" }
    run .standard (s "2305843009213693951") (.replay r) =
        ⟨"events: 2  applied: 2  rejected: 0\nstate: quiescent\n", false, none⟩ ∧
      run .standard (s "2305843009213693952") (.replay r) = ⟨"", false, some .noQueue⟩ ∧
      (run .standard (s "2305843009213693952") (.replay r)).exitCode = 101 := by
  decide +kernel

end Command

end Quiescence
