import Quiescence.Command.Line
import Quiescence.LogFilter
import Quiescence.Replay

/-! # Running a command

What a command prints and how it ends, given what it finds in its surroundings. The replay command
takes its settings from a file, or the defaults if there is no such file, prints the summary of the
replay, and fails after that if something was left open. Completions are printed as they are
generated from the command line elsewhere.
-/

namespace Quiescence.Command

/-- What a command finds in its surroundings. -/
structure Surroundings where
  /-- What is found under the name of a file. -/
  stored : String → Stored
  /-- The log filter of the environment. -/
  logFilter : Option String
  /-- The moment at which the clock of a replay shows a time. -/
  stamp : Nat → Moment
  /-- The script that completes the command line in a shell. -/
  completions : Shell → String

/-- How times are written in a text and in JSON. -/
structure TimeStyle where
  text : Moment → String
  json : Moment → String

/-- Times of day in a text, and RFC 3339 in JSON. -/
def TimeStyle.standard : TimeStyle := ⟨Moment.clockText, Moment.toRfc3339⟩

/-- Why a command failed. -/
inductive Failure where
  | badSettings (file : String)
  | flawedLimit (flaw : SettingsFlaw)
  | badLogFilter (fault : LogFilter.Fault)
  | badScript (file : String) (failure : Script.Failure)
  /-- The replay panicked, because there can be no queue of the capacity that is set. -/
  | noQueue
  | leftOpen (count : Nat)
deriving DecidableEq

/-- What is said about a failure; of a file that cannot be used, only that. -/
def Failure.message : Failure → String
  | badSettings file => "Failed to load config " ++ file
  | flawedLimit flaw => flaw.message
  | badLogFilter fault => fault.message
  | badScript file failure => failure.context file
  | noQueue => Room.panicMessage
  | leftOpen count => toString count ++ " resource(s) still open"

/-- What is written of a failure when the command has ended. -/
def Failure.report : Failure → String
  | noQueue => "thread 'main' panicked:\n" ++ noQueue.message
  | failure => "Error: " ++ failure.message

/-- The exit code of a command that failed. A panic has its own. -/
def Failure.exitCode : Failure → Nat
  | noQueue => 101
  | _ => 1

/-- How a command ended. -/
structure Ending where
  /-- What was printed. -/
  output : String
  /-- Whether it was logged that there is no settings file. -/
  warned : Bool
  failure : Option Failure
deriving DecidableEq

/-- The end of a command that failed before it printed anything. -/
def Ending.failed (warned : Bool) (failure : Failure) : Ending := ⟨"", warned, some failure⟩

/-- The exit code of a command that was run. -/
def Ending.exitCode (e : Ending) : Nat := e.failure.elim 0 Failure.exitCode

/-- The settings of a replay: those of the file, or the defaults if there is none, with the limit of
the request. The file must be sound even if its limit is replaced. -/
def settingsFor (r : ReplayRequest) (s : Surroundings) : Except Failure Settings := do
  let stored := s.stored r.config
  let settings ←
    if stored.isThere then
      match Settings.ofFile stored with
      | .ok settings => Except.ok settings
      | .error _ => .error (.badSettings r.config)
    else .ok {}
  (settings.relimit r.limit).mapError .flawedLimit

/-- What is printed of a summary. -/
def printed (style : TimeStyle) (json : Bool) (summary : Summary) : String :=
  if json then (summary.toJson style.json).pretty ++ "\n" else summary.text style.text

/-- Runs the replay command. -/
def replay (style : TimeStyle) (s : Surroundings) (r : ReplayRequest) : Ending :=
  match settingsFor r s with
  | .error failure => .failed false failure
  | .ok settings =>
    match LogFilter.unusable? s.logFilter settings.logging.level with
    | some fault => .failed false (.badLogFilter fault)
    | none =>
      let warned := !(s.stored r.config).isThere
      match Script.ofFile (s.stored r.script) with
      | .error failure => .failed warned (.badScript r.script failure)
      | .ok script =>
        match Replay.run s.stamp script settings ⟨!r.noWait, r.forceClose⟩ with
        | none => .failed warned .noQueue
        | some summary =>
          { output := printed style r.json summary
            warned
            failure :=
              if summary.quiescent then none else some (.leftOpen summary.remaining.length) }

/-- Runs a command. -/
def run (style : TimeStyle) (s : Surroundings) : Request → Ending
  | .replay r => replay style s r
  | .completions shell => ⟨s.completions shell, false, none⟩

end Quiescence.Command
