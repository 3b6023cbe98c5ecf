import Quiescence.Command.Run
import Std.Time.DateTime.Timestamp

/-! # The command

Reads the command line and the files it names, runs the command, and prints what it has to say.
Replays run on a clock of their own, so none of their delays are waited for. The completions are a
list of words for each shell and do not know which of them can come next.
-/

open Quiescence

/-- What is found under a name in the file system. -/
def findStored (name : String) : IO Stored := do
  try
    return .file (← IO.FS.readBinFile name)
  catch
    | .noFileOrDirectory .. => return .nothing
    | _ => return .directory

/-- What stands before the reason in the report of a bad command line. -/
def lineFaultText : Command.LineFault → String
  | .help => "Usage: quiesce <replay|completions> [ARGUMENTS]"
  | .noCommand => "no command was given"
  | .unknownCommand => "unknown command"
  | .unknownArgument => "unknown argument"
  | .missingArgument => "an argument is missing"
  | .badValue => "a value is missing or not possible"
  | .notNumber => "a value is not a number"
  | .repeated => "an option was given twice"
  | .needlessValue => "an option takes no value"

/-- A script that offers the words of the command line in a shell, wherever they may stand. -/
def completionScript (shell : Command.Shell) : String :=
  let words := " ".intercalate (Command.commandNames ++
    ["--config", "--timeout-ms", "--no-wait", "--force-close", "--json", "--help"])
  match shell with
  | .bash => "complete -W '" ++ words ++ "' quiesce\n"
  | .zsh => "compdef '_arguments \"*:word:(" ++ words ++ ")\"' quiesce\n"
  | .fish => "complete -c quiesce -a '" ++ words ++ "'\n"
  | .elvish =>
    "set edit:completion:arg-completer[quiesce] = \x7b|@args| put " ++ words ++ " \x7d\n"
  | .powershell =>
    "Register-ArgumentCompleter -Native -CommandName 'quiesce' -ScriptBlock \x7b '" ++ words
      ++ "' -split ' ' \x7d\n"

/-- Runs the command that the command line asks for. -/
def main (args : List String) : IO UInt32 := do
  match Command.parse args with
  | .error fault =>
    if fault = .help then IO.println (lineFaultText fault)
    else IO.eprintln ("error: " ++ lineFaultText fault)
    return fault.exitCode.toUInt32
  | .ok request =>
    let files ← match request with
      | .completions _ => pure []
      | .replay r => [r.config, r.script].mapM fun name => do return (name, ← findStored name)
    let began ← Std.Time.Timestamp.now
    let surroundings : Command.Surroundings :=
      { stored := fun name => (files.lookup name).getD .nothing
        logFilter := ← IO.getEnv "RUST_LOG"
        stamp := ((Moment.ofNanos? began.toNanosecondsSinceUnixEpoch.val).getD .epoch).after
        completions := completionScript }
    let ending := Command.run .standard surroundings request
    if ending.warned then IO.eprintln "Config file not found, using defaults"
    IO.print ending.output
    match ending.failure with
    | some failure => IO.eprintln failure.report
    | none => pure ()
    return ending.exitCode.toUInt32
