import Quiescence.Text.Digits

/-! # The command line

A command line names a command and its arguments. Options may stand anywhere among the arguments; an
option with a value takes it from the same word or from the next one. Words after `--` are arguments
even if they look like options.

A value is looked at only when the next argument is recognised, so an unknown option is reported
before a bad value that precedes it.
-/

namespace Quiescence.Command

/-- The shells for which completions can be made. -/
inductive Shell where
  | bash
  | elvish
  | fish
  | powershell
  | zsh
deriving DecidableEq

namespace Shell

/-- The name of a shell on the command line. -/
def word : Shell → String
  | bash => "bash"
  | elvish => "elvish"
  | fish => "fish"
  | powershell => "powershell"
  | zsh => "zsh"

/-- All shells. -/
def all : List Shell := [bash, elvish, fish, powershell, zsh]

/-- The shell that `word` stands for. -/
def ofWord? (word : String) : Option Shell := all.find? (·.word == word)

end Shell

/-- What the replay command is asked to do. -/
structure ReplayRequest where
  script : String
  config : String
  /-- A limit in milliseconds that replaces the configured one. -/
  limit : Option Nat
  noWait : Bool
  forceClose : Bool
  json : Bool
deriving DecidableEq

/-- A command with its arguments. -/
inductive Request where
  | replay (request : ReplayRequest)
  | completions (shell : Shell)
deriving DecidableEq

/-- Why a command line is no request. -/
inductive LineFault where
  /-- The command line asks for help, which is no mistake. -/
  | help
  | noCommand
  | unknownCommand
  | unknownArgument
  | missingArgument
  /-- A value is missing, empty, or none of the possible ones. -/
  | badValue
  /-- A value is not a number. -/
  | notNumber
  /-- An option is given twice. -/
  | repeated
  /-- A value is given to an option that takes none. -/
  | needlessValue
deriving DecidableEq

/-- The exit code of a command line that is no request. -/
def LineFault.exitCode : LineFault → Nat
  | help => 0
  | noCommand | unknownCommand | unknownArgument | missingArgument | badValue | notNumber
  | repeated | needlessValue => 2

/-! ## Words -/

/-- What a word looks like, before it is known whether it means anything. -/
inductive Word where
  /-- The word `--`. -/
  | separator
  /-- An option by its name, with the value after an equals sign. -/
  | long (name : String) (value : Option String)
  /-- Options by their letters, or one letter and its value. -/
  | short (letters : List Char)
  | plain (text : String)

/-- What a word looks like. A single hyphen is a plain word. -/
def Word.of (text : String) : Word :=
  match text.toList with
  | ['-', '-'] => separator
  | '-' :: '-' :: rest =>
    let name := String.ofList (rest.takeWhile (· != '='))
    match rest.dropWhile (· != '=') with
    | _ :: value => long name (some (String.ofList value))
    | [] => long name none
  | '-' :: c :: rest => short (c :: rest)
  | _ => plain text

/-- The number of sixty-four bits that a text stands for. -/
def number? (text : String) : Option Nat := (Text.natural? text.toList).filter (· < Nat.pow 2 64)

/-! ## Replay -/

/-- The options of the replay command that take no value. -/
inductive Switch where
  | noWait
  | forceClose
  | json
deriving DecidableEq

/-- The options of the replay command that take a value. -/
inductive Setting where
  | config
  | limit
deriving DecidableEq

/-- An option of the replay command. -/
inductive ReplayOption where
  | switch (which : Switch)
  | setting (which : Setting)
  | help

/-- The option of this name. -/
def ReplayOption.ofName? (name : String) : Option ReplayOption :=
  if name = "config" then some (setting .config)
  else if name = "timeout-ms" then some (setting .limit)
  else if name = "no-wait" then some (switch .noWait)
  else if name = "force-close" then some (switch .forceClose)
  else if name = "json" then some (switch .json)
  else if name = "help" then some help
  else none

/-- Something that has been given but not looked at. -/
inductive Pending where
  | setting (which : Setting) (value : Option String)
  | script (name : String)

/-- What is known of a replay request. -/
structure Draft where
  script : Option String := none
  config : Option String := none
  limit : Option Nat := none
  switches : List Switch := []
  pending : Option Pending := none

namespace Draft

/-- Takes the value of an option. -/
def accept (which : Setting) (value : String) (d : Draft) : Except LineFault Draft :=
  match which with
  | .config =>
    if d.config.isSome then .error .repeated
    else if value.isEmpty then .error .badValue
    else .ok { d with config := some value }
  | .limit =>
    if d.limit.isSome then .error .repeated
    else match number? value with
      | some n => .ok { d with limit := some n }
      | none => .error .notNumber

/-- Looks at what is pending. -/
def settle (d : Draft) : Except LineFault Draft :=
  match d.pending with
  | none => .ok d
  | some (.setting _ none) => .error .badValue
  | some (.setting which (some value)) => accept which value { d with pending := none }
  | some (.script name) =>
    if name.isEmpty then .error .badValue
    else .ok { d with pending := none, script := some name }

/-- Whether the script has been named. -/
def hasScript (d : Draft) : Bool :=
  d.script.isSome || match d.pending with
    | some (.script _) => true
    | _ => false

/-- Takes a word that is no option and no value of one. -/
def putArgument (text : String) (d : Draft) : Except LineFault Draft :=
  if d.hasScript then .error .unknownArgument
  else do
    let d ← d.settle
    return { d with pending := some (.script text) }

/-- Takes a word that is no option. -/
def putPlain (text : String) (d : Draft) : Except LineFault Draft :=
  match d.pending with
  | some (.setting which none) => .ok { d with pending := some (.setting which (some text)) }
  | _ => d.putArgument text

/-- Takes an option that is given with its value, if `value` is one, or whose value is to follow. -/
def putSetting (which : Setting) (value : Option String) (d : Draft) : Except LineFault Draft := do
  let d ← d.settle
  match value with
  | some value => d.accept which value
  | none => return { d with pending := some (.setting which none) }

/-- Takes an option by its name. -/
def putLong (name : String) (value : Option String) (d : Draft) : Except LineFault Draft :=
  match ReplayOption.ofName? name, value with
  | none, _ => .error .unknownArgument
  | some (.setting which), value => d.putSetting which value
  | some (.switch _), some _ | some .help, some _ => .error .needlessValue
  | some (.switch which), none => do
    let d ← d.settle
    if which ∈ d.switches then .error .repeated
    else return { d with switches := which :: d.switches }
  | some .help, none => do
    let _ ← d.settle
    .error .help

/-- Takes options by their letters. -/
def putShort (letters : List Char) (d : Draft) : Except LineFault Draft :=
  match letters with
  | 'h' :: _ => d.putLong "help" none
  | ['c'] => d.putSetting .config none
  | 'c' :: '=' :: value => d.putSetting .config (some (String.ofList value))
  | 'c' :: value => d.putSetting .config (some (String.ofList value))
  | _ => .error .unknownArgument

/-- Takes the words that are left; after `--` all of them are arguments. -/
def putAll : Bool → List String → Draft → Except LineFault Draft
  | _, [], d => d.settle
  | true, text :: rest, d => do putAll true rest (← d.putArgument text)
  | false, text :: rest, d =>
    match Word.of text with
    | .separator => putAll true rest d
    | .long name value => do putAll false rest (← d.putLong name value)
    | .short letters => do putAll false rest (← d.putShort letters)
    | .plain text => do putAll false rest (← d.putPlain text)

end Draft

/-- The file that is read when no other is named. -/
def defaultConfig : String := "quiesce.toml"

/-- Reads the words after the replay command. -/
def replayRequest (words : List String) : Except LineFault Request := do
  let d ← Draft.putAll false words {}
  match d.script with
  | none => .error .missingArgument
  | some script =>
    return .replay
      { script
        config := d.config.getD defaultConfig
        limit := d.limit
        noWait := d.switches.contains .noWait
        forceClose := d.switches.contains .forceClose
        json := d.switches.contains .json }

/-! ## Completions -/

/-- The shell that has been named, if one has. -/
def shellOf (named : Option String) : Except LineFault (Option Shell) :=
  match named with
  | none => .ok none
  | some name => match Shell.ofWord? name with
    | some shell => .ok (some shell)
    | none => .error .badValue

/-- Reads the words after the completions command. -/
def completionsRequest : Bool → Option String → List String → Except LineFault Request
  | _, named, [] => do
    match ← shellOf named with
    | some shell => return .completions shell
    | none => .error .missingArgument
  | onlyArguments, named, text :: rest =>
    match onlyArguments, Word.of text with
    | false, .separator => completionsRequest true named rest
    | false, .long "help" (some _) => .error .needlessValue
    | false, .long "help" none | false, .short ('h' :: _) => do
      let _ ← shellOf named
      .error .help
    | false, .long _ _ | false, .short _ => .error .unknownArgument
    | _, _ =>
      if named.isSome then .error .unknownArgument
      else completionsRequest onlyArguments (some text) rest

/-! ## Commands -/

/-- The names of the commands. -/
def commandNames : List String := ["replay", "completions", "help"]

/-- Reads the words after the help command: at most the name of a command. -/
def helpRequest : List String → LineFault
  | [] => .help
  | [name] => if name ∈ commandNames then .help else .unknownCommand
  | _ => .unknownCommand

/-- Reads the words of a command line after the program's name. -/
def parse : List String → Except LineFault Request
  | [] => .error .noCommand
  | "replay" :: rest => replayRequest rest
  | "completions" :: rest => completionsRequest false none rest
  | "help" :: rest => .error (helpRequest rest)
  | word :: rest =>
    match Word.of word with
    | .separator => match rest with
      | [] => .error .noCommand
      | name :: _ =>
        .error (if name ∈ commandNames then .unknownArgument else .unknownCommand)
    | .long "help" (some _) => .error .needlessValue
    | .long "help" none | .short ('h' :: _) => .error .help
    | .long _ _ | .short _ => .error .unknownArgument
    | .plain _ => .error .unknownCommand

end Quiescence.Command
