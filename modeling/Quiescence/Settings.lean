import Quiescence.Document.Record
import Quiescence.File
import Quiescence.Json.Reader
import Quiescence.Json.Writer
import Quiescence.Text.Blank
import Quiescence.Toml.Reader

/-! # Settings

The settings of a barrier and of its log. Every setting has a default, so an empty document is a
complete one. Settings are used only after they have been validated: the time limit and the room of
the queue must not be zero, and the log level must not be blank.
-/

namespace Quiescence

/-- The settings of a barrier. -/
structure BarrierSettings where
  /-- The limit of waits that name none, in milliseconds. -/
  waitLimit : Option Nat := none
  /-- The room of the queue through which events are fed. -/
  capacity : Nat := 1024
deriving DecidableEq

/-- The settings of the log. -/
structure LogSettings where
  level : String := "info"
  withTarget : Bool := true
deriving DecidableEq

/-- All settings. -/
structure Settings where
  barrier : BarrierSettings := {}
  logging : LogSettings := {}
deriving DecidableEq

/-! ## Reading -/

/-- The fields of the barrier's section. -/
def BarrierSettings.record : Record BarrierSettings :=
  ((Record.field (.withDefault "wait_timeout_ms" (.option (.natural "u64")) none)).and
    (.field (.withDefault "pump_capacity" (.natural "usize") 1024))).map
    fun (waitLimit, capacity) => { waitLimit, capacity }

/-- The fields of the log's section. -/
def LogSettings.record : Record LogSettings :=
  ((Record.field (.withDefault "level" .string "info")).and
    (.field (.withDefault "with_target" .bool true))).map
    fun (level, withTarget) => { level, withTarget }

/-- The two sections. -/
def Settings.record : Record Settings :=
  ((Record.field (.withDefault "barrier" (BarrierSettings.record.decoder "BarrierConfig") {})).and
    (.field (.withDefault "logging" (LogSettings.record.decoder "LoggingConfig") {}))).map
    fun (barrier, logging) => { barrier, logging }

/-- How settings are read. -/
def Settings.decoder : Decoder Settings := Settings.record.decoder "QuiesceConfig"

/-! ## Validation -/

/-- What can be wrong with settings. -/
inductive SettingsFlaw where
  | zeroLimit
  | zeroCapacity
  | blankLevel
deriving DecidableEq

/-- The wording of a flaw. -/
def SettingsFlaw.message : SettingsFlaw → String
  | zeroLimit =>
    "Configuration validation failed: barrier.wait_timeout_ms must be greater than zero; "
      ++ "omit it to wait forever"
  | zeroCapacity =>
    "Configuration validation failed: barrier.pump_capacity must be greater than zero"
  | blankLevel => "Configuration validation failed: logging.level must not be empty"

namespace Settings

/-- The first flaw of the settings, in the order limit, capacity, level. -/
def flaw? (s : Settings) : Option SettingsFlaw :=
  if s.barrier.waitLimit = some 0 then some .zeroLimit
  else if s.barrier.capacity = 0 then some .zeroCapacity
  else if Text.isBlankText s.logging.level then some .blankLevel
  else none

/-- Why there are no settings to use. -/
inductive Failure where
  | unreadable (fault : FileFault)
  | undecodable (error : DecodeError)
  | flawed (flaw : SettingsFlaw)
deriving DecidableEq

/-- The settings, if they have no flaw. -/
def flawless (s : Settings) : Except SettingsFlaw Settings :=
  match s.flaw? with
  | some flaw => .error flaw
  | none => .ok s

/-- The settings with another time limit, if one is given. -/
def withLimit (limit : Option Nat) (s : Settings) : Settings :=
  match limit with
  | some ms => { s with barrier := { s.barrier with waitLimit := some ms } }
  | none => s

/-- The settings that decoding found, with the time limit replaced if another is given, if they have
no flaw then. -/
def ofDecoded (limit : Option Nat) (decoded : Except DecodeError Settings) :
    Except Failure Settings :=
  match decoded with
  | .ok s => (s.withLimit limit).flawless.mapError .flawed
  | .error error => .error (.undecodable error)

/-- Reads settings from a TOML text. -/
def ofToml (text : String) : Except Failure Settings := ofDecoded none (Toml.decode decoder text)

/-- Reads settings from a TOML file. -/
def ofFile (stored : Stored) : Except Failure Settings :=
  match stored.text with
  | .ok text => ofToml text
  | .error fault => .error (.unreadable fault)

/-- Reads settings from a JSON text. Their own time limit may be zero if another is given. -/
def ofJson (limit : Option Nat) (text : String) : Except Failure Settings :=
  ofDecoded limit (Json.decode decoder text)

/-- Replaces the time limit of settings that are in use, if another is given. -/
def relimit (limit : Option Nat) (s : Settings) : Except SettingsFlaw Settings :=
  match limit with
  | some ms => (s.withLimit (some ms)).flawless
  | none => .ok s

/-! ## Writing -/

/-- All settings, the defaults included. -/
def toJson (s : Settings) : Json.Value :=
  .obj [
    ("barrier", .obj [
      ("wait_timeout_ms", match s.barrier.waitLimit with
        | some ms => .nat ms
        | none => .null),
      ("pump_capacity", .nat s.barrier.capacity)]),
    ("logging", .obj [
      ("level", .str s.logging.level),
      ("with_target", .bool s.logging.withTarget)])]

end Settings

end Quiescence
