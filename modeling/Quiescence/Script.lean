import Quiescence.Coding
import Quiescence.File
import Quiescence.Toml.Reader

/-! # Scripts

A script is a list of events, each with the time that passes before it arrives. Scripts are written
in TOML.
-/

namespace Quiescence

/-- An event that arrives so many milliseconds after the one before it. -/
structure Arrival where
  event : Event
  delay : Nat
deriving DecidableEq

/-- The events of a script in the order in which they arrive. -/
abbrev Script := List Arrival

/-- An arrival is given by kind, context, name and delay; the delay may be left out. -/
def Arrival.record : Record Arrival :=
  ((Record.field (.required "kind" EventKind.decoder)).and
    ((Record.field (.required "context" .string)).and
      ((Record.field (.required "resource" .string)).and
        (.field (.withDefault "delay_ms" (.natural "u64") 0))))).map
    fun (kind, context, name, delay) => ⟨⟨kind, ⟨context, name⟩⟩, delay⟩

/-- How an arrival is read. -/
def Arrival.decoder : Decoder Arrival := Arrival.record.decoder "ScriptEvent"

namespace Script

/-- A script is its list of arrivals, which may be left out. -/
def record : Record Script :=
  .field (.withDefault "events" (.list Arrival.decoder) [])

/-- How a script is read. -/
def decoder : Decoder Script := record.decoder "ReplayScript"

/-- Why there is no script. -/
inductive Failure where
  | unreadable (fault : FileFault)
  | undecodable (error : DecodeError)
deriving DecidableEq

/-- What was being done to the file of this name when the failure happened. -/
def Failure.context (file : String) : Failure → String
  | unreadable _ => "Failed to read script " ++ file
  | undecodable _ => "Failed to parse replay script"

/-- Reads a script from a TOML text. -/
def ofToml (text : String) : Except Failure Script :=
  match Toml.decode decoder text with
  | .ok script => .ok script
  | .error error => .error (.undecodable error)

/-- Reads a script from a TOML file. -/
def ofFile (stored : Stored) : Except Failure Script :=
  match stored.text with
  | .ok text => ofToml text
  | .error fault => .error (.unreadable fault)

end Script

end Quiescence
