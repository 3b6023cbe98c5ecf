import Quiescence.Document.Record
import Quiescence.Event
import Quiescence.Json.Writer
import Quiescence.Ledger
import Quiescence.Moment.Rfc3339

/-! # Handles, events and rows in documents

How handles, events and the rows of a ledger are read from documents and written as JSON.
-/

namespace Quiescence

/-! ## Reading -/

/-- A handle is its context and its name. -/
def Handle.record : Record Handle :=
  ((Record.field (.required "context_id" .string)).and
    (.field (.required "resource_name" .string))).map fun (context, name) => ⟨context, name⟩

/-- How a handle is read. -/
def Handle.decoder : Decoder Handle := Handle.record.decoder "ResourceHandle"

/-- A kind is given by its word. -/
def EventKind.decoder : Decoder EventKind := .enum (EventKind.all.map (·.word)) EventKind.ofWord?

/-- An event is its kind and its handle. -/
def Event.record : Record Event :=
  ((Record.field (.required "kind" EventKind.decoder)).and
    (.field (.required "handle" Handle.decoder))).map fun (kind, handle) => ⟨kind, handle⟩

/-- How an event is read. -/
def Event.decoder : Decoder Event := Event.record.decoder "ResourceEvent"

/-- A moment is given as a time in RFC 3339. -/
def Moment.decoder : Decoder Moment
  | _, .str s => match Moment.ofRfc3339? s with
    | some moment => .ok moment
    | none => .error .malformed
  | format, doc => Decoder.mismatch "an RFC 3339 formatted date and time string" format doc

/-- A row is a handle with its times, of which the second may be absent. -/
def Row.record : Record Row :=
  ((Record.field (.required "handle" Handle.decoder)).and
    ((Record.field (.required "opened_at" Moment.decoder)).and
      (.field (.nullable "last_modified" Moment.decoder)))).map
    fun (handle, openedAt, modifiedAt) => ⟨handle, openedAt, modifiedAt⟩

/-- How a row is read. -/
def Row.decoder : Decoder Row := Row.record.decoder "OpenResource"

/-! ## Writing -/

/-- A handle with its fields in declaration order. -/
def Handle.toJson (h : Handle) : Json.Value :=
  .obj [("context_id", .str h.context), ("resource_name", .str h.name)]

/-- An event with its fields in declaration order. -/
def Event.toJson (e : Event) : Json.Value :=
  .obj [("kind", .str e.kind.word), ("handle", e.handle.toJson)]

/-- A row, whose times are written by `time`. -/
def Row.toJson (time : Moment → String) (r : Row) : Json.Value :=
  .obj [("handle", r.handle.toJson), ("opened_at", .str (time r.openedAt)),
    ("last_modified", match r.modifiedAt with
      | some moment => .str (time moment)
      | none => .null)]

end Quiescence
