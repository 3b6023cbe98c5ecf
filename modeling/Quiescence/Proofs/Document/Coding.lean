import Quiescence.Coding
import Quiescence.Proofs.Document.Record
import Quiescence.Proofs.Json.Reading
import Quiescence.Proofs.Moment.Rfc3339

/-! # Handles, events and rows come back

What is written of a handle, an event or a row is read as the same, in every format that has the
documents of JSON.
-/

namespace Quiescence

theorem Handle.decode_toDoc (format : Format) (h : Handle) :
    Handle.decoder format h.toJson.toDoc = .ok h :=
  Record.Yields.decode_fields [("context_id", .str h.context), ("resource_name", .str h.name)] rfl
    (by decide) (((Record.Yields.field rfl rfl).and (.field rfl rfl)).map _) _

theorem EventKind.decode_word (format : Format) (k : EventKind) :
    EventKind.decoder format (.str k.word) = .ok k := by
  simp [EventKind.decoder, Decoder.enum, Decoder.variant, EventKind.ofWord?_word]

theorem Event.decode_toDoc (format : Format) (e : Event) :
    Event.decoder format e.toJson.toDoc = .ok e :=
  have kind := EventKind.decode_word format e.kind
  have handle := Handle.decode_toDoc format e.handle
  Record.Yields.decode_fields [("kind", .str e.kind.word), ("handle", e.handle.toJson.toDoc)] rfl
    (by decide) (((Record.Yields.field rfl kind).and (.field rfl handle)).map _) _

section Rows

variable {time : Moment → String} {format : Format} {r : Row}

theorem Row.decode_modifiedAt
    (read : ∀ m ∈ r.modifiedAt, Moment.decoder format (.str (time m)) = .ok m) :
    Decoder.option Moment.decoder format
      (match r.modifiedAt with
        | some moment => Json.Value.str (time moment)
        | none => .null).toDoc = .ok r.modifiedAt := by
  cases given : r.modifiedAt with
  | none => rfl
  | some moment =>
    have moment := read moment given
    simp only [Json.Value.toDoc, Decoder.option, moment]
    rfl

/-- A row comes back if the times that are written of it do. -/
theorem Row.decode_toDoc
    (opened : Moment.decoder format (.str (time r.openedAt)) = .ok r.openedAt)
    (modified : ∀ m ∈ r.modifiedAt, Moment.decoder format (.str (time m)) = .ok m) :
    Row.decoder format (r.toJson time).toDoc = .ok r :=
  have handle := Handle.decode_toDoc format r.handle
  have modified := decode_modifiedAt modified
  Record.Yields.decode_fields
    [("handle", r.handle.toJson.toDoc), ("opened_at", .str (time r.openedAt)), ("last_modified", _)]
    rfl (by decide)
    (((Record.Yields.field rfl handle).and
      ((Record.Yields.field rfl opened).and (.field rfl modified))).map _) _

end Rows

theorem Moment.decode_toRfc3339 (format : Format) (m : Moment) :
    Moment.decoder format (.str m.toRfc3339) = .ok m := by
  simp only [Moment.decoder, m.ofRfc3339?_toRfc3339]

theorem Row.decode_toRfc3339 (format : Format) (r : Row) :
    Row.decoder format (r.toJson Moment.toRfc3339).toDoc = .ok r :=
  Row.decode_toDoc (r.openedAt.decode_toRfc3339 format) fun m _ => m.decode_toRfc3339 format

end Quiescence
