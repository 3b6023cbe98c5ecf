import Quiescence.Proofs.Document.Coding
import Quiescence.Settings

/-! # Nothing is lost in writing

Events and settings are read from what was written of them: whatever characters their texts are made
of, and for all numbers of sixty-four bits.
-/

namespace Quiescence

/-! ## Settings -/

/-- Whether the numbers of the settings have at most sixty-four bits. -/
structure Settings.Fits (s : Settings) : Prop where
  limit : ∀ ms ∈ s.barrier.waitLimit, ms < 2 ^ 64
  capacity : s.barrier.capacity < 2 ^ 64

theorem Decoder.natural_numeral {n : Nat} (small : n < 2 ^ 64) (expected : String)
    (format : Format) : Decoder.natural expected format (Json.numeral n) = .ok n := by
  rw [Json.numeral_of_exact (Nat.le_sub_one_of_lt small)]
  rfl

/-- What stands for a number that may be absent is read as just that. -/
theorem Decoder.option_natural {given : Option Nat} (small : ∀ n ∈ given, n < 2 ^ 64)
    (expected : String) (format : Format) :
    Decoder.option (.natural expected) format
      (match given with | some n => Json.Value.nat n | none => .null).toDoc = .ok given := by
  cases given with
  | none => rfl
  | some n =>
    rw [Json.Value.toDoc, Json.numeral_of_exact (Nat.le_sub_one_of_lt (small n rfl))]
    rfl

theorem Settings.decode_toDoc (format : Format) {s : Settings} (fits : s.Fits) :
    Settings.decoder format s.toJson.toDoc = .ok s :=
  have limit := Decoder.option_natural fits.limit "u64" format
  have capacity := Decoder.natural_numeral fits.capacity "usize" format
  have barrier := Record.Yields.decode_fields (r := BarrierSettings.record)
    [("wait_timeout_ms", _), ("pump_capacity", Json.numeral s.barrier.capacity)] rfl
    (by decide) (((Record.Yields.field rfl limit).and (.field rfl capacity)).map _) "BarrierConfig"
  have logging := Record.Yields.decode_fields (r := LogSettings.record)
    [("level", .str s.logging.level), ("with_target", .bool s.logging.withTarget)] rfl
    (by decide) (((Record.Yields.field rfl rfl).and (.field rfl rfl)).map _) "LoggingConfig"
  Record.Yields.decode_fields [("barrier", _), ("logging", _)] rfl
    (by decide) (((Record.Yields.field rfl barrier).and (.field rfl logging)).map _) _

namespace Json

variable {α : Type} {toJson : α → Value} {decoder : Decoder α} {fits : α → Prop}

/-- What is written of the values that fit says all about them. -/
structure Lossless (toJson : α → Value) (decoder : Decoder α) (fits : α → Prop) : Prop where
  /-- It is read as the value. -/
  decoded : ∀ a, fits a → decode decoder (toJson a).compact = .ok a
  /-- So is its layout on several lines. -/
  decoded_pretty : ∀ a, fits a → decode decoder (toJson a).pretty = .ok a
  /-- What is written of the value that is read is the same text again. -/
  rewritten : ∀ a b, fits a → decode decoder (toJson a).compact = .ok b →
    (toJson b).compact = (toJson a).compact
  /-- Different values have different texts. -/
  distinct : ∀ a b, fits a → fits b → a ≠ b → (toJson a).compact ≠ (toJson b).compact

theorem Lossless.of_toDoc (decoded : ∀ a, fits a → decoder .json (toJson a).toDoc = .ok a) :
    Lossless toJson decoder fits := by
  have read (a : α) (fit : fits a) : decode decoder (toJson a).compact = .ok a :=
    ((toJson a).spelledBy_compact.decode decoder).trans (decoded a fit)
  have readPretty (a : α) (fit : fits a) : decode decoder (toJson a).pretty = .ok a :=
    ((toJson a).spelledBy_pretty.decode decoder).trans (decoded a fit)
  refine ⟨read, readPretty, fun a b fit again => ?_, fun a b fitA fitB differ same => differ ?_⟩
  · cases (read a fit).symm.trans again
    rfl
  · have both := read a fitA
    rw [same, read b fitB] at both
    exact (Except.ok.inj both).symm

/-- Nothing is lost in writing an event, or settings whose numbers have sixty-four bits. -/
theorem lossless_event_and_settings :
    Lossless Event.toJson Event.decoder (fun _ => True) ∧
      Lossless Settings.toJson Settings.decoder Settings.Fits :=
  ⟨.of_toDoc fun e _ => e.decode_toDoc .json,
    .of_toDoc fun _ fits => Settings.decode_toDoc .json fits⟩

/-- An event with awkward names and settings with the largest numbers come back. -/
theorem awkward_event_and_largest_settings :
    let event : Event := ⟨.modified, ⟨"", "\"\\\n\u0001é𝄞"⟩⟩
    let settings : Settings := ⟨⟨some (2 ^ 64 - 1), 2 ^ 64 - 1⟩, ⟨"\t", false⟩⟩
    event.toJson.compact = "\x7b\"kind\":\"modified\",\"handle\":\x7b\"context_id\":\"\","
        ++ "\"resource_name\":\"\\\"\\\\\\n\\u0001é𝄞\"\x7d\x7d" ∧
      decode Event.decoder event.toJson.compact = .ok event ∧ settings.Fits ∧
      decode Settings.decoder settings.toJson.compact = .ok settings := by
  have fits : Settings.Fits ⟨⟨some (2 ^ 64 - 1), 2 ^ 64 - 1⟩, ⟨"\t", false⟩⟩ := ⟨by simp, by decide⟩
  exact ⟨rfl, lossless_event_and_settings.1.decoded _ trivial, fits,
    lossless_event_and_settings.2.decoded _ fits⟩

end Json

end Quiescence
