import Quiescence.Proofs.Document.Readable
import Quiescence.Proofs.Document.Rewording
import Quiescence.Proofs.Json.Reading
import Quiescence.Script
import Quiescence.Settings

/-! # Settings and scripts in other words

Settings and scripts are read from what is written in a document, not from how it is worded. What a
section holds is the same whether its defaults are spelled out, or left out one by one, or with the
section as a whole.
-/

namespace Quiescence

open Record Decoder

/-- The section of the barrier. -/
def BarrierSettings.outline : Outline :=
  .record [⟨"wait_timeout_ms", .plain, [.null]⟩, ⟨"pump_capacity", .plain, [.int 1024]⟩]

/-- The section of the log. -/
def LogSettings.outline : Outline :=
  .record [⟨"level", .plain, [.str "info"]⟩, ⟨"with_target", .plain, [.bool true]⟩]

/-- The settings. A section without anything has the defaults of its fields. -/
def Settings.outline : Outline :=
  .record [⟨"barrier", BarrierSettings.outline, [.map [], .seq []]⟩,
    ⟨"logging", LogSettings.outline, [.map [], .seq []]⟩]

/-- An event of a script. -/
def Arrival.outline : Outline :=
  .record [⟨"kind", .plain, []⟩, ⟨"context", .plain, []⟩, ⟨"resource", .plain, []⟩,
    ⟨"delay_ms", .plain, [.int 0]⟩]

/-- A script. -/
def Script.outline : Outline := .record [⟨"events", .list Arrival.outline, [.seq []]⟩]

theorem BarrierSettings.follows (name : String) : (record.decoder name).Follows outline :=
  have limit := FieldFollows.withDefault "wait_timeout_ms" none (.plain (.option (.natural "u64")))
    [.null] (by simp [option])
  have capacity := FieldFollows.withDefault "pump_capacity" 1024 (.plain (.natural "usize"))
    [.int 1024] (by simp [natural])
  .record name (((ComposedOf.field _).and (.field _) (by decide)).map _)
    (limit.cons (capacity.cons .nil))

theorem LogSettings.follows (name : String) : (record.decoder name).Follows outline :=
  have level := FieldFollows.withDefault "level" "info" (.plain .string) [.str "info"]
    (by simp [Decoder.string])
  have withTarget := FieldFollows.withDefault "with_target" true (.plain .bool) [.bool true]
    (by simp [Decoder.bool])
  .record name (((ComposedOf.field _).and (.field _) (by decide)).map _)
    (level.cons (withTarget.cons .nil))

theorem Settings.composed : Settings.record.ComposedOf
    [⟨.withDefault "barrier" (BarrierSettings.record.decoder "BarrierConfig") {}⟩,
      ⟨.withDefault "logging" (LogSettings.record.decoder "LoggingConfig") {}⟩] :=
  ((ComposedOf.field _).and (.field _) (by decide)).map _

theorem BarrierSettings.decode_nothing (name : String) (format : Format) :
    ∀ doc ∈ [Doc.map [], .seq []], record.decoder name format doc = .ok {} := by
  simp only [List.forall_mem_cons]
  cases format <;> exact ⟨rfl, rfl, by simp⟩

theorem LogSettings.decode_nothing (name : String) (format : Format) :
    ∀ doc ∈ [Doc.map [], .seq []], record.decoder name format doc = .ok {} := by
  simp only [List.forall_mem_cons]
  cases format <;> exact ⟨rfl, rfl, by simp⟩

theorem Settings.follows : Settings.decoder.Follows outline :=
  have barrier := FieldFollows.withDefault "barrier" {} (BarrierSettings.follows "BarrierConfig")
    [.map [], .seq []] (BarrierSettings.decode_nothing _)
  have logging := FieldFollows.withDefault "logging" {} (LogSettings.follows "LoggingConfig")
    [.map [], .seq []] (LogSettings.decode_nothing _)
  .record _ composed (barrier.cons (logging.cons .nil))

theorem Arrival.follows : Arrival.decoder.Follows outline :=
  have kind := FieldFollows.required "kind" (.plain EventKind.decoder)
  have context := FieldFollows.required "context" (.plain .string)
  have name := FieldFollows.required "resource" (.plain .string)
  have delay := FieldFollows.withDefault "delay_ms" 0 (.plain (.natural "u64")) [.int 0]
    (by simp [natural])
  .record _ (((ComposedOf.field _).and
      ((ComposedOf.field _).and ((ComposedOf.field _).and (.field _) (by decide)) (by decide))
      (by decide)).map _)
    (kind.cons (context.cons (name.cons (delay.cons .nil))))

theorem Script.follows : Script.decoder.Follows outline :=
  have events := FieldFollows.withDefault "events" [] (.list Arrival.follows) [.seq []]
    (by simp [Decoder.list, items])
  .record _ (.field _) (events.cons .nil)

/-- A section of the settings that has its default might as well be absent. Any of these fields, in
any order, spell the default. -/
structure Settings.MayLack {α : Type} (key : String) (decode : Decoder α) (default : α)
    (fields : List (Doc × Doc)) : Prop where
  absent : ∀ {format value entries}, decode format value = .ok default →
    .str key ∉ entries.map Prod.fst → ∀ s, Settings.decoder format (.map entries) = .ok s ↔
      Settings.decoder format (.map ((.str key, value) :: entries)) = .ok s
  spelled : ∀ format {given}, given.Subperm fields → decode format (.map given) = .ok default

/-- Settings and scripts are read alike however they are worded, and so are settings in which a
section is absent, empty or spelled out with its defaults. Whatever value a field of another name
has in a text that follows the rules, it can be passed over. -/
theorem wording_does_not_matter :
    (∀ text, (Json.read text).complete → (Json.read text).doc.isSkippable) ∧
      (∀ text doc, Toml.read? text = some doc → doc.isSkippable) ∧
      Settings.decoder.IgnoresWording Settings.outline ∧
      Script.decoder.IgnoresWording Script.outline ∧
      Settings.MayLack "barrier" (BarrierSettings.record.decoder "BarrierConfig") {}
        [(.str "wait_timeout_ms", .null), (.str "pump_capacity", .int 1024)] ∧
      Settings.MayLack "logging" (LogSettings.record.decoder "LoggingConfig") {}
        [(.str "level", .str "info"), (.str "with_target", .bool true)] := by
  refine ⟨fun _ => Json.isSkippable_of_complete, fun _ _ => Toml.isSkippable_of_read?,
    Settings.follows.ignoresWording, Script.follows.ignoresWording, ⟨?_, ?_⟩, ⟨?_, ?_⟩⟩
  · intro format value entries given absent
    exact Except.toOption_eq_iff.mp
      (Settings.composed.decoder_default _ List.mem_cons_self rfl given absent)
  · intro format given chosen
    exact (BarrierSettings.follows _).decode_spelled
      (BarrierSettings.decode_nothing _ _ _ (by simp)) (by simp) (by simp) chosen
  · intro format value entries given absent
    exact Except.toOption_eq_iff.mp
      (Settings.composed.decoder_default _ (List.mem_cons_of_mem _ List.mem_cons_self) rfl given
        absent)
  · intro format given chosen
    exact (LogSettings.follows _).decode_spelled
      (LogSettings.decode_nothing _ _ _ (by simp)) (by simp) (by simp) chosen

/-- Two texts of the same settings, of which one spells defaults and has a field of its own, and
settings with a section that is spelled out. -/
theorem wording_of_two_texts_does_not_matter :
    let brief : Json.Value := .obj [("barrier", .obj [("pump_capacity", .nat 7)])]
    let long : Json.Value := .obj [("logging", .obj [("colour", .arr [.nat 1])]),
      ("barrier", .obj [("pump_capacity", .nat 7), ("wait_timeout_ms", .null)])]
    let spelled : Doc := .map [(.str "with_target", .bool true), (.str "level", .str "info")]
    Json.decode Settings.decoder brief.compact = .ok { barrier := { capacity := 7 } } ∧
      Json.decode Settings.decoder long.pretty = .ok { barrier := { capacity := 7 } } ∧
      Settings.decoder .toml (.map [(.str "logging", spelled)]) = .ok {} := by
  intro brief long spelled
  let short : Doc := .map [(.str "pump_capacity", .int 7)]
  let limited : Doc := .map [(.str "wait_timeout_ms", .null), (.str "pump_capacity", .int 7)]
  let turned : Doc := .map [(.str "pump_capacity", .int 7), (.str "wait_timeout_ms", .null)]
  have limit : Rewords BarrierSettings.outline short limited :=
    .default (p := ⟨"wait_timeout_ms", _, _⟩) List.mem_cons_self List.mem_cons_self (by simp)
  have turn : Rewords BarrierSettings.outline limited turned := .permuted (.swap _ _ _)
  have colour : Rewords LogSettings.outline (.map []) (.map [(.str "colour", .seq [.int 1])]) :=
    .unknown (by simp) rfl []
  have logging : Rewords Settings.outline (.map [(.str "barrier", turned)])
      (.map [(.str "logging", .map []), (.str "barrier", turned)]) :=
    .default (p := ⟨"logging", _, _⟩) (List.mem_cons_of_mem _ List.mem_cons_self)
      List.mem_cons_self (by simp)
  have reworded : Reworded Settings.outline brief.toDoc long.toDoc :=
    .trans _ _ _ (.rel _ _ (.inside (p := ⟨"barrier", _, _⟩) List.mem_cons_self limit []))
      (.trans _ _ _ (.rel _ _ (.inside (p := ⟨"barrier", _, _⟩) List.mem_cons_self turn []))
        (.trans _ _ _ (.rel _ _ logging) (.rel _ _ (.inside (p := ⟨"logging", _, _⟩)
          (List.mem_cons_of_mem _ List.mem_cons_self) colour _))))
  have first : Json.decode Settings.decoder brief.compact =
      .ok { barrier := { capacity := 7 } } := by
    rw [(Json.Value.spelledBy_compact brief).decode]
    decide
  obtain ⟨_, _, settings, _, _, logging⟩ := wording_does_not_matter
  refine ⟨first, (settings.json ?_ ?_ ?_ _).mp first, ?_⟩
  · rw [(Json.Value.spelledBy_compact brief).read]
  · rw [(Json.Value.spelledBy_pretty long).read]
  · rwa [(Json.Value.spelledBy_compact brief).read, (Json.Value.spelledBy_pretty long).read]
  · have given := logging.spelled .toml (List.reverse_perm _).subperm
    exact (logging.absent given (by simp) _).mp rfl

end Quiescence
