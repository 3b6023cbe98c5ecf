import Mathlib.Tactic.SplitIfs
import Quiescence.Settings

/-! # Valid settings

Settings are valid if they avoid every flaw. Validation lets exactly these through, unchanged, and
otherwise names the first flaw that the settings have. So whatever they are decoded from, settings
that are used are valid, and valid settings are used as they were decoded.
-/

namespace Except

variable {ε ε' α : Type} {x : Except ε α} {f : ε → ε'}

theorem mapError_eq_ok_iff {a : α} : x.mapError f = .ok a ↔ x = .ok a := by
  cases x <;> simp [Except.mapError]

theorem mapError_eq_error_iff {e : ε'} :
    x.mapError f = .error e ↔ ∃ d, x = .error d ∧ f d = e := by
  cases x <;> simp [Except.mapError]

end Except

namespace Quiescence

/-- The place of a flaw among those that are looked for. -/
def SettingsFlaw.rank : SettingsFlaw → Nat
  | .zeroLimit => 0
  | .zeroCapacity => 1
  | .blankLevel => 2

namespace Settings

variable {s t : Settings} {flaw : SettingsFlaw}

/-- What keeps settings free of a flaw. -/
def Avoids (s : Settings) : SettingsFlaw → Prop
  | .zeroLimit => ∀ ms ∈ s.barrier.waitLimit, 1 ≤ ms
  | .zeroCapacity => 1 ≤ s.barrier.capacity
  | .blankLevel => ∃ c ∈ s.logging.level.toList, Text.isBlank c = false

/-- Settings without a flaw. -/
def Valid (s : Settings) : Prop := ∀ flaw, s.Avoids flaw

/-- The settings have the flaw, and none that is looked for before it. -/
structure FirstFlaw (s : Settings) (flaw : SettingsFlaw) : Prop where
  present : ¬ s.Avoids flaw
  first : ∀ other, other.rank < flaw.rank → s.Avoids other

/-- The settings with another time limit, if one is given, and all else as it was. -/
def overridden (limit : Option Nat) (s : Settings) : Settings :=
  { s with barrier := { s.barrier with waitLimit := limit.or s.barrier.waitLimit } }

theorem withLimit_eq_overridden (limit : Option Nat) (s : Settings) :
    s.withLimit limit = s.overridden limit := by
  cases limit <;> rfl

/-! ## Validation -/

theorem avoids_zeroLimit_iff : s.Avoids .zeroLimit ↔ s.barrier.waitLimit ≠ some 0 := by
  cases limit : s.barrier.waitLimit with
  | none => simp [Avoids, limit]
  | some ms => simp [Avoids, limit, Nat.one_le_iff_ne_zero]

theorem avoids_zeroCapacity_iff : s.Avoids .zeroCapacity ↔ s.barrier.capacity ≠ 0 :=
  Nat.one_le_iff_ne_zero

theorem avoids_blankLevel_iff :
    s.Avoids .blankLevel ↔ Text.isBlankText s.logging.level = false := by
  simp [Avoids, Text.isBlankText]

theorem valid_of_flaw? (none : s.flaw? = none) : s.Valid := by
  unfold flaw? at none
  split_ifs at none with limit capacity level
  rintro (_ | _ | _)
  · exact avoids_zeroLimit_iff.mpr limit
  · exact avoids_zeroCapacity_iff.mpr capacity
  · exact avoids_blankLevel_iff.mpr (Bool.not_eq_true _ ▸ level)

theorem firstFlaw_of_flaw? (found : s.flaw? = some flaw) : s.FirstFlaw flaw := by
  unfold flaw? at found
  split_ifs at found with limit capacity level <;> cases found
  · exact ⟨fun avoids => avoids_zeroLimit_iff.mp avoids limit, fun _ earlier => by cases earlier⟩
  · refine ⟨fun avoids => avoids_zeroCapacity_iff.mp avoids capacity, ?_⟩
    rintro (_ | _ | _) earlier
    · exact avoids_zeroLimit_iff.mpr limit
    all_goals exact absurd earlier (by decide)
  · refine ⟨fun avoids => by simp [avoids_blankLevel_iff.mp avoids] at level, ?_⟩
    rintro (_ | _ | _) earlier
    · exact avoids_zeroLimit_iff.mpr limit
    · exact avoids_zeroCapacity_iff.mpr capacity
    · exact absurd earlier (by decide)

theorem FirstFlaw.unique {other : SettingsFlaw} (flawed : s.FirstFlaw flaw)
    (flawed' : s.FirstFlaw other) : flaw = other := by
  have notBefore : ¬ flaw.rank < other.rank := mt (flawed'.first flaw) flawed.present
  have notAfter : ¬ other.rank < flaw.rank := mt (flawed.first other) flawed'.present
  cases flaw <;> cases other <;> simp_all [SettingsFlaw.rank]

/-- Validation finds nothing wrong with valid settings, and with no others. -/
theorem flaw?_eq_none_iff : s.flaw? = none ↔ s.Valid := by
  refine ⟨valid_of_flaw?, fun valid => ?_⟩
  cases found : s.flaw? with
  | none => rfl
  | some flaw => exact absurd (valid flaw) (firstFlaw_of_flaw? found).present

/-- Validation finds the first flaw. -/
theorem flaw?_eq_some_iff : s.flaw? = some flaw ↔ s.FirstFlaw flaw := by
  refine ⟨firstFlaw_of_flaw?, fun flawed => ?_⟩
  cases found : s.flaw? with
  | none => exact absurd (valid_of_flaw? found flaw) flawed.present
  | some other => rw [(firstFlaw_of_flaw? found).unique flawed]

theorem flawless_eq_ok_iff : s.flawless = .ok t ↔ t = s ∧ s.Valid := by
  rw [← flaw?_eq_none_iff, flawless]
  cases s.flaw? <;> simp [eq_comm]

theorem flawless_eq_error_iff : s.flawless = .error flaw ↔ s.FirstFlaw flaw := by
  rw [← flaw?_eq_some_iff, flawless]
  cases s.flaw? <;> simp

/-! ## Sources -/

/-- Of what a source gives, the settings that are valid get through as they are. For others the
answer is their first flaw, and where the source gives no settings, its failure. -/
structure Screened (given answer : Except Failure Settings) : Prop where
  accepted : ∀ s, answer = .ok s ↔ given = .ok s ∧ s.Valid
  flawed : ∀ flaw, answer = .error (.flawed flaw) ↔ ∃ s, given = .ok s ∧ s.FirstFlaw flaw
  failed : ∀ failure, (∀ flaw, failure ≠ .flawed flaw) →
    (answer = .error failure ↔ given = .error failure)

theorem screened_flawless (s : Settings) :
    Screened (.ok s) (s.flawless.mapError .flawed) where
  accepted t := by
    rw [Except.mapError_eq_ok_iff, flawless_eq_ok_iff, Except.ok.injEq, eq_comm]
    exact and_congr_right fun same => by rw [same]
  flawed flaw := by simp [Except.mapError_eq_error_iff, flawless_eq_error_iff]
  failed failure unflawed := by
    rw [Except.mapError_eq_error_iff]
    simpa using fun flaw _ => (unflawed flaw).symm

/-- A failure of the source is passed on. -/
theorem screened_error {failure : Failure} (unflawed : ∀ flaw, failure ≠ .flawed flaw) :
    Screened (.error failure) (.error failure) where
  accepted := by simp
  flawed := by simpa using unflawed
  failed _ _ := .rfl

/-- What decoding gives, with another time limit if one is given. -/
def decoded (limit : Option Nat) (result : Except DecodeError Settings) : Except Failure Settings :=
  (overridden limit <$> result).mapError .undecodable

theorem screened_ofDecoded (limit : Option Nat) (result : Except DecodeError Settings) :
    Screened (decoded limit result) (ofDecoded limit result) := by
  cases result with
  | error error => exact screened_error (by simp)
  | ok s =>
    rw [ofDecoded, withLimit_eq_overridden]
    exact screened_flawless (s.overridden limit)

/-- What a file gives. -/
def stored (file : Stored) : Except Failure Settings :=
  file.text.mapError .unreadable >>= fun text => decoded none (Toml.decode decoder text)

theorem screened_ofFile (file : Stored) : Screened (stored file) (ofFile file) := by
  rw [stored, ofFile]
  cases file.text with
  | error fault => exact screened_error (by simp)
  | ok text => exact screened_ofDecoded none _

/-- Valid settings with another time limit are judged as if they were new. -/
theorem relimit_eq_flawless (valid : s.Valid) (limit : Option Nat) :
    s.relimit limit = (s.overridden limit).flawless := by
  cases limit with
  | none => exact (flawless_eq_ok_iff.mpr ⟨rfl, valid⟩).symm
  | some ms => rfl

end Settings

end Quiescence
