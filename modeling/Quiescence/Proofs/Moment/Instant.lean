import Mathlib.Algebra.Order.Floor.Semifield
import Mathlib.Data.Rat.Floor
import Quiescence.Proofs.Moment.Calendar
import Quiescence.Proofs.Moment.Spelling

/-! # What a time stands for

A stamp that is valid stands for an exact instant. What the reader finds for a time is its instant,
cut to nanoseconds.
-/

namespace Quiescence

/-- An instant of universal time in the supported years. A leap second counts as part of the second
before it, which is the last one of its minute. -/
structure Instant where
  /-- Whole seconds since the epoch. -/
  second : Int
  leap : Bool
  fraction : ℚ
  firstYear_le : Moment.firstYear ≤ (Date.ofDay (second / 86400)).year
  le_lastYear : (Date.ofDay (second / 86400)).year ≤ Moment.lastYear
  leap_last : leap → second % 60 = 59
  fraction_nonneg : 0 ≤ fraction
  fraction_lt : fraction < 1

namespace Instant

/-- The fraction has less than a second of nanoseconds. -/
theorem floor_lt (i : Instant) :
    ⌊i.fraction * Moment.nanosPerSecond⌋₊ < Moment.nanosPerSecond := by
  have some : (0 : ℚ) < Moment.nanosPerSecond := by norm_num [Moment.nanosPerSecond]
  rw [Nat.floor_lt (mul_nonneg i.fraction_nonneg some.le)]
  exact mul_lt_of_lt_one_left some i.fraction_lt

/-- The instant, cut to nanoseconds. -/
def moment (i : Instant) : Moment where
  second := i.second
  nano := ⌊i.fraction * Moment.nanosPerSecond⌋₊ + if i.leap then Moment.nanosPerSecond else 0
  firstYear_le := i.firstYear_le
  le_lastYear := i.le_lastYear
  nano_lt := by
    have := i.floor_lt
    split <;> omega
  leap late := by
    have := i.floor_lt
    split at late
    · next leaps => exact i.leap_last leaps
    · omega

end Instant

namespace Stamp

/-- The second that begins before a leap second ends. -/
def wholeSecond (s : Stamp) : Nat := if s.second = 60 then 59 else s.second

/-- Whole seconds from the epoch to what a stamp says, in universal time. -/
def sinceEpoch (s : Stamp) : Int :=
  s.date.toDay * 86400 + (s.hour * 3600 + s.minute * 60 + s.wholeSecond : Nat) - s.offset

/-- The calendar has the date, the clock has the time, and the years are supported. -/
structure Valid (s : Stamp) : Prop where
  date : s.date.isValid
  hour : s.hour < 24
  minute : s.minute < 60
  second : s.second ≤ 60
  localYear : Moment.firstYear ≤ s.date.year ∧ s.date.year ≤ Moment.lastYear
  year : Moment.firstYear ≤ (Date.ofDay (s.sinceEpoch / 86400)).year ∧
    (Date.ofDay (s.sinceEpoch / 86400)).year ≤ Moment.lastYear

/-- The instant for which a stamp stands. -/
structure StandsFor (s : Stamp) (i : Instant) : Prop where
  second : i.second = s.sinceEpoch
  leap : i.leap ↔ s.second = 60
  fraction : i.fraction = Nat.ofDigitChars 10 s.fraction 0 / 10 ^ s.fraction.length

end Stamp

/-- The text is a time whose stamp is valid and stands for the instant. -/
def Instant.SpelledBy (i : Instant) (text : String) : Prop :=
  ∃ s : Stamp, Moment.Spells text.toList s ∧ s.Valid ∧ s.StandsFor i

namespace Moment

variable {cs word : List Char} {n nano : Nat} {second : Int} {s : Stamp} {m : Moment}

/-! ## Nanoseconds -/

theorem Fraction.digits {digits : List Char} (spelled : Fraction word digits) :
    ∀ d ∈ digits, d.isDigit := by
  cases spelled with
  | none => simp
  | point _ digits => exact digits

theorem Spells.digits (spelled : Spells cs s) : ∀ d ∈ s.fraction, d.isDigit := by
  obtain ⟨_, _, _, _, _, _, ⟨_, _, _, _, _, fraction, _, _⟩⟩ := spelled
  exact fraction.digits

theorem ofDigitChars_lt {digits : List Char} (sound : ∀ d ∈ digits, d.isDigit) :
    Nat.ofDigitChars 10 digits 0 < 10 ^ digits.length := by
  induction digits with
  | nil => simp
  | cons d digits ih =>
    obtain ⟨digit, sound⟩ := List.forall_mem_cons.mp sound
    have nine : d.toNat - '0'.toNat + 1 ≤ 10 := by
      have := Char.isDigit_iff_toNat.mp digit
      simp only [Char.reduceToNat] at this ⊢
      omega
    rw [Nat.ofDigitChars_cons, Nat.ofDigitChars_eq_ofDigitChars_zero, Nat.mul_zero, Nat.zero_add]
    calc 10 ^ digits.length * (d.toNat - '0'.toNat) + Nat.ofDigitChars 10 digits 0
        < 10 ^ digits.length * (d.toNat - '0'.toNat) + 10 ^ digits.length :=
          Nat.add_lt_add_left (ih sound) _
      _ = 10 ^ digits.length * (d.toNat - '0'.toNat + 1) := (Nat.mul_succ _ _).symm
      _ ≤ 10 ^ (d :: digits).length := by
          rw [List.length_cons, Nat.pow_succ]
          exact Nat.mul_le_mul_left _ nine

theorem nanosOf_eq (digits : List Char) : nanosOf digits =
    Nat.ofDigitChars 10 (digits.take 9) 0 * 10 ^ (9 - (digits.take 9).length) :=
  rfl

/-- Nanoseconds are what is left of a fraction when the digits behind them are cut off. -/
theorem nanosOf_eq_div {digits : List Char} (sound : ∀ d ∈ digits, d.isDigit) :
    nanosOf digits = Nat.ofDigitChars 10 digits 0 * nanosPerSecond / 10 ^ digits.length := by
  have billion : nanosPerSecond = 10 ^ 9 := rfl
  rcases Nat.le_total digits.length 9 with short | long
  · have split : 10 ^ 9 = 10 ^ (9 - digits.length) * 10 ^ digits.length := by
      rw [← Nat.pow_add, Nat.sub_add_cancel short]
    rw [nanosOf_eq, List.take_of_length_le short, billion, split, ← Nat.mul_assoc,
      Nat.mul_div_cancel _ (Nat.pow_pos (by decide))]
  · -- The digits behind the ninth add less than one nanosecond.
    have front : (digits.take 9).length = 9 := List.length_take_of_le long
    have whole : 10 ^ digits.length = 10 ^ (digits.drop 9).length * 10 ^ 9 := by
      rw [← Nat.pow_add, List.length_drop, Nat.sub_add_cancel long]
    have value : Nat.ofDigitChars 10 digits 0 = 10 ^ (digits.drop 9).length *
        Nat.ofDigitChars 10 (digits.take 9) 0 + Nat.ofDigitChars 10 (digits.drop 9) 0 := by
      conv_lhs => rw [← List.take_append_drop 9 digits, Nat.ofDigitChars_append,
        Nat.ofDigitChars_eq_ofDigitChars_zero]
    have behind : Nat.ofDigitChars 10 (digits.drop 9) 0 < 10 ^ (digits.drop 9).length :=
      ofDigitChars_lt fun d mem => sound d (List.mem_of_mem_drop mem)
    rw [nanosOf_eq, front, billion, whole, Nat.mul_div_mul_right _ _ (Nat.pow_pos (by decide)),
      value, Nat.mul_add_div (Nat.pow_pos (by decide)), Nat.div_eq_of_lt behind]
    simp

/-- Digits of a fraction are cut to nanoseconds. -/
theorem nanosOf_eq_floor (sound : ∀ d ∈ s.fraction, d.isDigit) {i : Instant}
    (stands : s.StandsFor i) : nanosOf s.fraction = ⌊i.fraction * nanosPerSecond⌋₊ := by
  rw [nanosOf_eq_div sound, ← Nat.floor_div_eq_div (K := ℚ), stands.fraction]
  push_cast
  rw [div_mul_eq_mul_div]

/-! ## Whole times -/

theorem OffsetSize.minutes (spelled : OffsetSize word n) : n % 60 = 0 := by
  obtain ⟨⟩ := spelled
  omega

/-- Offsets are whole minutes. -/
theorem Offset.minutes {offset : Int} (spelled : Offset word offset) : offset % 60 = 0 := by
  cases spelled with
  | zulu => rfl
  | utc => rfl
  | east size =>
    have := size.minutes
    omega
  | west _ size =>
    have := size.minutes
    omega

theorem Spells.minutes (spelled : Spells cs s) : s.offset % 60 = 0 := by
  obtain ⟨_, _, _, _, _, _, ⟨_, _, _, _, _, _, ⟨_, _, _, _, offset⟩, _⟩⟩ := spelled
  exact offset.minutes

theorem Spells.leap_last (spelled : Spells cs s) (leap : s.second = 60) :
    s.sinceEpoch % 60 = 59 := by
  have := spelled.minutes
  simp only [Stamp.sinceEpoch, Stamp.wholeSecond, leap, if_true]
  omega

/-- A valid stamp stands for an instant. A leap second stays at the end of its minute, because
offsets are whole minutes. -/
theorem Spells.exists_instant (spelled : Spells cs s) (valid : s.Valid) :
    ∃ i : Instant, s.StandsFor i := by
  have below : (Nat.ofDigitChars 10 s.fraction 0 : ℚ) < 10 ^ s.fraction.length :=
    mod_cast ofDigitChars_lt spelled.digits
  exact ⟨{
    second := s.sinceEpoch
    leap := s.second = 60
    fraction := Nat.ofDigitChars 10 s.fraction 0 / 10 ^ s.fraction.length
    firstYear_le := valid.year.1
    le_lastYear := valid.year.2
    leap_last := fun leap => spelled.leap_last (of_decide_eq_true leap)
    fraction_nonneg := by positivity
    fraction_lt := (div_lt_one (by positivity)).mpr below }, rfl, decide_eq_true_iff, rfl⟩

theorem make?_eq_some_iff : make? second nano = some m ↔ second = m.second ∧ nano = m.nano := by
  constructor
  · intro made
    unfold make? at made
    split at made <;> cases made
    exact ⟨rfl, rfl⟩
  · rintro ⟨rfl, rfl⟩
    rw [make?, dif_pos ⟨m.firstYear_le, m.le_lastYear, m.nano_lt, m.leap⟩]

/-- The instant of a stamp, cut to nanoseconds, has the seconds and nanoseconds of the stamp. -/
theorem moment_eq_iff (sound : ∀ d ∈ s.fraction, d.isDigit) {i : Instant}
    (stands : s.StandsFor i) : i.moment = m ↔
      s.sinceEpoch = m.second ∧
        (if s.second = 60 then nanosOf s.fraction + nanosPerSecond else nanosOf s.fraction) =
          m.nano := by
  have nano : (if s.second = 60 then nanosOf s.fraction + nanosPerSecond else nanosOf s.fraction) =
      i.moment.nano := by
    simp only [Instant.moment, nanosOf_eq_floor sound stands, stands.leap]
    split <;> rfl
  rw [nano, ← stands.second]
  exact Moment.ext_iff

/-- What is found for a date and a time of day is the instant, if it is valid. -/
theorem ofLocal?_eq_some_iff (spelled : Spells cs s) :
    ofLocal? s.date s.hour s.minute s.second (nanosOf s.fraction) s.offset = some m ↔
      s.Valid ∧ ∃ i : Instant, s.StandsFor i ∧ i.moment = m := by
  constructor
  · intro found
    unfold ofLocal? at found
    split at found
    · next ranges =>
      obtain ⟨first, last, date, hour, minute, second⟩ := ranges
      have parts : s.sinceEpoch = m.second ∧ _ := make?_eq_some_iff.mp found
      have valid : s.Valid := ⟨date, hour, minute, second, ⟨first, last⟩, by
        rw [parts.1]
        exact ⟨m.firstYear_le, m.le_lastYear⟩⟩
      obtain ⟨i, stands⟩ := spelled.exists_instant valid
      exact ⟨valid, i, stands, (moment_eq_iff spelled.digits stands).mpr parts⟩
    · cases found
  · rintro ⟨⟨date, hour, minute, second, ⟨first, last⟩, _⟩, i, stands, same⟩
    rw [ofLocal?, if_pos ⟨first, last, date, hour, minute, second⟩]
    exact make?_eq_some_iff.mpr ((moment_eq_iff spelled.digits stands).mp same)

/-- A text is read as a moment exactly if it is a time of the language with a valid stamp. The
moment is the instant of the stamp, cut to nanoseconds. -/
theorem ofRfc3339?_eq_some_iff {text : String} : ofRfc3339? text = some m ↔
    ∃ i : Instant, i.SpelledBy text ∧ i.moment = m := by
  rw [ofRfc3339?, parseChars_eq_some_iff]
  constructor
  · rintro ⟨s, spelled, found⟩
    obtain ⟨valid, i, stands, same⟩ := (ofLocal?_eq_some_iff spelled).mp found
    exact ⟨i, ⟨s, spelled, valid, stands⟩, same⟩
  · rintro ⟨i, ⟨s, spelled, valid, stands⟩, same⟩
    exact ⟨s, spelled, (ofLocal?_eq_some_iff spelled).mpr ⟨valid, i, stands, same⟩⟩

end Moment

end Quiescence
