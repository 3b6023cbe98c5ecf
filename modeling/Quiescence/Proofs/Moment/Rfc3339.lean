import Quiescence.Proofs.Moment.Instant

/-! # Times that are read again

A moment is read from what was written of it, to the nanosecond and in leap seconds too: what is
written spells the date and the time of day that the moment shows.
-/

namespace Quiescence.Moment

variable {width n : Nat} {c : Char}

/-! ## Numbers of a fixed width -/

theorem toList_padded (width n : Nat) : (padded width n).toList =
    List.replicate (width - (Nat.toDigits 10 n).length) '0' ++ Nat.toDigits 10 n := by
  simp only [padded, Nat.toString_eq_ofList_toDigits, String.toList_append, String.toList_ofList,
    String.length_ofList]

theorem isDigit_of_mem_padded (mem : c ∈ (padded width n).toList) : c.isDigit := by
  rw [toList_padded, List.mem_append] at mem
  rcases mem with zero | digit
  · rw [List.eq_of_mem_replicate zero]
    rfl
  · exact Nat.isDigit_of_mem_toDigits (by decide) (by decide) digit

theorem length_padded (pos : 0 < width) (fits : n < 10 ^ width) :
    (padded width n).toList.length = width := by
  have := (Nat.length_toDigits_le_iff (b := 10) (n := n) (by decide) pos).mpr fits
  rw [toList_padded, List.length_append, List.length_replicate]
  omega

theorem ofDigitChars_padded (width n : Nat) :
    Nat.ofDigitChars 10 (padded width n).toList 0 = n := by
  rw [toList_padded, Nat.ofDigitChars_append, Nat.ofDigitChars_replicate_zero, Nat.mul_zero,
    Nat.ofDigitChars_ten_toDigits]

theorem padded_ne_nil (width n : Nat) : (padded width n).toList ≠ [] := by
  rw [toList_padded]
  exact List.append_ne_nil_of_right_ne_nil _ Nat.toDigits_ne_nil

/-- However wide a number is padded, it is a numeral. -/
theorem numeral_padded {places : Nat} (room : (padded places n).toList.length ≤ width) :
    Numeral width (padded places n).toList n where
  full := padded_ne_nil places n
  room := room
  digits _ := isDigit_of_mem_padded
  value := (ofDigitChars_padded places n).symm

/-! ## What is written -/

theorem blanks_nil : Blanks [] := by simp [Blanks]

theorem Spaced.here {α : Type} {language : List Char → α → Prop} {word : List Char} {a : α}
    (spelled : language word a) : Spaced language word a :=
  ⟨[], word, rfl, blanks_nil, spelled⟩

theorem field_padded (small : n < 100) : Spaced (Numeral 2) (padded 2 n).toList n :=
  .here (numeral_padded (length_padded (by decide) small).le)

theorem mark_here (c : Char) : Spaced (Mark c) [c] () := .here .mk

/-- A year is spelled by four digits, or else by a sign and its size. -/
theorem year_yearText (year : Int) : Spaced Year (yearText year).toList year := by
  have sized : Numeral _ (padded 4 year.natAbs).toList year.natAbs := numeral_padded le_rfl
  unfold yearText
  split_ifs with four negative
  · have full : (padded 4 year.toNat).toList.length = 4 := length_padded (by decide) (by omega)
    have plain := Year.plain (numeral_padded full.le)
    rw [Int.toNat_of_nonneg four.1] at plain
    exact .here plain
  · have minus := Year.minus sized
    rw [show -(year.natAbs : Int) = year by omega] at minus
    simpa using Spaced.here minus
  · have plus := Year.plus sized
    rw [show (year.natAbs : Int) = year by omega] at plus
    simpa using Spaced.here plus

/-- The digits of a fraction as it is written. -/
def fractionDigits (nano : Nat) : List Char :=
  if nano = 0 then []
  else if nano % 1000000 = 0 then (padded 3 (nano / 1000000)).toList
  else if nano % 1000 = 0 then (padded 6 (nano / 1000)).toList
  else (padded 9 nano).toList

theorem fraction_fractionText (nano : Nat) :
    Fraction (fractionText nano).toList (fractionDigits nano) := by
  have point (places n : Nat) :
      Fraction ("." ++ padded places n).toList (padded places n).toList := by
    simpa using Fraction.point (padded_ne_nil places n) fun _ => isDigit_of_mem_padded
  unfold fractionText fractionDigits
  split_ifs
  · exact .none
  · exact point _ _
  · exact point _ _
  · exact point _ _

theorem nanosOf_padded {places : Nat} (pos : 0 < places) (room : places ≤ 9)
    (fits : n < 10 ^ places) : nanosOf (padded places n).toList = n * 10 ^ (9 - places) := by
  have full := length_padded pos fits
  rw [nanosOf_eq, List.take_of_length_le (full.trans_le room), full, ofDigitChars_padded]

/-- The digits of a fraction are those of its nanoseconds. -/
theorem nanosOf_fractionDigits {nano : Nat} (small : nano < nanosPerSecond) :
    nanosOf (fractionDigits nano) = nano := by
  unfold nanosPerSecond at small
  unfold fractionDigits
  split_ifs with zero millis micros
  · rw [zero]
    rfl
  · rw [nanosOf_padded (by decide) (by decide) (by omega)]
    omega
  · rw [nanosOf_padded (by decide) (by decide) (by omega)]
    omega
  · rw [nanosOf_padded (by decide) (by decide) (by omega), Nat.sub_self, Nat.pow_zero, Nat.mul_one]

/-! ## Whole times -/

theorem hour_lt (m : Moment) : m.hour < 24 := by
  unfold hour secondOfDay
  omega

theorem minute_lt (m : Moment) : m.minute < 60 := by
  unfold minute
  omega

theorem shownNano_lt (m : Moment) : m.shownNano < nanosPerSecond :=
  Nat.mod_lt _ (by decide)

/-- The second that is shown is the one of the minute, and the sixtieth in a leap second. -/
theorem shown (m : Moment) :
    if m.shownSecond = 60 then m.secondOfDay % 60 = 59 ∧ m.nano = m.shownNano + nanosPerSecond
    else m.shownSecond = m.secondOfDay % 60 ∧ m.nano = m.shownNano := by
  have := m.nano_lt
  have := m.leap
  unfold shownSecond shownNano secondOfDay
  unfold nanosPerSecond at *
  split_ifs <;> omega

theorem shownSecond_le (m : Moment) : m.shownSecond ≤ 60 := by
  have shown := m.shown
  split_ifs at shown <;> omega

/-- The date and the time of day that are shown are those of the moment. -/
theorem ofLocal?_shown (m : Moment) :
    ofLocal? m.date m.hour m.minute m.shownSecond m.shownNano 0 = some m := by
  have shown := m.shown
  have whole : m.date.toDay * 86400 + (m.hour * 3600 + m.minute * 60 + m.secondOfDay % 60 : Nat)
      = m.second := by
    rw [date, Date.toDay_ofDay]
    unfold hour minute secondOfDay
    omega
  have valid : m.date.isValid := Date.isValid_ofDay _
  rw [ofLocal?, if_pos ⟨m.firstYear_le, m.le_lastYear, valid, m.hour_lt, m.minute_lt,
    m.shownSecond_le⟩]
  refine make?_eq_some_iff.mpr ?_
  rw [Int.sub_zero]
  split_ifs at shown ⊢
  · rw [← shown.1, ← shown.2]
    exact ⟨whole, rfl⟩
  · rw [shown.1, ← shown.2]
    exact ⟨whole, rfl⟩

/-- What a moment shows in universal time. -/
def stamp (m : Moment) : Stamp :=
  ⟨m.date, m.hour, m.minute, m.shownSecond, fractionDigits m.shownNano, 0⟩

/-- What is written of a moment spells what it shows. -/
theorem spells_toRfc3339 (m : Moment) : Spells m.toRfc3339.toList m.stamp := by
  have text : m.toRfc3339.toList = ((yearText m.date.year).toList ++ (['-'] ++
      ((padded 2 m.date.month).toList ++ (['-'] ++ (padded 2 m.date.day).toList)))) ++ 'T' ::
        ((padded 2 m.hour).toList ++ ([':'] ++ ((padded 2 m.minute).toList ++ ([':'] ++
          ((padded 2 m.shownSecond).toList ++ ((fractionText m.shownNano).toList ++
            (['Z'] ++ []))))))) := by
    simp [toRfc3339]
  have ⟨month, day⟩ : m.date.month < 100 ∧ m.date.day < 100 :=
    Date.lt_of_isValid (Date.isValid_ofDay _)
  have hour := Nat.lt_trans m.hour_lt (by decide : 24 < 100)
  have minute := Nat.lt_trans m.minute_lt (by decide : 60 < 100)
  have second := Nat.lt_of_le_of_lt m.shownSecond_le (by decide : 60 < 100)
  have date : SpellsDate _ m.date := .mk (year_yearText _) (mark_here '-') (field_padded month)
    (mark_here '-') (field_padded day)
  have time : SpellsTime _ m.stamp := .mk (field_padded hour) (mark_here ':') (field_padded minute)
    (mark_here ':') (field_padded second) (fraction_fractionText _) (.here (.zulu (.inl rfl)))
    blanks_nil
  rw [text]
  exact ⟨_, 'T', _, rfl, date, .inl rfl, time⟩

/-- A moment is read from the time that is written of it. -/
theorem ofRfc3339?_toRfc3339 (m : Moment) : ofRfc3339? m.toRfc3339 = some m := by
  rw [ofRfc3339?, parseChars_eq_some_iff]
  refine ⟨m.stamp, m.spells_toRfc3339, ?_⟩
  simp only [stamp, nanosOf_fractionDigits m.shownNano_lt]
  exact m.ofLocal?_shown

end Quiescence.Moment
