import Mathlib.Tactic.IntervalCases
import Quiescence.Moment.Calendar

/-! # Days and dates

Every day has a date of the calendar, and the day of that date is the day again; every date of the
calendar has a day, and the date of that day is the date again. Both directions count in years that
begin in March, so the place of a day in its era is the same for both. Days are numbered one by one,
from the first of January 1970 on.
-/

namespace Quiescence.Date

/-- The place of a day in its era of four hundred years: its century, its cycle of four years, its
year and its day. A leap day is the last of a cycle's last year, unless the century ends without
it. -/
structure Place (day : Int) where
  era : Int
  century : Nat
  cycle : Nat
  year : Nat
  dayOfYear : Nat
  century_le : century ≤ 3
  cycle_le : cycle ≤ 24
  year_le : year ≤ 3
  dayOfYear_le : dayOfYear ≤ 365
  leap : dayOfYear = 365 → year = 3 ∧ (cycle = 24 → century = 3)
  total : day + epochShift =
    era * 146097 + (century * 36524 + cycle * 1461 + year * 365 + dayOfYear : Nat)

namespace Place

variable {day : Int} (p : Place day)

/-- The year that began in March before the day. -/
def marchYear : Int := p.era * 400 + (p.century * 100 + p.cycle * 4 + p.year : Nat)

/-- The month, counted from March as zero. -/
def month : Nat := (5 * p.dayOfYear + 2) / 153

/-- The day of the month, counted from one. -/
def dayOfMonth : Nat := p.dayOfYear - (153 * p.month + 2) / 5 + 1

/-- The date of the day. January and February belong to the March year of the year before. -/
def date : Date where
  year := if p.month < 10 then p.marchYear else p.marchYear + 1
  month := if p.month < 10 then p.month + 3 else p.month - 9
  day := p.dayOfMonth

theorem month_le : p.month ≤ 11 := by
  have := p.dayOfYear_le
  unfold month
  omega

end Place

/-- The place of every day, divided off from the largest unit to the smallest. -/
def place (day : Int) : Place day :=
  let dayOfEra := ((day + epochShift) % 146097).toNat
  let century := min (dayOfEra / 36524) 3
  let dayOfCentury := dayOfEra - century * 36524
  let cycle := dayOfCentury / 1461
  let dayOfCycle := dayOfCentury - cycle * 1461
  let year := min (dayOfCycle / 365) 3
  { era := (day + epochShift) / 146097
    century
    cycle
    year
    dayOfYear := dayOfCycle - year * 365
    century_le := by omega
    cycle_le := by omega
    year_le := by omega
    dayOfYear_le := by omega
    leap := by omega
    total := by omega }

variable {day : Int}

/-- The month as it is counted from January tells where the March year began. -/
theorem Place.month_date_le_two_iff (p : Place day) : p.date.month ≤ 2 ↔ ¬ p.month < 10 := by
  have := p.month_le
  simp only [Place.date]
  split_ifs <;> omega

theorem ofDay_eq (day : Int) : ofDay day = (place day).date := by
  have month := (place day).month_date_le_two_iff
  have year : (if (place day).date.month ≤ 2 then (place day).marchYear + 1
      else (place day).marchYear) = (place day).date.year := by
    simp only [month, ite_not]
    rfl
  rw [ofDay, Place.date, Date.mk.injEq]
  exact ⟨year, rfl, rfl⟩

/-- The day of a date is the day again. -/
theorem Place.toDay_date (p : Place day) : p.date.toDay = day := by
  have march : (if p.date.month ≤ 2 then p.date.year - 1 else p.date.year) = p.marchYear := by
    simp only [p.month_date_le_two_iff]
    simp only [Place.date]
    split_ifs <;> omega
  have fromMarch : (if p.date.month ≤ 2 then (p.date.month : Int) + 9 else p.date.month - 3) =
      p.month := by
    simp only [p.month_date_le_two_iff]
    simp only [Place.date]
    split_ifs <;> omega
  have inYear : (153 * (p.month : Int) + 2) / 5 + p.dayOfMonth - 1 = p.dayOfYear := by
    simp only [Place.dayOfMonth, Place.month]
    omega
  have day : p.date.day = p.dayOfMonth := rfl
  have := p.century_le
  have := p.cycle_le
  have := p.year_le
  have := p.total
  rw [toDay, march, fromMarch, day]
  simp only [inYear, Place.marchYear]
  omega

/-- The year in which a March year with a leap day ends is a leap year. -/
theorem Place.isLeap_of_last (p : Place day) (last : p.dayOfYear = 365) :
    isLeap (p.marchYear + 1) := by
  obtain ⟨year, century⟩ := p.leap last
  have := p.century_le
  have := p.cycle_le
  simp only [isLeap, marchYear, year, Bool.and_eq_true, Bool.or_eq_true, beq_iff_eq, bne_iff_ne]
  omega

/-- No month is longer than the calendar has it. -/
theorem Place.dayOfMonth_le (p : Place day) : p.dayOfMonth ≤ daysIn p.date.year p.date.month := by
  have inYear := p.dayOfYear_le
  have month : p.month = (5 * p.dayOfYear + 2) / 153 := rfl
  have leap := p.isLeap_of_last
  have twelve := p.month_le
  simp only [dayOfMonth, date]
  generalize p.month = m at *
  obtain february | shorter := Nat.eq_or_lt_of_le twelve
  · by_cases last : p.dayOfYear = 365
    · simp [february, daysIn, leap last, last]
    · simp only [february, daysIn]
      split_ifs <;> omega
  · interval_cases m <;> simp [daysIn] <;> omega

/-- Every day has a date that the calendar has. -/
theorem Place.isValid_date (p : Place day) : p.date.isValid := by
  have month : 1 ≤ p.date.month ∧ p.date.month ≤ 12 := by
    have := p.month_le
    simp only [date]
    split_ifs <;> omega
  have first : 1 ≤ p.date.day := Nat.succ_pos _
  have last : p.date.day ≤ daysIn p.date.year p.date.month := p.dayOfMonth_le
  simp [isValid, month, first, last]

theorem toDay_ofDay (day : Int) : (ofDay day).toDay = day := by
  rw [ofDay_eq, Place.toDay_date]

theorem isValid_ofDay (day : Int) : (ofDay day).isValid := by
  rw [ofDay_eq]
  exact Place.isValid_date _

/-- Months and days have at most two digits. -/
theorem lt_of_isValid {d : Date} (valid : d.isValid) : d.month < 100 ∧ d.day < 100 := by
  have longest : daysIn d.year d.month ≤ 31 := by
    unfold daysIn
    split_ifs <;> omega
  simp only [isValid, Bool.and_eq_true, decide_eq_true_eq] at valid
  omega

variable {d : Date}

/-! ## Counting days -/

/-- The date of the day after. -/
def next (d : Date) : Date :=
  if d.day < daysIn d.year d.month then ⟨d.year, d.month, d.day + 1⟩
  else if d.month < 12 then ⟨d.year, d.month + 1, 1⟩
  else ⟨d.year + 1, 1, 1⟩

theorem isValid_mk_iff {year : Int} {month day : Nat} : isValid ⟨year, month, day⟩ ↔
    (1 ≤ month ∧ month ≤ 12) ∧ 1 ≤ day ∧ day ≤ daysIn year month := by
  simp [isValid, and_assoc]

theorem isLeap_iff {year : Int} :
    isLeap year ↔ year % 4 = 0 ∧ (year % 100 ≠ 0 ∨ year % 400 = 0) := by
  simp [isLeap]

/-- February is the end of a March year, and makes up for what that has besides 365 days. -/
theorem toDay_march (year : Int) :
    toDay ⟨year, 3, 1⟩ = toDay ⟨year, 2, daysIn year 2⟩ + 1 := by
  have leap := @isLeap_iff year
  by_cases long : isLeap year <;> simp [toDay, daysIn, long] at leap ⊢ <;> omega

/-- A month begins on the day after the last of the month before. -/
theorem toDay_month (year : Int) {month : Nat} (first : 1 ≤ month) (last : month < 12) :
    toDay ⟨year, month + 1, 1⟩ = toDay ⟨year, month, daysIn year month⟩ + 1 := by
  obtain rfl | other := eq_or_ne month 2
  · exact toDay_march year
  · interval_cases month <;> simp [toDay, daysIn] at other ⊢ <;> omega

/-- Days are counted one by one. -/
theorem toDay_next (valid : d.isValid) : d.next.toDay = d.toDay + 1 := by
  obtain ⟨year, month, day⟩ := d
  obtain ⟨⟨first, last⟩, _, fits⟩ := isValid_mk_iff.mp valid
  unfold next
  split_ifs with within december
  · simp only [toDay]
    omega
  · obtain rfl : day = daysIn year month := Nat.le_antisymm fits (Nat.le_of_not_lt within)
    exact toDay_month year first december
  · -- December has the same March year as the January that follows it.
    obtain rfl : month = 12 := Nat.le_antisymm last (Nat.le_of_not_lt december)
    obtain rfl : day = 31 := Nat.le_antisymm fits (Nat.le_of_not_lt within)
    simp [toDay]
    omega

theorem toDay_epoch : toDay ⟨1970, 1, 1⟩ = 0 := rfl

/-! ## The date of a day -/

/-- A day has one place only. -/
theorem Place.unique (p q : Place day) : p = q := by
  obtain ⟨e, c, y, r, d, hc, hy, hr, hd, hl, ht⟩ := p
  obtain ⟨e', c', y', r', d', hc', hy', hr', hd', hl', ht'⟩ := q
  -- From the largest unit to the smallest: what is left of a day is less than the unit.
  obtain rfl : e = e' := by omega
  obtain rfl : c = c' := by omega
  obtain rfl : y = y' := by omega
  obtain rfl : r = r' := by omega
  obtain rfl : d = d' := by omega
  rfl

/-- The month of a date, counted from March as zero. -/
def fromMarch (d : Date) : Nat := if d.month ≤ 2 then d.month + 9 else d.month - 3

/-- The year that began in March before the date. -/
def marchYear (d : Date) : Int := if d.month ≤ 2 then d.year - 1 else d.year

/-- The number of a day in terms of the March year. -/
theorem toDay_eq (valid : d.isValid) : d.toDay + epochShift = d.marchYear / 400 * 146097 +
    (d.marchYear % 400 * 365 + d.marchYear % 400 / 4 - d.marchYear % 400 / 100 +
      ((153 * d.fromMarch + 2) / 5 + d.day - 1 : Nat)) := by
  have pos : 1 ≤ d.day := (isValid_mk_iff.mp valid).2.1
  have march : (if d.month ≤ 2 then (d.month : Int) + 9 else d.month - 3) = d.fromMarch := by
    unfold fromMarch
    split_ifs <;> omega
  rw [toDay, march]
  change d.marchYear / 400 * 146097 + (d.marchYear % 400 * 365 + d.marchYear % 400 / 4 -
    d.marchYear % 400 / 100 + ((153 * (d.fromMarch : Int) + 2) / 5 + d.day - 1)) - epochShift
      + epochShift = _
  omega

/-- The days of a month end before the next one begins. February has a last day in leap years
only. -/
theorem day_fits (valid : d.isValid) : d.fromMarch ≤ 11 ∧
    if d.fromMarch = 11 then d.day ≤ 28 ∨ d.day = 29 ∧ isLeap (d.marchYear + 1)
    else (153 * d.fromMarch + 2) / 5 + d.day ≤ (153 * (d.fromMarch + 1) + 2) / 5 := by
  obtain ⟨year, month, day⟩ := d
  obtain ⟨⟨first, last⟩, _, fits⟩ := isValid_mk_iff.mp valid
  simp only [fromMarch, marchYear]
  interval_cases month <;> simp [daysIn] at fits ⊢ <;> try omega
  split_ifs at fits with leap
  · simp [leap]
    omega
  · exact .inl fits

/-- The place of a date's day. -/
def placed (d : Date) (valid : d.isValid) : Place d.toDay where
  era := d.marchYear / 400
  century := (d.marchYear % 400 / 100).toNat
  cycle := (d.marchYear % 100 / 4).toNat
  year := (d.marchYear % 4).toNat
  dayOfYear := (153 * d.fromMarch + 2) / 5 + d.day - 1
  century_le := by omega
  cycle_le := by omega
  year_le := by omega
  dayOfYear_le := by
    have := day_fits valid
    split_ifs at this <;> omega
  leap := by
    obtain ⟨_, fits⟩ := day_fits valid
    intro last
    split_ifs at fits
    · have leap := isLeap_iff.mp (fits.resolve_left (by omega)).2
      omega
    · omega
  total := by
    have := day_fits valid
    rw [toDay_eq valid]
    omega

/-- The date of a date's day is the date again. -/
theorem ofDay_toDay (valid : d.isValid) : ofDay d.toDay = d := by
  obtain ⟨twelve, fits⟩ := day_fits valid
  obtain ⟨months, pos, _⟩ := isValid_mk_iff.mp valid
  have inYear : (placed d valid).month = d.fromMarch := by
    simp only [Place.month, placed]
    split_ifs at fits <;> omega
  have march : (placed d valid).marchYear = d.marchYear := by
    simp only [Place.marchYear, placed]
    omega
  have inMonth : (placed d valid).dayOfMonth = d.day := by
    rw [Place.dayOfMonth, inYear]
    simp only [placed]
    omega
  rw [ofDay_eq, (place d.toDay).unique (placed d valid), Place.date, inYear, march, inMonth]
  obtain ⟨year, month, day⟩ := d
  simp only [fromMarch, marchYear, mk.injEq, and_true] at months ⊢
  split_ifs <;> omega

end Quiescence.Date
