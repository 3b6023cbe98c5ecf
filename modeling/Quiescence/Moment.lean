import Quiescence.Moment.Calendar

/-! # Moments

A moment is an instant of universal time, to the nanosecond. A leap second has no second of its own:
it is written into the fraction of the second before it, which then exceeds one second.
-/

namespace Quiescence

namespace Moment

/-- Nanoseconds in a second. -/
def nanosPerSecond : Nat := 1000000000

/-- The first year that a moment may lie in. -/
def firstYear : Int := -262143

/-- The last year that a moment may lie in. -/
def lastYear : Int := 262142

end Moment

open Moment in
/-- An instant: whole seconds since 1970-01-01T00:00:00Z, and nanoseconds after that. From a billion
nanoseconds on the moment lies in a leap second, which comes after the last second of a minute. -/
@[ext]
structure Moment where
  second : Int
  nano : Nat
  firstYear_le : firstYear ≤ (Date.ofDay (second / 86400)).year := by decide
  le_lastYear : (Date.ofDay (second / 86400)).year ≤ lastYear := by decide
  nano_lt : nano < 2 * nanosPerSecond := by decide
  leap : nanosPerSecond ≤ nano → second % 60 = 59 := by decide
deriving DecidableEq

namespace Moment

/-- The moment of some seconds and nanoseconds, if there is one. -/
def make? (second : Int) (nano : Nat) : Option Moment :=
  if sound : firstYear ≤ (Date.ofDay (second / 86400)).year ∧
      (Date.ofDay (second / 86400)).year ≤ lastYear ∧ nano < 2 * nanosPerSecond ∧
      (nanosPerSecond ≤ nano → second % 60 = 59) then
    some ⟨second, nano, sound.1, sound.2.1, sound.2.2.1, sound.2.2.2⟩
  else none

/-- 1970-01-01T00:00:00Z. -/
def epoch : Moment := { second := 0, nano := 0 }

/-- The last moment without a leap second. -/
def last : Moment := { second := 8210266876799, nano := 999999999 }

/-- The moment so many nanoseconds after the epoch, if there is one. -/
def ofNanos? (nanos : Int) : Option Moment :=
  make? (nanos / nanosPerSecond) (nanos % nanosPerSecond).toNat

/-- The moment `ms` milliseconds later. Time stands still at the last moment. -/
def after (m : Moment) (ms : Nat) : Moment :=
  let nanos := m.nano + ms % 1000 * 1000000
  (make? (m.second + (ms / 1000 : Nat) + (nanos / nanosPerSecond : Nat))
    (nanos % nanosPerSecond)).getD last

/-- The date in universal time. -/
def date (m : Moment) : Date := Date.ofDay (m.second / 86400)

/-- The second of the day, less the leap second. -/
def secondOfDay (m : Moment) : Nat := (m.second % 86400).toNat

/-- The hour of the day. -/
def hour (m : Moment) : Nat := m.secondOfDay / 3600

/-- The minute of the hour. -/
def minute (m : Moment) : Nat := m.secondOfDay / 60 % 60

/-- The second of the minute as it is written: 60 in a leap second. -/
def shownSecond (m : Moment) : Nat := m.secondOfDay % 60 + m.nano / nanosPerSecond

/-- The fraction of the second as it is written, in nanoseconds. -/
def shownNano (m : Moment) : Nat := m.nano % nanosPerSecond

/-- The decimal digits of `n`, with zeros before them up to `width` places. -/
def padded (width n : Nat) : String :=
  let digits := toString n
  String.ofList (List.replicate (width - digits.length) '0') ++ digits

/-- The time of day `HH:MM:SS.mmm`, cut to milliseconds. -/
def clockText (m : Moment) : String :=
  padded 2 m.hour ++ ":" ++ padded 2 m.minute ++ ":" ++ padded 2 m.shownSecond ++ "."
    ++ padded 3 (m.shownNano / 1000000)

end Moment

end Quiescence
