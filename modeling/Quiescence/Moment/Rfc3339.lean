import Quiescence.Moment
import Quiescence.Text.Blank

/-! # Times in RFC 3339

Moments are written as `YYYY-MM-DDTHH:MM:SS[.f]Z` with 0, 3, 6 or 9 digits of fraction, the fewest
that hold the value. The reader is more tolerant than the writer: white space may stand between the
parts, fields need not be padded, a space may stand for the `T`, and any offset from universal time
below a day is taken into account.
-/

namespace Quiescence.Moment

/-! ## Writing -/

/-- A year of up to four digits is padded to four; any other year carries its sign. -/
def yearText (year : Int) : String :=
  if 0 ≤ year ∧ year ≤ 9999 then padded 4 year.toNat
  else (if year < 0 then "-" else "+") ++ padded 4 year.natAbs

/-- A fraction of a second with 0, 3, 6 or 9 digits. -/
def fractionText (nano : Nat) : String :=
  if nano = 0 then ""
  else if nano % 1000000 = 0 then "." ++ padded 3 (nano / 1000000)
  else if nano % 1000 = 0 then "." ++ padded 6 (nano / 1000)
  else "." ++ padded 9 nano

/-- The moment in universal time. -/
def toRfc3339 (m : Moment) : String :=
  yearText m.date.year ++ "-" ++ padded 2 m.date.month ++ "-" ++ padded 2 m.date.day ++ "T"
    ++ padded 2 m.hour ++ ":" ++ padded 2 m.minute ++ ":" ++ padded 2 m.shownSecond
    ++ fractionText m.shownNano ++ "Z"

/-! ## Reading -/

/-- The digits at the front, at most `width` of them, and what follows. -/
def takeDigits (width : Nat) (cs : List Char) : List Char × List Char :=
  let digits := (cs.take width).takeWhile Char.isDigit
  (digits, cs.drop digits.length)

/-- A number of one to `width` digits. -/
def number? (width : Nat) (cs : List Char) : Option (Nat × List Char) :=
  match takeDigits width cs with
  | ([], _) => none
  | (digits, rest) => some (Nat.ofDigitChars 10 digits 0, rest)

/-- A number of one or two digits after optional white space. -/
def field? (cs : List Char) : Option (Nat × List Char) := number? 2 (Text.skipBlank cs)

/-- A year: up to four digits, or a sign and any number of digits. -/
def year? (cs : List Char) : Option (Int × List Char) :=
  match Text.skipBlank cs with
  | '-' :: rest => (number? rest.length rest).map fun (n, rest) => (-(n : Int), rest)
  | '+' :: rest => (number? rest.length rest).map fun (n, rest) => ((n : Int), rest)
  | rest => (number? 4 rest).map fun (n, rest) => ((n : Int), rest)

/-- The character `c` after optional white space. -/
def mark? (c : Char) (cs : List Char) : Option (List Char) :=
  match Text.skipBlank cs with
  | d :: rest => if d = c then some rest else none
  | [] => none

/-- A fraction of a second in nanoseconds. Digits after the ninth are dropped. -/
def fraction? : List Char → Option (Nat × List Char)
  | '.' :: rest =>
    match takeDigits 9 rest with
    | ([], _) => none
    | (digits, rest) =>
      let value := Nat.ofDigitChars 10 digits 0
      some (value * Nat.pow 10 (9 - digits.length), rest.dropWhile Char.isDigit)
  | rest => some (0, rest)

/-- Two digits. -/
def pair? : List Char → Option (Nat × List Char)
  | a :: b :: rest =>
    if a.isDigit && b.isDigit then some (Nat.ofDigitChars 10 [a, b] 0, rest) else none
  | _ => none

/-- The minutes and hours of an offset, in seconds. Colons and white space may stand between. -/
def offsetSize? (cs : List Char) : Option (Nat × List Char) := do
  let (hours, rest) ← pair? cs
  let (minutes, rest) ← pair? (rest.dropWhile fun c => c = ':' || Text.isBlank c)
  if minutes < 60 ∧ hours < 24 then some (hours * 3600 + minutes * 60, rest) else none

/-- An offset from universal time in seconds: `Z`, `UTC`, or a sign, hours and minutes. -/
def offset? (cs : List Char) : Option (Int × List Char) :=
  match cs with
  | 'Z' :: rest | 'z' :: rest => some (0, rest)
  | '+' :: rest => (offsetSize? rest).map fun (n, rest) => ((n : Int), rest)
  | '-' :: rest | '\u2212' :: rest => (offsetSize? rest).map fun (n, rest) => (-(n : Int), rest)
  | _ =>
    if (cs.take 3).map Char.toUpper = ['U', 'T', 'C'] then some (0, cs.drop 3) else none

/-- The moment with the given date and time of day at an offset. The local date too must lie in the
supported years; second 60 is a leap second. -/
def ofLocal? (date : Date) (hour minute second nano : Nat) (offset : Int) : Option Moment :=
  if firstYear ≤ date.year ∧ date.year ≤ lastYear ∧ date.isValid = true ∧ hour < 24 ∧ minute < 60
      ∧ second ≤ 60 then
    let leap := second = 60
    let shown := if leap then 59 else second
    let wall := date.toDay * 86400 + (hour * 3600 + minute * 60 + shown : Nat)
    make? (wall - offset) (if leap then nano + nanosPerSecond else nano)
  else none

/-- Reads a whole text as a moment. -/
def parseChars (cs : List Char) : Option Moment := do
  let (year, cs) ← year? cs
  let (month, cs) ← field? (← mark? '-' cs)
  let (day, cs) ← field? (← mark? '-' cs)
  let cs ← match cs with
    | 'T' :: rest | 't' :: rest | ' ' :: rest => some rest
    | _ => none
  let (hour, cs) ← field? cs
  let (minute, cs) ← field? (← mark? ':' cs)
  let (second, cs) ← field? (← mark? ':' cs)
  let (nano, cs) ← fraction? cs
  let (offset, cs) ← offset? (Text.skipBlank cs)
  if Text.skipBlank cs = [] then ofLocal? ⟨year, month, day⟩ hour minute second nano offset
  else none

/-- Reads a text as a moment. -/
def ofRfc3339? (s : String) : Option Moment := parseChars s.toList

end Quiescence.Moment
