import Quiescence.Document
import Quiescence.Moment.Calendar
import Quiescence.Toml.Scan

/-! # Numbers, dates and times of TOML

Integers have sixty-four bits with a sign. A number with a fraction or an exponent is rounded to the
nearest number of sixty-four-bit precision; only a negative one may be too large, and is infinite
then. Dates and times are recognised, but their values do not matter to anyone.
-/

namespace Quiescence.Toml

/-! ## Digits -/

/-- More digits, with single underscores between them. -/
def moreDigits? (isDigit : Char → Bool) : Scan (List Char)
  | '_' :: c :: rest =>
    if isDigit c then (moreDigits? isDigit rest).map fun (ds, rest) => (c :: ds, rest) else none
  | c :: rest =>
    if isDigit c then (moreDigits? isDigit rest).map fun (ds, rest) => (c :: ds, rest)
    else if c = '_' then none
    else some ([], c :: rest)
  | [] => some ([], [])

/-- One digit or more, with single underscores between them. -/
def digits? (isDigit : Char → Bool) : Scan (List Char)
  | c :: rest =>
    if isDigit c then (moreDigits? isDigit rest).map fun (ds, rest) => (c :: ds, rest) else none
  | [] => none

/-- The number written with these digits. -/
def number (base : Nat) (ds : List Char) : Nat :=
  ds.foldl (fun n c => n * base + (Text.hexValue? c).getD 0) 0

/-- Whether there is a minus, and what follows a sign. -/
def sign : List Char → Bool × List Char
  | '-' :: rest => (true, rest)
  | '+' :: rest => (false, rest)
  | rest => (false, rest)

/-- Decimal digits without a zero before others. -/
def whole? : Scan (List Char)
  | '0' :: rest => some (['0'], rest)
  | cs => digits? Char.isDigit cs

/-! ## Numbers -/

/-- An integer with these digits, if it has one. -/
def integerDoc? (base : Nat) (negative : Bool) (ds : List Char) : Option Doc :=
  let n := number base ds
  if negative then (if n ≤ Nat.pow 2 63 then some (.int (-(n : Int))) else none)
  else if n < Nat.pow 2 63 then some (.int n)
  else none

/-- An integer with a base other than ten. -/
def based? (base : Nat) (isDigit : Char → Bool) : Scan Doc := fun cs => do
  let (ds, rest) ← digits? isDigit cs
  return (← integerDoc? base false ds, rest)

/-- An integer. Only a decimal one may carry a sign. -/
def integer? : Scan Doc
  | '0' :: 'x' :: rest => based? 16 (fun c => (Text.hexValue? c).isSome) rest
  | '0' :: 'o' :: rest => based? 8 (fun c => '0' ≤ c && c ≤ '7') rest
  | '0' :: 'b' :: rest => based? 2 (fun c => c = '0' || c = '1') rest
  | cs => do
    let (negative, rest) := sign cs
    let (ds, rest) ← whole? rest
    return (← integerDoc? 10 negative ds, rest)

/-- The value of an exponent, if one comes next. -/
def exponent? : Scan (Option Int)
  | 'e' :: rest | 'E' :: rest => do
    let (negative, rest) := sign rest
    let (ds, rest) ← digits? Char.isDigit rest
    let n : Nat := number 10 ds
    return (some (if negative then -(n : Int) else n), rest)
  | rest => some (none, rest)

/-- The digits of a fraction; none when no point comes next. -/
def fraction? : Scan (Option (List Char))
  | '.' :: rest => (digits? Char.isDigit rest).map fun (ds, rest) => (some ds, rest)
  | rest => some (none, rest)

/-- The number `digits · 10 ^ exponent`. -/
def floatDoc? (negative : Bool) (digits : Nat) (exponent : Int) : Option Doc :=
  match Decimal.Magnitude.ofDecimal? digits exponent with
  | some m => some (.float (.finite negative m))
  | none => if negative then some (.float (.infinite true)) else none

/-- A number with a fraction, an exponent, or both. -/
def decimal? : Scan Doc := fun cs => do
  let (negative, rest) := sign cs
  let (whole, rest) ← whole? rest
  let (fraction, rest) ← fraction? rest
  let (exponent, rest) ← exponent? rest
  if fraction.isNone && exponent.isNone then none
  else
    let fraction := fraction.getD []
    let doc ← floatDoc? negative (number 10 (whole ++ fraction))
      (exponent.getD 0 - (fraction.length : Nat))
    return (doc, rest)

/-- One of the values that are no numbers. -/
def special? : Scan Doc := fun cs =>
  match sign cs with
  | (negative, 'i' :: 'n' :: 'f' :: rest) => some (.float (.infinite negative), rest)
  | (_, 'n' :: 'a' :: 'n' :: rest) => some (.float .nan, rest)
  | _ => none

/-! ## Dates and times -/

/-- A number of exactly `width` digits between two bounds. -/
def ranged? (width low high : Nat) : Scan Nat := fun cs =>
  let ds := (cs.take width).takeWhile Char.isDigit
  let n := number 10 ds
  if ds.length = width ∧ low ≤ n ∧ n ≤ high then some (n, cs.drop width) else none

/-- What follows the character `c`. -/
def mark? (c : Char) : List Char → Option (List Char)
  | d :: rest => if d = c then some rest else none
  | [] => none

/-- What follows a date. -/
def date? (cs : List Char) : Option (List Char) := do
  let (year, cs) ← ranged? 4 0 9999 cs
  let (month, cs) ← ranged? 2 1 12 (← mark? '-' cs)
  let (_, cs) ← ranged? 2 1 (Date.daysIn year month) (← mark? '-' cs)
  return cs

/-- What follows a time of day. -/
def time? (cs : List Char) : Option (List Char) := do
  let (_, cs) ← ranged? 2 0 23 cs
  let (_, cs) ← ranged? 2 0 59 (← mark? ':' cs)
  let (_, cs) ← ranged? 2 0 60 (← mark? ':' cs)
  return skipFraction cs
where
  /-- What follows a fraction of a second, if one comes next. -/
  skipFraction : List Char → List Char
    | '.' :: c :: rest =>
      if c.isDigit then rest.dropWhile Char.isDigit else '.' :: c :: rest
    | cs => cs

/-- What follows an offset from universal time. -/
def offset? : List Char → Option (List Char)
  | 'Z' :: rest | 'z' :: rest => some rest
  | '+' :: rest | '-' :: rest => do
    let (_, rest) ← ranged? 2 0 23 rest
    let (_, rest) ← ranged? 2 0 59 (← mark? ':' rest)
    return rest
  | _ => none

/-- What follows the time and the offset after a date, if a time comes next. -/
def skipTime (cs : List Char) : List Char :=
  match cs with
  | 'T' :: rest | 't' :: rest | ' ' :: rest =>
    match time? rest with
    | some rest => (offset? rest).getD rest
    | none => cs
  | cs => cs

/-- A date, a time, or both. -/
def datetime? : Scan Doc := fun cs =>
  match date? cs with
  | some rest => some (.datetime, skipTime rest)
  | none => (time? cs).map (.datetime, ·)

/-! ## Scalars -/

/-- Any value but an array or a table. -/
def scalar? : Scan Doc := fun cs =>
  match cs with
  | '"' :: _ | '\'' :: _ => (text? cs).map fun (s, rest) => (.str (String.ofList s), rest)
  | 't' :: 'r' :: 'u' :: 'e' :: rest => some (.bool true, rest)
  | 'f' :: 'a' :: 'l' :: 's' :: 'e' :: rest => some (.bool false, rest)
  | _ => datetime? cs <|> decimal? cs <|> special? cs <|> integer? cs

end Quiescence.Toml
