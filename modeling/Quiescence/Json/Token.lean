import Quiescence.Document

/-! # The tokens of JSON

A JSON text is a sequence of brackets, separators, texts and other scalars, with white space between
them. The tokens of a text that breaks the rules end with `bad`: nothing after that place is read.
-/

namespace Quiescence.Json

/-- A token, with its value if it has one. -/
inductive Token where
  | openArray
  | closeArray
  | openObject
  | closeObject
  | comma
  | colon
  /-- A text between quotes; none when its escapes name no character. -/
  | text (value : Option String)
  /-- Any other scalar. -/
  | scalar (value : Doc)
  | bad

/-- The white space of JSON. -/
def isSpace (c : Char) : Bool := c = ' ' || c = '\n' || c = '\t' || c = '\r'

/-! ## Texts -/

/-- A part of a text: a character, or one half of a pair that names a character together. -/
inductive Piece where
  | char (c : Char)
  | half (unit : Nat)

/-- The number of four digits to base sixteen. -/
def hex4? (a b c d : Char) : Option Nat := do
  let a ← Text.hexValue? a
  let b ← Text.hexValue? b
  let c ← Text.hexValue? c
  let d ← Text.hexValue? d
  return ((a * 16 + b) * 16 + c) * 16 + d

/-- The part of a text that a number of four digits stands for. -/
def Piece.ofUnit (n : Nat) : Piece :=
  if 0xD800 ≤ n ∧ n ≤ 0xDFFF then .half n else .char (Char.ofNat n)

/-- The character that an escape by one letter stands for. -/
def escaped? (c : Char) : Option Char :=
  if c = '"' ∨ c = '\\' ∨ c = '/' then some c
  else if c = 'b' then some '\x08'
  else if c = 'f' then some '\x0c'
  else if c = 'n' then some '\n'
  else if c = 'r' then some '\r'
  else if c = 't' then some '\t'
  else none

/-- The parts of a text up to its closing quote, and what follows the quote. -/
def pieces? : List Char → Option (List Piece × List Char)
  | '"' :: rest => some ([], rest)
  | '\\' :: 'u' :: a :: b :: c :: d :: rest => do
    let unit ← hex4? a b c d
    let (more, rest) ← pieces? rest
    return (Piece.ofUnit unit :: more, rest)
  | '\\' :: c :: rest => do
    let c ← escaped? c
    let (more, rest) ← pieces? rest
    return (.char c :: more, rest)
  | c :: rest =>
    if c.toNat < 0x20 then none
    else do
      let (more, rest) ← pieces? rest
      return (.char c :: more, rest)
  | [] => none

/-- The characters of the parts: a high half needs a low half after it, and no low half stands
alone. -/
def assemble? : List Piece → Option (List Char)
  | [] => some []
  | .char c :: rest => (c :: ·) <$> assemble? rest
  | .half high :: .half low :: rest =>
    if high < 0xDC00 ∧ 0xDC00 ≤ low then
      (Char.ofNat (0x10000 + (high - 0xD800) * 0x400 + (low - 0xDC00)) :: ·) <$> assemble? rest
    else none
  | .half _ :: _ => none

/-! ## Numbers -/

/-- The largest number that is read exactly. -/
def maxExact : Nat := Nat.pow 2 64 - 1

/-- Adds digits to a number as long as it stays exact, and counts them. -/
def absorb : List Char → Nat → Nat → Nat × Nat
  | [], n, taken => (n, taken)
  | c :: rest, n, taken =>
    let next := 10 * n + (c.toNat - '0'.toNat)
    if next ≤ maxExact then absorb rest next (taken + 1) else (n, taken)

/-- Divides by `10 ^ places`, by `10 ^ 308` at a time; `fuel` steps of that size leave nothing of
any exact number. -/
def shrink : Nat → Nat → Decimal.Magnitude → Decimal.Magnitude
  | 0, _, _ => .zero
  | fuel + 1, places, m =>
    let by10 (k : Nat) : Decimal.Magnitude :=
      ((Decimal.Magnitude.ofDecimal? 1 k).bind m.div?).getD .zero
    if m.mantissa = 0 then m
    else if places ≤ 308 then by10 places
    else shrink fuel (places - 308) (by10 308)

/-- The number `n · 10 ^ exponent`, computed from the rounded factors; none when it is too large. -/
def scaleByTen (n : Nat) (exponent : Int) : Option Decimal.Magnitude := do
  let m ← Decimal.Magnitude.ofDecimal? n 0
  if n = 0 then some .zero
  else if 308 < exponent then none
  else if 0 ≤ exponent then m.mul? (← Decimal.Magnitude.ofDecimal? 1 exponent)
  else some (shrink 4 exponent.natAbs m)

/-- The document of a number with a fraction, with an exponent, or out of the range of integers.
Digits beyond the largest exact number count as zeros. -/
def floatDoc (negative : Bool) (whole fraction : List Char) (exponent : Int) : Doc :=
  let (n, taken) := absorb whole 0 0
  let (n, more) := absorb fraction n 0
  match scaleByTen n (exponent + (whole.length - taken : Nat) - more) with
  | some m => .float (.finite negative m)
  | none => .unrepresentable

/-- The document of a number without fraction and exponent. Integers have sixty-four bits, with or
without a sign; a negative zero is no integer. -/
def integerDoc (negative : Bool) (whole : List Char) : Doc :=
  let n := Nat.ofDigitChars 10 whole 0
  if negative then
    if 0 < n ∧ n ≤ Nat.pow 2 63 then .int (-(n : Int)) else floatDoc true whole [] 0
  else if n ≤ maxExact then .int n
  else floatDoc false whole [] 0

/-- At least one digit, and what follows the digits. -/
def digits? (cs : List Char) : Option (List Char × List Char) :=
  match cs.takeWhile Char.isDigit with
  | [] => none
  | ds => some (ds, cs.dropWhile Char.isDigit)

/-- The digits of a fraction, if a point comes next. -/
def fraction? : List Char → Option (Option (List Char) × List Char)
  | '.' :: rest => (digits? rest).map fun (ds, rest) => (some ds, rest)
  | rest => some (none, rest)

/-- The value of an exponent, if one comes next. -/
def exponent? : List Char → Option (Option Int × List Char)
  | 'e' :: rest | 'E' :: rest =>
    let (negative, rest) := match rest with
      | '-' :: rest => (true, rest)
      | '+' :: rest => (false, rest)
      | rest => (false, rest)
    (digits? rest).map fun (ds, rest) =>
      let n := Nat.ofDigitChars 10 ds 0
      (some (if negative then -(n : Int) else n), rest)
  | rest => some (none, rest)

/-- A number without its sign, and what follows it. -/
def unsigned? (negative : Bool) (cs : List Char) : Option (Doc × List Char) := do
  let (whole, rest) ← digits? cs
  if whole.head? = some '0' ∧ 1 < whole.length then none
  else
    let (fraction, rest) ← fraction? rest
    let (exponent, rest) ← exponent? rest
    if fraction.isNone && exponent.isNone then some (integerDoc negative whole, rest)
    else some (floatDoc negative whole (fraction.getD []) (exponent.getD 0), rest)

/-- A number, and what follows it. -/
def number? : List Char → Option (Doc × List Char)
  | '-' :: rest => unsigned? true rest
  | cs => unsigned? false cs

/-! ## Tokens -/

/-- The first token of a text that does not begin with white space, and what follows it. -/
def first? : List Char → Option (Token × List Char)
  | [] => none
  | '[' :: rest => some (.openArray, rest)
  | ']' :: rest => some (.closeArray, rest)
  | '{' :: rest => some (.openObject, rest)
  | '}' :: rest => some (.closeObject, rest)
  | ',' :: rest => some (.comma, rest)
  | ':' :: rest => some (.colon, rest)
  | '"' :: rest => do
    let (pieces, rest) ← pieces? rest
    return (.text ((assemble? pieces).map String.ofList), rest)
  | 'n' :: 'u' :: 'l' :: 'l' :: rest => some (.scalar .null, rest)
  | 't' :: 'r' :: 'u' :: 'e' :: rest => some (.scalar (.bool true), rest)
  | 'f' :: 'a' :: 'l' :: 's' :: 'e' :: rest => some (.scalar (.bool false), rest)
  | cs => (number? cs).map fun (doc, rest) => (.scalar doc, rest)

/-- The tokens of a text of at most `fuel` characters. -/
def tokensUpTo : Nat → List Char → List Token
  | fuel, cs =>
    match cs.dropWhile isSpace with
    | [] => []
    | cs => match fuel, first? cs with
      | fuel + 1, some (token, rest) => token :: tokensUpTo fuel rest
      | _, _ => [.bad]

/-- The tokens of a text. -/
def tokens (s : String) : List Token := tokensUpTo s.length s.toList

end Quiescence.Json
