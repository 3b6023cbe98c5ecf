import Quiescence.Decimal.Binary64

/-! # The shortest decimal of a number

Of all decimals that are rounded to a given magnitude, the shortest one is the one with the fewest
digits, and among those the one nearest to the magnitude; between two that are equally near, the
style decides. It is found by trying one, two, … digits: on the grid of so many digits only the two
neighbours of the magnitude can be hits. Two layouts write it: one spells out every digit, the other
uses an exponent for very large and very small numbers.
-/

namespace Quiescence.Decimal

/-- The number `digits · 10 ^ exponent`. -/
structure Scientific where
  digits : Nat
  exponent : Int
deriving DecidableEq

namespace Scientific

/-- Removes up to `fuel` zeros from the end of the digits. -/
def trimZeros : Nat → Scientific → Scientific
  | 0, s => s
  | fuel + 1, s =>
    if s.digits ≠ 0 ∧ s.digits % 10 = 0 then trimZeros fuel ⟨s.digits / 10, s.exponent + 1⟩ else s

end Scientific

namespace Magnitude

/-- A quarter of the unit of the last place of a magnitude, as a ratio: the bounds of the numbers
that are rounded to it are multiples of this. -/
def quarter (m : Magnitude) : Nat × Nat := scaled 1 1 (m.exponent - 2)

/-- How many quarters below the magnitude the numbers begin that are rounded to it: below a power of
two the numbers lie twice as dense. -/
def quartersBelow (m : Magnitude) : Nat :=
  if m.mantissa = Nat.pow 2 52 ∧ -1074 < m.exponent then 1 else 2

/-- Whether `num / den` is rounded to `m`; the bounds count when the mantissa is even. -/
def covers (m : Magnitude) (num den : Nat) : Bool :=
  let (n, d) := m.quarter
  let value := num * d
  let low := (4 * m.mantissa - m.quartersBelow) * n * den
  let high := (4 * m.mantissa + 2) * n * den
  if m.mantissa % 2 = 0 then low ≤ value && value ≤ high else low < value && value < high

/-- The least power of ten above a magnitude, found among the neighbours of a guess. -/
def tenExponent (m : Magnitude) : Int :=
  let (num, den) := scaled m.mantissa 1 m.exponent
  let guess : Int := ((num.log2 : Int) - (den.log2 : Int)) * 30103 / 100000
  let above (k : Int) : Bool :=
    if 0 ≤ k then num < den * Nat.pow 10 k.toNat else num * Nat.pow 10 k.natAbs < den
  if above (guess - 1) then guess - 1
  else if above guess then guess
  else if above (guess + 1) then guess + 1
  else guess + 2

/-- The decimal of the given number of digits that is nearest to `m` among those that are rounded to
`m`, if there is one. -/
def decimalOf? (tie : Tie) (m : Magnitude) (places : Nat) : Option Scientific :=
  let exponent := m.tenExponent - places
  let (num, den) := scaled m.mantissa 1 m.exponent
  let (num, den) :=
    if 0 ≤ exponent then (num, den * Nat.pow 10 exponent.toNat)
    else (num * Nat.pow 10 exponent.natAbs, den)
  let isHit (digits : Nat) : Bool :=
    if 0 ≤ exponent then m.covers (digits * Nat.pow 10 exponent.toNat) 1
    else m.covers digits (Nat.pow 10 exponent.natAbs)
  let low := num / den
  let nearer := nearest tie num den
  let farther := if nearer = low then low + 1 else low
  if isHit nearer then some ⟨nearer, exponent⟩
  else if isHit farther then some ⟨farther, exponent⟩
  else none

/-- The shortest decimal that is rounded to the magnitude. Seventeen digits are always enough. -/
def shortest (tie : Tie) (m : Magnitude) : Scientific :=
  if m.mantissa = 0 then ⟨0, 0⟩
  else
    match (List.range 17).findSome? (fun n => m.decimalOf? tie (n + 1)) with
    | some s => s.trimZeros 17
    | none => ⟨0, 0⟩

end Magnitude

/-! ## Layouts -/

/-- `n` zeros. -/
def zeros (n : Nat) : String := String.ofList (List.replicate n '0')

/-- The text with a point after its first `n` characters. -/
def withPoint (n : Nat) (digits : String) : String :=
  String.ofList (digits.toList.take n) ++ "." ++ String.ofList (digits.toList.drop n)

namespace Scientific

/-- Every digit spelt out, with at least one digit on each side of the point. -/
def positional (s : Scientific) : String :=
  let digits := toString s.digits
  let whole : Int := digits.length + s.exponent
  if 0 ≤ s.exponent then digits ++ zeros s.exponent.toNat ++ ".0"
  else if 0 < whole then withPoint whole.toNat digits
  else "0." ++ zeros whole.natAbs ++ digits

/-- One digit before the point, and an exponent with its sign. -/
def withExponent (s : Scientific) : String :=
  let digits := toString s.digits
  let exponent := s.exponent + (digits.length - 1 : Nat)
  (if digits.length = 1 then digits else withPoint 1 digits) ++ "e"
    ++ (if 0 ≤ exponent then "+" else "") ++ toString exponent

/-- Positional from `1e-5` up to sixteen digits before the point, and with an exponent elsewhere. -/
def compact (s : Scientific) : String :=
  let whole : Int := (toString s.digits).length + s.exponent
  if s.digits = 0 ∨ (-5 < whole ∧ whole ≤ 16) then s.positional else s.withExponent

end Scientific

/-- How numbers are written. -/
structure Style where
  /-- Which of two decimals that are equally near is written. -/
  tie : Tie
  /-- How the digits are laid out. -/
  layout : Scientific → String

namespace Binary64

/-- The text of a number in a style. -/
def text (style : Style) : Binary64 → String
  | finite negative m =>
    (if negative then "-" else "") ++ style.layout (m.shortest style.tie)
  | infinite negative => if negative then "-inf" else "inf"
  | nan => "NaN"

end Binary64

end Quiescence.Decimal
