/-! # Numbers of sixty-four bits

A magnitude is `mantissa · 2 ^ exponent` with a mantissa below `2 ^ 53` and an exponent between
`-1074` and `971`. Ratios of natural numbers are rounded to the nearest magnitude, a tie to the even
mantissa; what exceeds the largest magnitude has none.
-/

namespace Quiescence.Decimal

/-- Where a number goes that lies midway between its two neighbours. -/
inductive Tie where
  | toEven
  | up
deriving DecidableEq

/-- A non-negative number of sixty-four-bit precision. -/
structure Magnitude where
  mantissa : Nat
  exponent : Int
deriving DecidableEq

namespace Magnitude

/-- Nothing, as a magnitude. -/
def zero : Magnitude := ⟨0, -1074⟩

/-- The nearest natural number to `num / den`. -/
def nearest (tie : Tie) (num den : Nat) : Nat :=
  let quotient := num / den
  let rest := 2 * (num % den)
  if rest < den ∨ (rest = den ∧ tie = .toEven ∧ quotient % 2 = 0) then quotient else quotient + 1

/-- The ratio `num / den · 2 ^ scale` as a ratio of natural numbers. -/
def scaled (num den : Nat) (scale : Int) : Nat × Nat :=
  if 0 ≤ scale then (num * Nat.pow 2 scale.toNat, den) else (num, den * Nat.pow 2 scale.natAbs)

/-- The exponent at which the mantissa of `num / den` has fifty-three binary digits, but no less
than the smallest exponent. -/
def exponentFor (num den : Nat) : Int :=
  let guess := (num.log2 : Int) - (den.log2 : Int) - 53
  let (n, d) := scaled num den (-guess)
  max (if n / d < Nat.pow 2 53 then guess else guess + 1) (-1074)

/-- The magnitude nearest to `num / den · 2 ^ scale`; none when that is too large. -/
def round? (num den : Nat) (scale : Int) : Option Magnitude :=
  if num = 0 then some zero
  else
    let (num, den) := scaled num den scale
    let exponent := exponentFor num den
    let (n, d) := scaled num den (-exponent)
    let mantissa := nearest .toEven n d
    let rounded : Magnitude :=
      if mantissa = Nat.pow 2 53 then ⟨Nat.pow 2 52, exponent + 1⟩ else ⟨mantissa, exponent⟩
    if rounded.exponent ≤ 971 then some rounded else none

/-- The magnitude nearest to the product. -/
def mul? (a b : Magnitude) : Option Magnitude :=
  round? (a.mantissa * b.mantissa) 1 (a.exponent + b.exponent)

/-- The magnitude nearest to the quotient. -/
def div? (a b : Magnitude) : Option Magnitude :=
  round? a.mantissa b.mantissa (a.exponent - b.exponent)

/-- The magnitude nearest to `digits · 10 ^ exponent`. Exponents that leave no doubt about the
outcome are not computed with. -/
def ofDecimal? (digits : Nat) (exponent : Int) : Option Magnitude :=
  if digits = 0 then some zero
  else
    let places := (toString digits).length + exponent
    if places < -400 then some zero
    else if 400 < places then none
    else if 0 ≤ exponent then round? (digits * Nat.pow 10 exponent.toNat) 1 0
    else round? digits (Nat.pow 10 exponent.natAbs) 0

end Magnitude

/-- A number of sixty-four-bit precision, or one of the values that are no numbers. -/
inductive Binary64 where
  | finite (negative : Bool) (magnitude : Magnitude)
  | infinite (negative : Bool)
  | nan
deriving DecidableEq

end Quiescence.Decimal
