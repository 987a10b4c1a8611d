import ClassSynth.Text.Numeral

/-!
# Binary64 numbers

A number with a fraction or an exponent is kept as the nearest value with a significand of 53 bits,
ties going to the even significand.  All arithmetic is exact arithmetic of natural numbers.
-/

set_option autoImplicit false

namespace ClassSynth

/-- A decimal number `coefficient * 10 ^ exponent`, with its sign apart. -/
structure Decimal where
  negative : Bool
  coefficient : Nat
  exponent : Int

/-- A binary64 value; a finite one is `significand * 2 ^ exponent`, with its sign apart. -/
inductive Binary64 where
  | nan
  | infinite (negative : Bool)
  | finite (negative : Bool) (significand : Nat) (exponent : Int)
deriving DecidableEq

namespace Binary64

def leastExponent : Int := -1074

def greatestExponent : Int := 971

def leastNormal : Nat := Nat.pow 2 52

/-- The quotient rounded to the nearest natural number, a half to the even one. -/
def roundQuotient (dividend divisor : Nat) : Nat :=
  let quotient := dividend / divisor
  let twice := 2 * (dividend % divisor)
  if twice < divisor then quotient
  else if divisor < twice then quotient + 1
  else if quotient % 2 = 0 then quotient else quotient + 1

def scaleByPower (dividend divisor : Nat) (exponent : Int) : Nat × Nat :=
  if 0 ≤ exponent then (dividend, divisor * Nat.pow 2 exponent.toNat)
  else (dividend * Nat.pow 2 (-exponent).toNat, divisor)

def ofFraction (negative : Bool) (dividend divisor : Nat) : Binary64 :=
  let estimate : Int := (dividend.log2 : Int) - divisor.log2 - 52
  let (upper, lower) := scaleByPower dividend divisor estimate
  let normal := if upper / lower < leastNormal then estimate - 1 else estimate
  let exponent := max normal leastExponent
  let (upper, lower) := scaleByPower dividend divisor exponent
  let significand := roundQuotient upper lower
  let (significand, exponent) :=
    if significand < 2 * leastNormal then (significand, exponent)
    else (significand / 2, exponent + 1)
  if exponent ≤ greatestExponent then .finite negative significand exponent
  else .infinite negative

/-- The value nearest to a decimal number.  A number with more than 310 digits before the point is
above all finite values, and one with more than 330 zeros behind it rounds to zero. -/
def ofDecimal (d : Decimal) : Binary64 :=
  let magnitude : Int := (Nat.toDigits 10 d.coefficient).length + d.exponent
  if d.coefficient = 0 || decide (magnitude < -330) then .finite d.negative 0 leastExponent
  else if 310 < magnitude then .infinite d.negative
  else if 0 ≤ d.exponent then ofFraction d.negative (d.coefficient * Nat.pow 10 d.exponent.toNat) 1
  else ofFraction d.negative d.coefficient (Nat.pow 10 (-d.exponent).toNat)

def isZero : Binary64 → Bool
  | .finite _ significand _ => decide (significand = 0)
  | _ => false

end Binary64

end ClassSynth
