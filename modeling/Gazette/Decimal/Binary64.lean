/-!
# Numbers in binary floating point

* `Binary64` is a number that is not negative, with at most 53 binary digits.
* `Binary64.round` finds the one nearest to a fraction, and `Binary64.scale` the one that a decimal numeral stands
  for when each power of ten that it is multiplied or divided by is rounded, and the result again.
-/

namespace Gazette

/-- The number `significand * 2 ^ exponent`. -/
structure Binary64 where
  significand : Nat
  exponent : Int
  deriving DecidableEq, Repr

namespace Binary64

def zero : Binary64 := ⟨0, 0⟩

def leastNormal : Nat := 0x10000000000000

def minExponent : Int := -1074

def maxExponent : Int := 971

def shift (numerator denominator : Nat) (exponent : Int) : Nat × Nat :=
  if 0 ≤ exponent then (numerator <<< exponent.toNat, denominator)
  else (numerator, denominator <<< (-exponent).toNat)

def toFraction (x : Binary64) : Nat × Nat := shift x.significand 1 x.exponent

/-- The whole number nearest to a fraction, the even one if there are two. -/
def nearest (numerator denominator : Nat) : Nat :=
  let quotient := numerator / denominator
  let twice := 2 * (numerator % denominator)
  if twice < denominator then quotient
  else if denominator < twice then quotient + 1
  else if quotient % 2 = 0 then quotient
  else quotient + 1

def significandAt (numerator denominator : Nat) (exponent : Int) : Nat :=
  let (numerator, denominator) := shift numerator denominator (-exponent)
  nearest numerator denominator

/-- The number nearest to a fraction, if the fraction is not past the largest number. -/
def round (numerator denominator : Nat) : Option Binary64 :=
  if numerator = 0 then some zero
  else
    -- The lengths of the fraction's parts tell its magnitude up to one binary digit.
    let guess := max ((numerator.log2 : Int) - denominator.log2 - 53) minExponent
    let exponent := if significandAt numerator denominator guess < 2 * leastNormal then guess else guess + 1
    if exponent ≤ maxExponent then some ⟨significandAt numerator denominator exponent, exponent⟩ else none

def mul (x y : Binary64) : Option Binary64 :=
  let (n, d) := shift (x.significand * y.significand) 1 (x.exponent + y.exponent)
  round n d

def div (x y : Binary64) : Option Binary64 :=
  let (n, d) := shift x.significand y.significand (x.exponent - y.exponent)
  round n d

def maxTenPower : Nat := 308

def tenPower (power : Nat) : Option Binary64 := round (Nat.pow 10 power) 1

def divRepeatedly (divisor : Binary64) : Nat → Binary64 → Option Binary64
  | 0, x => some x
  | times + 1, x =>
    if x.significand = 0 then some x else (div x divisor).bind (divRepeatedly divisor times)

/-- The number for `x * 10 ^ exponent`. A division past the largest power of ten goes step by step. -/
def scaleFrom (x : Binary64) (exponent : Int) : Option Binary64 :=
  if x.significand = 0 then some x
  else if 0 ≤ exponent then
    if exponent.toNat ≤ maxTenPower then (tenPower exponent.toNat).bind (mul x) else none
  else do
    let steps := (exponent.natAbs - 1) / maxTenPower
    let largest ← tenPower maxTenPower
    let x ← divRepeatedly largest steps x
    let last ← tenPower (exponent.natAbs - steps * maxTenPower)
    div x last

/-- The number for `significand * 10 ^ exponent`, if that is not past the largest number. -/
def scale (significand : Nat) (exponent : Int) : Option Binary64 := do
  let x ← round significand 1
  scaleFrom x exponent

end Binary64

end Gazette
