import Gazette.Decimal.Binary64

/-!
# Numbers of 64 binary digits

`Extended` is a number that is not negative, with at most 64 binary digits and an exponent of any size. Products and
powers of ten are rounded to the nearest such number, the even one if there are two.
-/

namespace Gazette

structure Extended where
  significand : Nat
  exponent : Int
  deriving DecidableEq, Repr

namespace Extended

def ofBinary64 (x : Binary64) : Extended := ⟨x.significand, x.exponent⟩

def round (numerator denominator : Nat) : Extended :=
  -- The lengths of the fraction's parts tell its magnitude up to one binary digit.
  let guess : Int := (numerator.log2 : Int) - denominator.log2 - 64
  let significand := Binary64.significandAt numerator denominator guess
  if significand < UInt64.size then ⟨significand, guess⟩
  else ⟨Binary64.significandAt numerator denominator (guess + 1), guess + 1⟩

def mul (x y : Extended) : Extended :=
  let product := round (x.significand * y.significand) 1
  { product with exponent := product.exponent + x.exponent + y.exponent }

def tenPower (power : Int) : Extended :=
  if 0 ≤ power then round (Nat.pow 10 power.toNat) 1 else round 1 (Nat.pow 10 (-power).toNat)

def less (x y : Extended) : Bool :=
  let (m, d) := Binary64.shift x.significand y.significand (x.exponent - y.exponent)
  m < d

def floor (x : Extended) : Nat :=
  let (n, d) := Binary64.shift x.significand 1 x.exponent
  n / d

end Extended

end Gazette
