import Gazette.Decimal.Binary64
import Gazette.Text.Digits

/-!
# Shortest decimal text

`Binary64.shortest` finds the shortest decimal numeral that stands for a number and for no other, and of those of
the same length the nearest. `Binary64.toText` writes it: with a point if that takes few zeros, with a power
of ten otherwise.
-/

namespace Gazette

structure Decimal where
  digits : Nat
  exponent : Int
  deriving DecidableEq, Repr

namespace Binary64

/-- A fraction, compared with others by cross multiplication. -/
abbrev Fraction := Nat × Nat

def Fraction.less (x y : Fraction) : Bool := x.1 * y.2 < y.1 * x.2

def tenScaled (x : Nat) (exponent : Int) : Fraction :=
  if 0 ≤ exponent then (x * Nat.pow 10 exponent.toNat, 1) else (x, Nat.pow 10 (-exponent).toNat)

def gridded (x : Fraction) (exponent : Int) : Fraction :=
  if 0 ≤ exponent then (x.1, x.2 * Nat.pow 10 exponent.toNat) else (x.1 * Nat.pow 10 (-exponent).toNat, x.2)

def lowerBound (x : Binary64) : Fraction :=
  if x.significand = leastNormal ∧ minExponent < x.exponent then
    shift (4 * x.significand - 1) 1 (x.exponent - 2)
  else shift (2 * x.significand - 1) 1 (x.exponent - 1)

def upperBound (x : Binary64) : Fraction := shift (2 * x.significand + 1) 1 (x.exponent - 1)

/-- Whether a fraction rounds to the number: the middles do if its significand is even. -/
def attracts (x : Binary64) (y : Fraction) : Bool :=
  if x.significand % 2 = 0 then !Fraction.less y x.lowerBound && !Fraction.less x.upperBound y
  else Fraction.less x.lowerBound y && Fraction.less y x.upperBound

/-- The multiple of a power of ten that rounds to the number and is nearest to it. -/
def onGrid? (x : Binary64) (exponent : Int) : Option Decimal :=
  let (n, d) := gridded x.toFraction exponent
  let near := nearest n d
  let far := if n < near * d then near - 1 else near + 1
  if x.attracts (tenScaled near exponent) then some ⟨near, exponent⟩
  else if x.attracts (tenScaled far exponent) then some ⟨far, exponent⟩
  else none

/-- Tries ever finer grids. Seventeen digits tell any two numbers apart. -/
def search (x : Binary64) (exponent : Int) : Nat → Decimal
  | 0 => ⟨0, 0⟩
  | tries + 1 => (x.onGrid? exponent).getD (search x (exponent - 1) tries)

def shortest (x : Binary64) : Decimal :=
  let (n, d) := x.toFraction
  let magnitude : Int := (decimal n).length - (decimal d).length
  search x (magnitude + 1) 20

def maxPlaces : Int := 16

def maxZeros : Int := 4

def decimalText (numeral : Decimal) : List Char :=
  let digits := decimal numeral.digits
  let places : Int := digits.length + numeral.exponent
  if 0 ≤ numeral.exponent ∧ places ≤ maxPlaces then
    digits ++ List.replicate numeral.exponent.toNat '0' ++ ['.', '0']
  else if 0 < places ∧ places ≤ maxPlaces then
    digits.take places.toNat ++ '.' :: digits.drop places.toNat
  else if -maxZeros ≤ places ∧ places ≤ 0 then
    '0' :: '.' :: List.replicate (-places).toNat '0' ++ digits
  else
    let power := places - 1
    digits.take 1 ++ (if digits.length = 1 then [] else '.' :: digits.drop 1)
      ++ 'e' :: (if power < 0 then '-' else '+') :: decimal power.natAbs

def toText (x : Binary64) : List Char :=
  if x.significand = 0 then ['0', '.', '0'] else decimalText x.shortest

end Binary64

end Gazette
