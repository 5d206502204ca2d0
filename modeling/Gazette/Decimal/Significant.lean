import Gazette.Decimal.Extended
import Gazette.Decimal.Shortest

/-!
# Decimal text of fifteen digits

`Binary64.toRoundedText` writes a number rounded to fifteen significant digits, with as few of them as that takes. Small
and large numbers have a power of ten.

The digits are those of a whole number of eighteen or nineteen digits, which the number is brought to by powers of ten
in numbers of 64 binary digits.
-/

namespace Gazette.Binary64

/-! ## Digits -/

/-- A number that `10 ^ power` has been taken out of. -/
structure Scaled where
  number : Extended
  power : Int
  deriving DecidableEq, Repr

namespace Scaled

def takeOut (step : Int) (x : Scaled) : Scaled :=
  ⟨x.number.mul (.tenPower (-step)), x.power + step⟩

def takeOutWhile (condition : Extended → Bool) (step : Int) : Nat → Scaled → Scaled
  | 0, x => x
  | times + 1, x => if condition x.number then takeOutWhile condition step times (x.takeOut step) else x

def enough : Nat := 20

/-- Brings a number below `10 ^ 19`, in steps that leave it `10 ^ 18` at least. -/
def lower (x : Scaled) : Scaled :=
  let isAbove (power : Int) (x : Extended) : Bool := !x.less (.tenPower power)
  takeOutWhile (isAbove 19) 1 enough <| takeOutWhile (isAbove 29) 10 enough <| takeOutWhile (isAbove 119) 100 enough x

def raise (x : Scaled) : Scaled :=
  let isBelow (power : Int) (x : Extended) : Bool := x.less (.tenPower power)
  takeOutWhile (isBelow 17) (-1) enough <| takeOutWhile (isBelow 7) (-10) enough <|
    takeOutWhile (isBelow (-97)) (-100) enough x

end Scaled

/-- The whole number whose digits a number is written with, and the power of ten that it lacks. -/
def scaled (x : Binary64) : Nat × Int :=
  let start : Scaled := ⟨.ofBinary64 x, 0⟩
  let reached := if start.number.less (.tenPower 19) then start.raise else start.lower
  (reached.number.floor, reached.power)

def significantDigits : Nat := 15

/-- The first fifteen digits, one more if the next one is five at least, with the power of ten at which the first of
them stands. -/
def rounded (x : Binary64) : Nat × Int :=
  let (whole, power) := x.scaled
  let length := (decimal whole).length
  let digits := (whole / Nat.pow 10 (length - (significantDigits + 1)) + 5) / 10
  let exponent : Int := length - 1 + power
  if digits < Nat.pow 10 significantDigits then (digits, exponent) else (digits / 10, exponent + 1)

/-! ## Text -/

def fractionDigits (digits : List Char) : List Char :=
  let digits := (digits.reverse.dropWhile (· = '0')).reverse
  if digits.isEmpty then ['0'] else digits

def minPlainExponent : Int := -4

def roundedText (x : Binary64) : List Char :=
  let (digits, exponent) := x.rounded
  let digits := decimal digits
  if exponent < minPlainExponent ∨ (significantDigits : Int) ≤ exponent then
    let power := decimal exponent.natAbs
    digits.take 1 ++ '.' :: fractionDigits (digits.drop 1) ++ 'e' :: (if exponent < 0 then '-' else '+')
      :: (if power.length < 2 then '0' :: power else power)
  else if exponent < 0 then
    '0' :: '.' :: fractionDigits (List.replicate (exponent.natAbs - 1) '0' ++ digits)
  else
    digits.take (exponent.toNat + 1) ++ '.' :: fractionDigits (digits.drop (exponent.toNat + 1))

/-- The number in at most fifteen digits. -/
def toRoundedText (x : Binary64) : List Char :=
  if x.significand = 0 then ['0', '.', '0'] else x.roundedText

end Gazette.Binary64
