import Gazette.Text.Digits

/-!
# Identifiers

* `Uuid` is an identifier of 128 bits, `Uuid.toText` its text in five groups of lower-case hexadecimal digits.
* `Uuid.random` makes one from 128 random bits.
-/

namespace Gazette

structure Uuid where
  bits : BitVec 128
  deriving DecidableEq, Repr

namespace Uuid

def hyphenate (digits : List Char) : List Char :=
  digits.take 8 ++ '-' :: (digits.drop 8).take 4 ++ '-' :: (digits.drop 12).take 4
    ++ '-' :: (digits.drop 16).take 4 ++ '-' :: digits.drop 20

def toText (id : Uuid) : String := String.ofList (hyphenate (fixedHex 32 id.bits.toNat))

/-- The bits that say which kind of identifier one is: four of the seventh octet, two of the ninth. -/
def kindMask : BitVec 128 := 0xF#128 <<< 76 ||| 0x3#128 <<< 62

/-- The kind of a random identifier: version 4, variant 2. -/
def randomKind : BitVec 128 := 0x4#128 <<< 76 ||| 0x2#128 <<< 62

def random (source : BitVec 128) : Uuid := ⟨source &&& ~~~kindMask ||| randomKind⟩

/-- The order of identifiers is that of their bits read as a number. -/
def compare (left right : Uuid) : Ordering := Ord.compare left.bits.toNat right.bits.toNat

end Uuid

end Gazette
