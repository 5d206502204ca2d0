/-!
# Digits

Numbers written in digits: `fixedDigits` with a fixed number of decimal digits, `decimal` with as many as needed,
and `natural?` and `integer?`, which read them back. Only the ten ASCII digits count as digits.
-/

namespace Gazette

/-! ## Writing -/

def digitChar (digit : Nat) : Char := Char.ofNat (0x30 + digit)

def fixedDigits : Nat → Nat → List Char
  | 0, _ => []
  | width + 1, n => fixedDigits width (n / 10) ++ [digitChar (n % 10)]

def decimal (n : Nat) : List Char := Nat.toDigits 10 n

def paddedDigits (width n : Nat) : List Char :=
  if n < Nat.pow 10 width then fixedDigits width n else decimal n

def hexChar (digit : Nat) : Char :=
  if digit < 10 then digitChar digit else Char.ofNat (0x57 + digit)

def fixedHex : Nat → Nat → List Char
  | 0, _ => []
  | width + 1, n => fixedHex width (n / 16) ++ [hexChar (n % 16)]

/-! ## Reading -/

def digitValue? (c : Char) : Option Nat :=
  if '0' ≤ c && c ≤ '9' then some (c.toNat - 0x30) else none

def hexValue? (c : Char) : Option Nat :=
  if '0' ≤ c && c ≤ '9' then some (c.toNat - 0x30)
  else if 'a' ≤ c && c ≤ 'f' then some (c.toNat - 0x57)
  else if 'A' ≤ c && c ≤ 'F' then some (c.toNat - 0x37)
  else none

def isHexDigit (c : Char) : Bool := (hexValue? c).isSome

def readDigits (value? : Char → Option Nat) (base sofar : Nat) : List Char → Option Nat
  | [] => some sofar
  | c :: rest =>
    match value? c with
    | some digit => readDigits value? base (sofar * base + digit) rest
    | none => none

def natural? : List Char → Option Nat
  | [] => none
  | text => readDigits digitValue? 10 0 text

def unsigned? : List Char → Option Nat
  | '+' :: text => natural? text
  | text => natural? text

def integer? : List Char → Option Int
  | '-' :: text => (natural? text).map fun n => -(n : Int)
  | text => (unsigned? text).map Int.ofNat

def word64? (text : String) : Option UInt64 :=
  (unsigned? text.toList).bind fun n => if n < UInt64.size then some n.toUInt64 else none

end Gazette
