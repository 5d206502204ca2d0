import Gazette.Decimal.Shortest
import Gazette.Fallible
import Gazette.Json.Error
import Gazette.Text.Utf8

/-!
# Reading JSON numbers

* `Json.readNumeral` splits a numeral into its digits.
* `Numeral.value` is the number that it stands for: exact for a whole number of up to 64 bits, a binary fraction for
  all others.
-/

namespace Gazette.Json

open Fallible (bind_eq_ok)

/-! ## Digits -/

def isDigitOctet (octet : UInt8) : Bool := 0x30 ≤ octet && octet ≤ 0x39

def leadingDigits (octets : Bytes) : List Nat :=
  (octets.takeWhile isDigitOctet).map fun octet => octet.toNat - 0x30

def skipDigits (octets : Bytes) : Bytes := octets.dropWhile isDigitOctet

theorem length_skipDigits (octets : Bytes) : (skipDigits octets).length ≤ octets.length :=
  (List.dropWhile_sublist isDigitOctet).length_le

def digitsValue (digits : List Nat) : Nat := digits.foldl (fun n digit => n * 10 + digit) 0

/-! ## Numerals -/

structure Numeral where
  negative : Bool
  whole : List Nat
  -- The digits after the point, none if there is no point.
  fraction : List Nat
  -- The power of ten, if one is given.
  power : Option Int
  deriving DecidableEq, Repr

def readWhole (atEnd : JsonError) : Bytes → Except JsonError (List Nat × Bytes)
  | [] => .error atEnd
  | octet :: rest =>
    if octet = 0x30 then
      if leadingDigits rest = [] then .ok ([0], rest) else .error .invalidNumber
    else if isDigitOctet octet then .ok (leadingDigits (octet :: rest), skipDigits rest)
    else .error .invalidNumber

def readSomeDigits (atEnd : JsonError) : Bytes → Except JsonError (List Nat × Bytes)
  | [] => .error atEnd
  | octet :: rest =>
    if isDigitOctet octet then .ok (leadingDigits (octet :: rest), skipDigits rest)
    else .error .invalidNumber

def readFraction (atEnd : JsonError) : Bytes → Except JsonError (List Nat × Bytes)
  | [] => .ok ([], [])
  | octet :: rest => if octet = 0x2E then readSomeDigits atEnd rest else .ok ([], octet :: rest)

def readSigned (atEnd : JsonError) : Bytes → Except JsonError (Int × Bytes)
  | [] => .error atEnd
  | octet :: rest => do
    if octet = 0x2D then
      let (digits, rest) ← readSomeDigits atEnd rest
      .ok (-(digitsValue digits : Int), rest)
    else
      let (digits, rest) ← readSomeDigits atEnd (if octet = 0x2B then rest else octet :: rest)
      .ok (digitsValue digits, rest)

def readPower (atEnd : JsonError) : Bytes → Except JsonError (Option Int × Bytes)
  | [] => .ok (none, [])
  | octet :: rest =>
    if octet = 0x65 || octet = 0x45 then do
      let (power, rest) ← readSigned atEnd rest
      .ok (some power, rest)
    else .ok (none, octet :: rest)

def readMagnitude (atEnd : JsonError) (negative : Bool) (octets : Bytes) :
    Except JsonError (Numeral × Bytes) := do
  let (whole, rest) ← readWhole atEnd octets
  let (fraction, rest) ← readFraction atEnd rest
  let (power, rest) ← readPower atEnd rest
  .ok (⟨negative, whole, fraction, power⟩, rest)

/-- Reads a numeral. `atEnd` is the error when it ends before it is complete. -/
def readNumeral (atEnd : JsonError) : Bytes → Except JsonError (Numeral × Bytes)
  | [] => .error atEnd
  | octet :: rest =>
    if octet = 0x2D then readMagnitude atEnd true rest else readMagnitude atEnd false (octet :: rest)

/-! ## Values -/

inductive Number
  | natural (value : Nat)
  | negative (magnitude : Nat)
  | fractional (isNegative : Bool) (magnitude : Binary64)
  deriving DecidableEq, Repr

/-- Appends digits to a number as long as it has at most 64 bits. Also gives how many are left over. -/
def absorb (sofar : Nat) : List Nat → Nat × Nat
  | [] => (sofar, 0)
  | digit :: digits =>
    if sofar * 10 + digit < UInt64.size then absorb (sofar * 10 + digit) digits else (sofar, digits.length + 1)

def maxPower : Nat := 0x7FFFFFFF

/-- The number for `significand * 10 ^ exponent` after `power` is added to the exponent. A power past the largest
makes it zero or too large. -/
def scaledBy (significand : Nat) (exponent power : Int) : Option Binary64 :=
  if maxPower < power.natAbs then
    if significand ≠ 0 ∧ 0 < power then none else some .zero
  else Binary64.scale significand (exponent + power)

/-- The number that a numeral stands for, unless it is too large. A zero with a sign is no whole number, nor is
one of more than 64 bits, the sign included. -/
def Numeral.value (numeral : Numeral) : Except JsonError Number :=
  let (significand, dropped) := absorb 0 numeral.whole
  let isWhole := dropped = 0 && numeral.fraction.isEmpty && numeral.power.isNone
  if isWhole && !numeral.negative then .ok (.natural significand)
  else if isWhole && 0 < significand && significand ≤ 0x8000000000000000 then .ok (.negative significand)
  else
    let (significand, unread) := absorb significand numeral.fraction
    let exponent : Int := dropped - (numeral.fraction.length - unread : Nat)
    match scaledBy significand exponent (numeral.power.getD 0) with
    | some magnitude => .ok (.fractional numeral.negative magnitude)
    | none => .error .numberOutOfRange

def Number.found : Number → Found
  | .natural value => .natural value
  | .negative magnitude => .negative magnitude
  | .fractional isNegative magnitude =>
    .fractional (String.ofList (if isNegative then '-' :: magnitude.toText else magnitude.toText))

def readNumber (octets : Bytes) : Except JsonError (Number × Bytes) := do
  let (numeral, rest) ← readNumeral .endInValue octets
  let number ← numeral.value
  .ok (number, rest)

def skipNumber (octets : Bytes) : Except JsonError Bytes := do
  let (_, rest) ← readNumeral .invalidNumber octets
  .ok rest

/-! ## Progress -/

theorem length_of_readWhole {atEnd : JsonError} {octets rest : Bytes} {digits : List Nat}
    (read : readWhole atEnd octets = .ok (digits, rest)) : rest.length < octets.length := by
  simp only [readWhole] at read
  split at read
  · cases read
  · rename_i octet tail
    have := length_skipDigits tail
    split at read
    · split at read
      · cases read
        exact Nat.lt_succ_self _
      · cases read
    · split at read
      · cases read
        simp only [List.length_cons]
        omega
      · cases read

theorem length_of_readSomeDigits {atEnd : JsonError} {octets rest : Bytes} {digits : List Nat}
    (read : readSomeDigits atEnd octets = .ok (digits, rest)) : rest.length < octets.length := by
  simp only [readSomeDigits] at read
  split at read
  · cases read
  · rename_i octet tail
    have := length_skipDigits tail
    split at read
    · cases read
      simp only [List.length_cons]
      omega
    · cases read

theorem length_of_readFraction {atEnd : JsonError} {octets rest : Bytes} {digits : List Nat}
    (read : readFraction atEnd octets = .ok (digits, rest)) : rest.length ≤ octets.length := by
  simp only [readFraction] at read
  split at read
  · cases read
    exact Nat.le_refl _
  · split at read
    · have := length_of_readSomeDigits read
      simp only [List.length_cons]
      omega
    · cases read
      exact Nat.le_refl _

theorem length_of_readSigned {atEnd : JsonError} {octets rest : Bytes} {power : Int}
    (read : readSigned atEnd octets = .ok (power, rest)) : rest.length < octets.length := by
  simp only [readSigned] at read
  split at read
  · cases read
  · split at read
    · obtain ⟨_, digits, last⟩ := bind_eq_ok.mp read
      have := length_of_readSomeDigits digits
      cases last
      simp only [List.length_cons]
      omega
    · obtain ⟨_, digits, last⟩ := bind_eq_ok.mp read
      have := length_of_readSomeDigits digits
      cases last
      split at this
      · simp only [List.length_cons]
        omega
      · exact this

theorem length_of_readPower {atEnd : JsonError} {octets rest : Bytes} {power : Option Int}
    (read : readPower atEnd octets = .ok (power, rest)) : rest.length ≤ octets.length := by
  simp only [readPower] at read
  split at read
  · cases read
    exact Nat.le_refl _
  · split at read
    · obtain ⟨_, signed, last⟩ := bind_eq_ok.mp read
      have := length_of_readSigned signed
      cases last
      simp only [List.length_cons]
      omega
    · cases read
      exact Nat.le_refl _

theorem length_of_readMagnitude {atEnd : JsonError} {negative : Bool} {octets rest : Bytes}
    {numeral : Numeral} (read : readMagnitude atEnd negative octets = .ok (numeral, rest)) :
    rest.length < octets.length := by
  obtain ⟨_, whole, read⟩ := bind_eq_ok.mp read
  obtain ⟨_, fraction, read⟩ := bind_eq_ok.mp read
  obtain ⟨_, power, last⟩ := bind_eq_ok.mp read
  have := length_of_readWhole whole
  have := length_of_readFraction fraction
  have := length_of_readPower power
  cases last
  omega

theorem length_of_readNumeral {atEnd : JsonError} {octets rest : Bytes} {numeral : Numeral}
    (read : readNumeral atEnd octets = .ok (numeral, rest)) : rest.length < octets.length := by
  simp only [readNumeral] at read
  split at read
  · cases read
  · split at read
    · have := length_of_readMagnitude read
      simp only [List.length_cons]
      omega
    · exact length_of_readMagnitude read

theorem length_of_readNumber {octets rest : Bytes} {number : Number}
    (read : readNumber octets = .ok (number, rest)) : rest.length < octets.length := by
  obtain ⟨_, numeral, read⟩ := bind_eq_ok.mp read
  obtain ⟨_, _, last⟩ := bind_eq_ok.mp read
  cases last
  exact length_of_readNumeral numeral

theorem length_of_skipNumber {octets rest : Bytes} (skipped : skipNumber octets = .ok rest) :
    rest.length < octets.length := by
  obtain ⟨_, numeral, last⟩ := bind_eq_ok.mp skipped
  cases last
  exact length_of_readNumeral numeral

end Gazette.Json
