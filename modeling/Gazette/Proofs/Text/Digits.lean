import Mathlib.Algebra.Group.Nat.Defs
import Gazette.Proofs.Text.Utf8
import Gazette.Text.Digits

/-!
# Written and read digits

* `Writes`: a way to write numbers with a fixed number of digits, of which `fixedDigits` and `fixedHex` are two.
* `Writes.readDigits`: digits of a fixed width write the number that is read from them.
* `decimal_eq_fixedDigits`: a number written with as many digits as needed is written with a fixed width.
* `Ascii`: texts of which every character is one octet.
-/

namespace Gazette

/-! ## One digit -/

theorem digitValue?_digitChar {digit : Nat} (small : digit < 10) : digitValue? (digitChar digit) = some digit := by
  revert digit
  decide

theorem toNat_digitChar {digit : Nat} (small : digit < 10) : (digitChar digit).toNat = 0x30 + digit := by
  revert digit
  decide

theorem hexValue?_hexChar {digit : Nat} (small : digit < 16) : hexValue? (hexChar digit) = some digit := by
  revert digit
  decide

theorem toNat_hexChar {digit : Nat} (small : digit < 16) :
    (hexChar digit).toNat = if digit < 10 then 0x30 + digit else 0x57 + digit := by
  revert digit
  decide

theorem digitChar_eq {digit : Nat} (small : digit < 10) : Nat.digitChar digit = digitChar digit := by
  revert digit
  decide

/-! ## Many digits -/

theorem mod_pow_succ (n base width : Nat) : n % base ^ (width + 1) = n / base % base ^ width * base + n % base := by
  rw [Nat.pow_succ, Nat.mul_comm, Nat.mod_mul, Nat.mul_comm, Nat.add_comm]

structure Writes (base : Nat) (digit : Nat → Char) (write : Nat → Nat → List Char) : Prop where
  positive : 0 < base
  none : ∀ n, write 0 n = []
  more : ∀ width n, write (width + 1) n = write width (n / base) ++ [digit (n % base)]

theorem writes_fixedDigits : Writes 10 digitChar fixedDigits where
  positive := by decide
  none _ := rfl
  more _ _ := rfl

theorem writes_fixedHex : Writes 16 hexChar fixedHex where
  positive := by decide
  none _ := rfl
  more _ _ := rfl

namespace Writes

variable {base width n : Nat} {digit : Nat → Char} {write : Nat → Nat → List Char}

theorem length (writes : Writes base digit write) (width n : Nat) : (write width n).length = width := by
  induction width generalizing n with
  | zero => rw [writes.none, List.length_nil]
  | succ width inductionHypothesis => rw [writes.more, List.length_append, inductionHypothesis, List.length_singleton]

theorem digit_of_mem (writes : Writes base digit write) {c : Char} (member : c ∈ write width n) :
    ∃ value < base, c = digit value := by
  induction width generalizing n with
  | zero =>
    rw [writes.none] at member
    cases member
  | succ width inductionHypothesis =>
    rw [writes.more, List.mem_append, List.mem_singleton] at member
    rcases member with earlier | rfl
    · exact inductionHypothesis earlier
    · exact ⟨n % base, Nat.mod_lt n writes.positive, rfl⟩

end Writes

@[simp] theorem length_fixedDigits (width n : Nat) : (fixedDigits width n).length = width :=
  writes_fixedDigits.length width n

@[simp] theorem length_fixedHex (width n : Nat) : (fixedHex width n).length = width := writes_fixedHex.length width n

theorem digit_of_mem_fixedDigits {width n : Nat} {c : Char} (member : c ∈ fixedDigits width n) :
    ∃ digit < 10, c = digitChar digit := writes_fixedDigits.digit_of_mem member

theorem digit_of_mem_fixedHex {width n : Nat} {c : Char} (member : c ∈ fixedHex width n) :
    ∃ digit < 16, c = hexChar digit := writes_fixedHex.digit_of_mem member

theorem readDigits_append (value? : Char → Option Nat) (base sofar : Nat) (left right : List Char) :
    readDigits value? base sofar (left ++ right)
      = (readDigits value? base sofar left).bind fun n => readDigits value? base n right := by
  induction left generalizing sofar with
  | nil => rfl
  | cons c left inductionHypothesis =>
    simp only [List.cons_append, readDigits]
    cases value? c with
    | none => rfl
    | some digit => exact inductionHypothesis _

/-- What is read is the number, but for the digits that were left out. -/
theorem Writes.readDigits {base : Nat} {digit : Nat → Char} {write : Nat → Nat → List Char} {value? : Char → Option Nat}
    (writes : Writes base digit write) (value : ∀ m < base, value? (digit m) = some m) (width n sofar : Nat) :
    readDigits value? base sofar (write width n) = some (sofar * base ^ width + n % base ^ width) := by
  induction width generalizing n with
  | zero => simp [writes.none, Gazette.readDigits, Nat.mod_one]
  | succ width inductionHypothesis =>
    -- All digits but the last write `n / base`, and the last is worth `n % base`.
    have last := value (n % base) (Nat.mod_lt n writes.positive)
    rw [writes.more, readDigits_append, inductionHypothesis, Option.bind_some]
    simp only [Gazette.readDigits, last]
    rw [mod_pow_succ, Nat.pow_succ, Nat.add_mul, Nat.mul_assoc, Nat.add_assoc]

theorem readDigits_fixedDigits (width n sofar : Nat) :
    readDigits digitValue? 10 sofar (fixedDigits width n) = some (sofar * 10 ^ width + n % 10 ^ width) :=
  writes_fixedDigits.readDigits (fun _ small => digitValue?_digitChar small) width n sofar

theorem readDigits_fixedHex (width n sofar : Nat) :
    readDigits hexValue? 16 sofar (fixedHex width n) = some (sofar * 16 ^ width + n % 16 ^ width) :=
  writes_fixedHex.readDigits (fun _ small => hexValue?_hexChar small) width n sofar

theorem natural?_fixedDigits (width n : Nat) (positive : 0 < width) (small : n < 10 ^ width) :
    natural? (fixedDigits width n) = some n := by
  have read := readDigits_fixedDigits width n 0
  rw [Nat.zero_mul, Nat.zero_add, Nat.mod_eq_of_lt small] at read
  rw [← read]
  cases digits : fixedDigits width n with
  | nil =>
    have := length_fixedDigits width n
    rw [digits] at this
    exact absurd this (by simp; omega)
  | cons c rest => rfl

/-- A number is written with as many digits as it has. -/
theorem decimal_eq_fixedDigits {width n : Nat} (large : 10 ^ width ≤ n) (small : n < 10 ^ (width + 1)) :
    decimal n = fixedDigits (width + 1) n := by
  rw [decimal]
  induction width generalizing n with
  | zero =>
    rw [Nat.toDigits_of_lt_base (by omega), digitChar_eq (by omega)]
    simp [fixedDigits, Nat.mod_eq_of_lt (a := n) (b := 10) (by omega)]
  | succ width inductionHypothesis =>
    have : 10 ≤ n := Nat.le_trans (Nat.le_self_pow (by omega) 10) large
    rw [Nat.toDigits_of_base_le (by omega) this, fixedDigits, digitChar_eq (Nat.mod_lt _ (by omega)),
      inductionHypothesis]
    · rw [Nat.pow_succ] at large
      omega
    · rw [Nat.pow_succ] at small
      omega

/-! ## Texts of which every character is one octet -/

def Ascii (text : List Char) : Prop := ∀ c ∈ text, c.toNat < 0x80

theorem Ascii.append {left right : List Char} (leftAscii : Ascii left) (rightAscii : Ascii right) :
    Ascii (left ++ right) := by
  intro c member
  rcases List.mem_append.mp member with inLeft | inRight
  · exact leftAscii c inLeft
  · exact rightAscii c inRight

theorem Ascii.cons {c : Char} {text : List Char} (small : c.toNat < 0x80) (ascii : Ascii text) : Ascii (c :: text) := by
  intro other member
  rcases List.mem_cons.mp member with rfl | inText
  · exact small
  · exact ascii other inText

theorem ascii_nil : Ascii [] := nofun

theorem ascii_fixedDigits (width n : Nat) : Ascii (fixedDigits width n) := by
  intro c member
  obtain ⟨digit, small, rfl⟩ := digit_of_mem_fixedDigits member
  rw [toNat_digitChar small]
  omega

theorem ascii_fixedHex (width n : Nat) : Ascii (fixedHex width n) := by
  intro c member
  obtain ⟨digit, small, rfl⟩ := digit_of_mem_fixedHex member
  rw [toNat_hexChar small]
  split <;> omega

/-- The octets of such a text are its characters' codes. -/
theorem flatMap_encodeChar_of_ascii {text : List Char} (ascii : Ascii text) :
    text.flatMap Utf8.encodeChar = text.map fun c => c.toNat.toUInt8 := by
  induction text with
  | nil => rfl
  | cons c text inductionHypothesis =>
    rw [List.flatMap_cons, Utf8.encodeChar_of_ascii (ascii c List.mem_cons_self),
      inductionHypothesis fun other member => ascii other (List.mem_cons_of_mem c member)]
    rfl

end Gazette
