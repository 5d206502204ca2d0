import Gazette.Json.Printer
import Gazette.Json.Text
import Gazette.Proofs.Text.Digits

/-!
# Written and read JSON strings

`readText_quote`: a string in quotes is read as that string, whatever comes after it.
-/

namespace Gazette.Json

/-! ## Escapes -/

theorem hexOctet?_hexChar {digit : Nat} (small : digit < 16) :
    hexOctet? (hexChar digit).toNat.toUInt8 = some digit := by
  revert digit
  decide

theorem readHex_fixedHex {n : Nat} (small : n < 16 ^ 4) (rest : Bytes) :
    readHex ((fixedHex 4 n).flatMap Utf8.encodeChar ++ rest) = .ok (n, rest) := by
  have digit (m : Nat) : hexOctet? (hexChar (m % 16)).toNat.toUInt8 = some (m % 16) :=
    hexOctet?_hexChar (Nat.mod_lt m (by omega))
  rw [flatMap_encodeChar_of_ascii (ascii_fixedHex 4 n)]
  simp only [fixedHex, List.nil_append, List.cons_append, List.map_cons, List.map_nil, readHex, digit]
  have value : ((n / 16 / 16 / 16 % 16 * 16 + n / 16 / 16 % 16) * 16 + n / 16 % 16) * 16 + n % 16 = n := by
    omega
  rw [value]

theorem noSurrogate_of_control {code : Nat} (control : code < 0x20) :
    isTrailingSurrogate code = false ∧ isLeadingSurrogate code = false := by
  simp only [isTrailingSurrogate, isLeadingSurrogate, Bool.and_eq_false_iff, decide_eq_false_iff_not]
  omega

/-- A control is read from its escape by digits. -/
theorem readEscape_fixedHex {c : Char} {rest : Bytes} (control : c.toNat < 0x20) :
    readEscape (0x75 :: ((fixedHex 4 c.toNat).flatMap Utf8.encodeChar ++ rest)) = .ok (c, rest) := by
  obtain ⟨noTrailing, noLeading⟩ := noSurrogate_of_control control
  have small : c.toNat < 16 ^ 4 := by omega
  simp [readEscape, readCode, readHex_fixedHex small rest, noTrailing, noLeading]

/-! ## One step of reading -/

def Plain (octet : UInt8) : Prop := octet ≠ 0x22 ∧ octet ≠ 0x5C ∧ ¬octet < 0x20

theorem readOctets_escaped {before tail rest : Bytes} {c : Char} (read : readEscape tail = .ok (c, rest)) :
    readOctets before (0x5C :: tail) = readOctets ((Utf8.encodeChar c).reverse ++ before) rest := by
  rw [readOctets, if_neg (by decide), if_pos rfl]
  split
  · rename_i found
    cases read.symm.trans found
    rfl
  · rename_i found
    cases read.symm.trans found

theorem readOctets_plain {before octets rest : Bytes} (plain : ∀ octet ∈ octets, Plain octet) :
    readOctets before (octets ++ rest) = readOctets (octets.reverse ++ before) rest := by
  induction octets generalizing before with
  | nil => rfl
  | cons octet octets inductionHypothesis =>
    obtain ⟨notQuote, notBackslash, notControl⟩ := plain octet List.mem_cons_self
    rw [List.cons_append, readOctets, if_neg notQuote, if_neg notBackslash, if_neg notControl,
      inductionHypothesis fun other member => plain other (List.mem_cons_of_mem octet member)]
    simp

/-- The octets of a character that needs no escape stand for themselves. -/
theorem plain_of_mem_encodeChar {c : Char} (notQuote : c ≠ '"') (notBackslash : c ≠ '\\') (notControl : 0x20 ≤ c.toNat)
    {octet : UInt8} (member : octet ∈ Utf8.encodeChar c) : Plain octet := by
  by_cases ascii : c.toNat < 0x80
  · rw [Utf8.encodeChar_of_ascii ascii, List.mem_singleton] at member
    have value : octet.toNat = c.toNat := by rw [member, Utf8.toNat_toUInt8 (by omega)]
    have other {d : Char} (different : c ≠ d) : octet.toNat ≠ d.toNat := by
      intro same
      exact different (Char.toNat_inj.mp (value.symm.trans same))
    refine ⟨?_, ?_, ?_⟩
    · rintro rfl
      exact other notQuote rfl
    · rintro rfl
      exact other notBackslash rfl
    · rw [UInt8.lt_iff_toNat_lt, value]
      exact Nat.not_lt.mpr notControl
  · -- The octets of other characters are larger than all the marks and controls.
    have large := Utf8.octet_of_not_ascii (Nat.not_lt.mp ascii) member
    refine ⟨?_, ?_, ?_⟩
    · rintro rfl
      exact absurd large (by decide)
    · rintro rfl
      exact absurd large (by decide)
    · rw [UInt8.lt_iff_toNat_lt]
      have : (0x20 : UInt8).toNat = 0x20 := rfl
      omega

theorem readOctets_escape (before rest : Bytes) (c : Char) :
    readOctets before ((escape c).flatMap Utf8.encodeChar ++ rest)
      = readOctets ((Utf8.encodeChar c).reverse ++ before) rest := by
  -- The branches are those of `escape`. In all but one of them a backslash comes first.
  have short {d : Char} {letter : Char} (code : c.toNat = d.toNat) (ascii : letter.toNat < 0x80)
      (notDigits : letter.toNat.toUInt8 ≠ 0x75) (meaning : shortEscape? letter.toNat.toUInt8 = some d) :
      readOctets before ((['\\', letter]).flatMap Utf8.encodeChar ++ rest)
        = readOctets ((Utf8.encodeChar c).reverse ++ before) rest := by
    obtain rfl : c = d := Char.toNat_inj.mp code
    have backslash : Utf8.encodeChar '\\' = [0x5C] := by decide
    rw [List.flatMap_cons, backslash, List.flatMap_singleton, Utf8.encodeChar_of_ascii ascii]
    apply readOctets_escaped
    simp [readEscape, notDigits, meaning]
  rw [escape]
  split
  · exact short (d := '"') (by simp [*]) (by decide) (by decide) (by decide)
  split
  · exact short (d := '\\') (by simp [*]) (by decide) (by decide) (by decide)
  split
  · rw [List.flatMap_singleton]
    exact readOctets_plain fun octet member => plain_of_mem_encodeChar ‹_› ‹_› ‹_› member
  split
  · exact short (d := Char.ofNat 0x8) ‹_› (by decide) (by decide) (by decide)
  split
  · exact short (d := '\t') ‹_› (by decide) (by decide) (by decide)
  split
  · exact short (d := '\n') ‹_› (by decide) (by decide) (by decide)
  split
  · exact short (d := Char.ofNat 0xC) ‹_› (by decide) (by decide) (by decide)
  split
  · exact short (d := '\r') ‹_› (by decide) (by decide) (by decide)
  · have start : (['\\', 'u']).flatMap Utf8.encodeChar = [0x5C, 0x75] := by decide
    rw [List.flatMap_append, start]
    exact readOctets_escaped (readEscape_fixedHex (by omega))

/-! ## Strings -/

theorem readOctets_flatMap_escape (before rest : Bytes) (chars : List Char) :
    readOctets before ((chars.flatMap escape).flatMap Utf8.encodeChar ++ 0x22 :: rest)
      = .ok (before.reverse ++ chars.flatMap Utf8.encodeChar, rest) := by
  induction chars generalizing before with
  | nil => simp [readOctets]
  | cons c chars inductionHypothesis =>
    rw [List.flatMap_cons, List.flatMap_append, List.append_assoc, readOctets_escape, inductionHypothesis]
    simp

theorem octets_quote (value : String) :
    (quote value).flatMap Utf8.encodeChar
      = 0x22 :: ((value.toList.flatMap escape).flatMap Utf8.encodeChar ++ [0x22]) := by
  have mark : Utf8.encodeChar '"' = [0x22] := by decide
  simp [quote, mark]

/-- A string is read back after its opening quote. -/
theorem readText_quote {value : String} {tail : Bytes}
    (quoted : 0x22 :: tail = (quote value).flatMap Utf8.encodeChar) (rest : Bytes) :
    readText (tail ++ rest) = .ok (value, rest) := by
  rw [octets_quote, List.cons.injEq] at quoted
  rw [quoted.2, List.append_assoc, List.singleton_append, readText, readOctets_flatMap_escape]
  have content : value.toList.flatMap Utf8.encodeChar = Utf8.encode value := rfl
  simp [content, Utf8.decode_encode]

end Gazette.Json
