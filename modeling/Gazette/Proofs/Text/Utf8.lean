import Gazette.Text.Utf8

/-!
# Texts and their octets

Reading the octets of a text gives the text: `Utf8.decode_encode`. Along the way, what the octets of one character
look like: `encodeChar_of_ascii` and `octet_of_not_ascii`. No other octets are read: `Utf8.decode_eq_ok`.
-/

namespace Gazette.Utf8

open Fallible (bind_eq_ok)

/-! ## Octets as numbers -/

theorem toNat_toUInt8 {n : Nat} (small : n < 256) : n.toUInt8.toNat = n := by
  simp only [Nat.toUInt8_eq, UInt8.toNat_ofNat']
  omega

theorem bounds_of_char (c : Char) : c.toNat < 0xD800 ∨ 0xDFFF < c.toNat ∧ c.toNat < 0x110000 := by
  have := c.valid
  simpa [UInt32.isValidChar, Nat.isValidChar] using this

theorem ofNat_eq_of_toNat {c : Char} {n : Nat} (same : n = c.toNat) : Char.ofNat n = c := by
  rw [same, Char.ofNat_toNat]

/-! ## Octets after the first -/

theorem isContinuation_of_six {n : Nat} (small : n < 0x40) : isContinuation (0x80 + n).toUInt8 = true := by
  have value := toNat_toUInt8 (n := 0x80 + n) (by omega)
  simp only [isContinuation, Bool.and_eq_true, decide_eq_true_eq, UInt8.le_iff_toNat_le, value]
  constructor
  · simp
  · simp
    omega

theorem payload_of_six {n : Nat} (small : n < 0x40) : payload (0x80 + n).toUInt8 = n := by
  have value := toNat_toUInt8 (n := 0x80 + n) (by omega)
  unfold payload
  omega

theorem takePayload_of_six {width n : Nat} {allowed : UInt8 → Bool} {rest : Bytes} (small : n < 0x40)
    (fits : allowed (0x80 + n).toUInt8 = true) :
    takePayload width allowed ((0x80 + n).toUInt8 :: rest) = .ok (n, rest) := by
  simp only [takePayload, fits, if_true, payload_of_six small]

/-- A second octet is allowed unless the code is too small for its length, a surrogate or too large. -/
theorem secondAllowed_of_six {lead n : Nat} (small : n < 0x40) (bound : lead < 256)
    (three : lead = 0xE0 → 0x20 ≤ n) (surrogate : lead = 0xED → n < 0x20)
    (four : lead = 0xF0 → 0x10 ≤ n) (last : lead = 0xF4 → n < 0x10) :
    secondAllowed lead.toUInt8 (0x80 + n).toUInt8 = true := by
  have value : (0x80 + n).toUInt8.toNat = 0x80 + n := toNat_toUInt8 (by omega)
  -- Four first octets narrow down what may be second, each in its branch.
  simp only [secondAllowed, ← UInt8.toNat_inj, toNat_toUInt8 bound]
  split
  · simp_all [UInt8.le_iff_toNat_le]
    omega
  split
  · simp_all [UInt8.le_iff_toNat_le]
    omega
  split
  · simp_all [UInt8.le_iff_toNat_le]
    omega
  split
  · simp_all [UInt8.le_iff_toNat_le]
    omega
  · exact isContinuation_of_six small

/-! ## Characters -/

theorem encodeChar_of_ascii {c : Char} (ascii : c.toNat < 0x80) : encodeChar c = [c.toNat.toUInt8] := by
  simp [encodeChar, ascii]

/-- No octet of a character past the ASCII ones is the octet of an ASCII character. -/
theorem octet_of_not_ascii {c : Char} (notAscii : 0x80 ≤ c.toNat) {octet : UInt8}
    (member : octet ∈ encodeChar c) : 0x80 ≤ octet.toNat := by
  have bounds := bounds_of_char c
  unfold encodeChar at member
  dsimp only at member
  repeat' split at member
  · omega
  all_goals
    simp only [List.mem_cons, List.not_mem_nil, or_false] at member
    rcases member with rfl | rfl | rfl | rfl <;> rw [toNat_toUInt8 (by omega)] <;> omega

/-- The octets of a character read back as that character, whatever comes after them. -/
theorem decodeChar_encodeChar (c : Char) (rest : Bytes) :
    ∃ lead tail, encodeChar c = lead :: tail ∧ decodeChar lead (tail ++ rest) = .ok (c, rest) := by
  have bounds := bounds_of_char c
  simp only [encodeChar]
  split
  · -- One octet.
    refine ⟨_, _, rfl, ?_⟩
    have value := toNat_toUInt8 (n := c.toNat) (by omega)
    rw [decodeChar, if_pos, value, Char.ofNat_toNat]
    · rfl
    · simp only [UInt8.lt_iff_toNat_lt, value]
      assumption
  split
  · -- Two octets.
    refine ⟨_, _, rfl, ?_⟩
    have value := toNat_toUInt8 (n := 0xC0 + c.toNat / 0x40) (by omega)
    rw [decodeChar, if_neg, if_pos]
    · simp only [List.cons_append, List.nil_append]
      rw [takePayload_of_six (by omega) (isContinuation_of_six (by omega))]
      show Except.ok _ = _
      rw [value, ofNat_eq_of_toNat (c := c) (by omega)]
    · simp [UInt8.le_iff_toNat_le]
      omega
    · simp [UInt8.lt_iff_toNat_lt]
      omega
  split
  · -- Three octets.
    refine ⟨_, _, rfl, ?_⟩
    have value := toNat_toUInt8 (n := 0xE0 + c.toNat / 0x1000) (by omega)
    rw [decodeChar, if_neg, if_neg, if_pos]
    · simp only [List.cons_append, List.nil_append]
      rw [takePayload_of_six (by omega)
        (secondAllowed_of_six (by omega) (by omega) (by omega) (by omega) (by omega) (by omega))]
      show (takePayload 2 _ _ >>= _) = _
      rw [takePayload_of_six (by omega) (isContinuation_of_six (by omega))]
      show Except.ok _ = _
      rw [value, ofNat_eq_of_toNat (c := c) (by omega)]
    · simp [UInt8.le_iff_toNat_le]
      omega
    · simp [UInt8.le_iff_toNat_le]
      omega
    · simp [UInt8.lt_iff_toNat_lt]
      omega
  · -- Four octets.
    refine ⟨_, _, rfl, ?_⟩
    have value := toNat_toUInt8 (n := 0xF0 + c.toNat / 0x40000) (by omega)
    rw [decodeChar, if_neg, if_neg, if_neg, if_pos]
    · simp only [List.cons_append, List.nil_append]
      rw [takePayload_of_six (by omega)
        (secondAllowed_of_six (by omega) (by omega) (by omega) (by omega) (by omega) (by omega))]
      show (takePayload 2 _ _ >>= _) = _
      rw [takePayload_of_six (by omega) (isContinuation_of_six (by omega))]
      show (takePayload 3 _ _ >>= _) = _
      rw [takePayload_of_six (by omega) (isContinuation_of_six (by omega))]
      show Except.ok _ = _
      rw [value, ofNat_eq_of_toNat (c := c) (by omega)]
    · simp [UInt8.le_iff_toNat_le]
      omega
    · simp [UInt8.le_iff_toNat_le]
      omega
    · simp [UInt8.le_iff_toNat_le]
      omega
    · simp [UInt8.lt_iff_toNat_lt]
      omega

/-! ## Texts -/

theorem decodeFrom_encode (position : Nat) (before chars : List Char) :
    decodeFrom position before (chars.flatMap encodeChar) = .ok (String.ofList (before.reverse ++ chars)) := by
  induction chars generalizing position before with
  | nil => simp [decodeFrom]
  | cons c chars inductionHypothesis =>
    obtain ⟨lead, tail, octets, read⟩ := decodeChar_encodeChar c (chars.flatMap encodeChar)
    rw [List.flatMap_cons, octets, List.cons_append, decodeFrom]
    split
    · rename_i found
      cases read.symm.trans found
      rw [inductionHypothesis]
      simp
    · rename_i found
      cases read.symm.trans found
    · rename_i found
      cases read.symm.trans found

/-- The octets of a text write that text. -/
theorem decode_encode (text : String) : decode (encode text) = .ok text := by
  rw [decode, encode, decodeFrom_encode]
  simp

theorem encode_injective {left right : String} (same : encode left = encode right) : left = right := by
  have read := decode_encode left
  rw [same, decode_encode] at read
  cases read
  rfl

@[simp] theorem encode_ofList (chars : List Char) : encode (String.ofList chars) = chars.flatMap encodeChar := by
  simp [encode]

/-! ## Octets that can be read -/

theorem toNat_ofNat (code : Nat) (valid : code.isValidChar) : (Char.ofNat code).toNat = code := by
  rw [Char.ofNat, dif_pos valid]
  rfl

theorem bounds_of_isContinuation {octet : UInt8} (continues : isContinuation octet = true) :
    0x80 ≤ octet.toNat ∧ octet.toNat ≤ 0xBF := by
  simpa [isContinuation, UInt8.le_iff_toNat_le] using continues

theorem bounds_of_secondAllowed {lead second : UInt8} (allowed : secondAllowed lead second = true) :
    0x80 ≤ second.toNat ∧ second.toNat ≤ 0xBF ∧ (lead.toNat = 0xE0 → 0xA0 ≤ second.toNat) ∧
      (lead.toNat = 0xED → second.toNat ≤ 0x9F) ∧ (lead.toNat = 0xF0 → 0x90 ≤ second.toNat) ∧
      (lead.toNat = 0xF4 → second.toNat ≤ 0x8F) := by
  simp only [secondAllowed, ← UInt8.toNat_inj, isContinuation] at allowed
  repeat' split at allowed
  all_goals
    simp only [Bool.and_eq_true, decide_eq_true_eq, UInt8.le_iff_toNat_le, UInt8.reduceToNat] at *
    omega

theorem exists_octet_of_takePayload {width : Nat} {allowed : UInt8 → Bool} {octets rest : Bytes} {n : Nat}
    (taken : takePayload width allowed octets = .ok (n, rest)) :
    ∃ octet, octets = octet :: rest ∧ allowed octet = true ∧ n = octet.toNat - 0x80 := by
  cases octets with
  | nil => cases taken
  | cons octet tail =>
    rw [takePayload] at taken
    split at taken
    · rename_i fits
      simp only [Except.ok.injEq, Prod.mk.injEq] at taken
      obtain ⟨value, rfl⟩ := taken
      exact ⟨octet, rfl, fits, value.symm⟩
    · cases taken

theorem toUInt8_eq {n : Nat} (octet : UInt8) (same : n = octet.toNat) : n.toUInt8 = octet := by
  rw [same]
  exact UInt8.ofNat_toNat

/-- A character is read from its own octets only. -/
theorem encodeChar_of_decodeChar {lead : UInt8} {tail rest : Bytes} {c : Char}
    (read : decodeChar lead tail = .ok (c, rest)) : lead :: tail = encodeChar c ++ rest := by
  simp only [decodeChar, Bool.and_eq_true, decide_eq_true_eq, UInt8.lt_iff_toNat_lt, UInt8.le_iff_toNat_le,
    UInt8.reduceToNat] at read
  split at read
  · -- One octet.
    cases read
    have code : (Char.ofNat lead.toNat).toNat = lead.toNat := toNat_ofNat _ (.inl (by omega))
    rw [encodeChar_of_ascii (by omega), code, toUInt8_eq lead rfl]
    rfl
  split at read
  · -- Two octets.
    obtain ⟨⟨m, _⟩, taken, last⟩ := bind_eq_ok.mp read
    obtain ⟨second, rfl, allowed, value⟩ := exists_octet_of_takePayload taken
    have bounds := bounds_of_isContinuation allowed
    cases last
    have code := toNat_ofNat ((lead.toNat - 0xC0) * 0x40 + m) (.inl (by omega))
    simp only [encodeChar, code]
    rw [if_neg (by omega), if_pos (by omega), toUInt8_eq lead (by omega),
      toUInt8_eq second (by omega)]
    rfl
  split at read
  · -- Three octets.
    obtain ⟨⟨m, _⟩, taken, more⟩ := bind_eq_ok.mp read
    obtain ⟨second, rfl, secondAllowed, secondValue⟩ := exists_octet_of_takePayload taken
    obtain ⟨⟨n, _⟩, takenNext, last⟩ := bind_eq_ok.mp more
    obtain ⟨third, rfl, thirdAllowed, thirdValue⟩ := exists_octet_of_takePayload takenNext
    have secondBounds := bounds_of_secondAllowed secondAllowed
    have thirdBounds := bounds_of_isContinuation thirdAllowed
    cases last
    have code := toNat_ofNat (((lead.toNat - 0xE0) * 0x40 + m) * 0x40 + n)
      (by simp only [Nat.isValidChar]; omega)
    simp only [encodeChar, code]
    rw [if_neg (by omega), if_neg (by omega), if_pos (by omega), toUInt8_eq lead (by omega),
      toUInt8_eq second (by omega), toUInt8_eq third (by omega)]
    rfl
  split at read
  · -- Four octets.
    obtain ⟨⟨m, _⟩, taken, more⟩ := bind_eq_ok.mp read
    obtain ⟨second, rfl, secondAllowed, secondValue⟩ := exists_octet_of_takePayload taken
    obtain ⟨⟨n, _⟩, takenNext, evenMore⟩ := bind_eq_ok.mp more
    obtain ⟨third, rfl, thirdAllowed, thirdValue⟩ := exists_octet_of_takePayload takenNext
    obtain ⟨⟨k, _⟩, takenLast, last⟩ := bind_eq_ok.mp evenMore
    obtain ⟨fourth, rfl, fourthAllowed, fourthValue⟩ := exists_octet_of_takePayload takenLast
    have secondBounds := bounds_of_secondAllowed secondAllowed
    have thirdBounds := bounds_of_isContinuation thirdAllowed
    have fourthBounds := bounds_of_isContinuation fourthAllowed
    cases last
    have code := toNat_ofNat ((((lead.toNat - 0xF0) * 0x40 + m) * 0x40 + n) * 0x40 + k)
      (by simp only [Nat.isValidChar]; omega)
    simp only [encodeChar, code]
    rw [if_neg (by omega), if_neg (by omega), if_neg (by omega), toUInt8_eq lead (by omega),
      toUInt8_eq second (by omega), toUInt8_eq third (by omega),
      toUInt8_eq fourth (by omega)]
    rfl
  · cases read

theorem encode_of_decodeFrom {position : Nat} {before : List Char} {octets : Bytes} {text : String}
    (read : decodeFrom position before octets = .ok text) :
    encode text = before.reverse.flatMap encodeChar ++ octets := by
  fun_induction decodeFrom position before octets with
  | case1 position before =>
    cases read
    simp
  | case2 position before lead tail c rest char shorter inductionHypothesis =>
    rw [inductionHypothesis read, encodeChar_of_decodeChar char]
    simp
  | case3 => cases read
  | case4 => cases read

/-- Octets that can be read are those of the text that is read from them. -/
theorem decode_eq_ok {octets : Bytes} {text : String} : decode octets = .ok text ↔ octets = encode text := by
  constructor
  · intro read
    exact (encode_of_decodeFrom read).symm
  · rintro rfl
    exact decode_encode text

end Gazette.Utf8
