import Gazette.Proofs.Json.Grammar

/-!
# Read and passed over numbers

* `skipNumber_numeral`: passing over a numeral ends behind it.
* `readNumber_decimal`: a whole number of up to 64 bits is read back from its digits.
* `Format.faithful_word32`, `Format.faithful_word64`: numbers have faithful formats.
-/

namespace Gazette.Json

/-! ## Parts of numerals -/

def NoDigit (rest : Bytes) : Prop := ∀ octet ∈ rest.head?, isDigitOctet octet = false

theorem Ends.noDigit {rest : Bytes} (ends : Ends rest) : NoDigit rest := fun octet first => (ends octet first).1

theorem skipDigits_append {digits rest : Bytes} (all : AllDigits digits) (noDigit : NoDigit rest) :
    skipDigits (digits ++ rest) = rest := by
  rw [skipDigits, List.dropWhile_append_of_pos all]
  cases rest with
  | nil => rfl
  | cons octet rest => rw [List.dropWhile_cons_of_neg (by simp [noDigit octet rfl])]

theorem readSomeDigits_append {digits rest : Bytes} (atEnd : JsonError) (some : digits ≠ []) (all : AllDigits digits)
    (noDigit : NoDigit rest) : ∃ values, readSomeDigits atEnd (digits ++ rest) = .ok (values, rest) := by
  obtain ⟨first, others, rfl⟩ := List.exists_cons_of_ne_nil some
  obtain ⟨digit, digits⟩ := List.forall_mem_cons.mp all
  rw [List.cons_append, readSomeDigits, if_pos digit, skipDigits_append digits noDigit]
  exact ⟨_, rfl⟩

def digitsIn (octets : Bytes) : List Nat := octets.map fun octet => octet.toNat - 0x30

theorem leadingDigits_append {digits rest : Bytes} (all : AllDigits digits) (noDigit : NoDigit rest) :
    leadingDigits (digits ++ rest) = digitsIn digits := by
  rw [leadingDigits, digitsIn, List.takeWhile_append_of_pos all]
  cases rest with
  | nil => rw [List.takeWhile_nil, List.append_nil]
  | cons octet rest => rw [List.takeWhile_cons_of_neg (by simp [noDigit octet rfl]), List.append_nil]

theorem readWhole_append {whole rest : Bytes} (atEnd : JsonError) (isWhole : IsWhole whole) (noDigit : NoDigit rest) :
    readWhole atEnd (whole ++ rest) = .ok (digitsIn whole, rest) := by
  cases isWhole with
  | zero =>
    have none : AllDigits [] := nofun
    have noMore : leadingDigits rest = [] := leadingDigits_append none noDigit
    rw [List.cons_append, List.nil_append, readWhole, if_pos rfl, if_pos noMore]
    rfl
  | @digits first others digit notZero more =>
    have all : AllDigits (first :: others) := List.forall_mem_cons.mpr ⟨digit, more⟩
    rw [List.cons_append, readWhole, if_neg notZero, if_pos digit, skipDigits_append more noDigit, ← List.cons_append,
      leadingDigits_append all noDigit]

theorem readFraction_none {rest : Bytes} (atEnd : JsonError) (noPoint : rest.head? ≠ some 0x2E) :
    readFraction atEnd rest = .ok ([], rest) := by
  cases rest with
  | nil => rfl
  | cons octet rest => rw [readFraction, if_neg fun same => noPoint (congrArg some same)]

theorem readFraction_append {fraction rest : Bytes} (atEnd : JsonError) (isFraction : IsFraction fraction)
    (noDigit : NoDigit rest) (noPoint : rest.head? ≠ some 0x2E) :
    ∃ values, readFraction atEnd (fraction ++ rest) = .ok (values, rest) := by
  cases isFraction with
  | none => exact ⟨_, readFraction_none atEnd noPoint⟩
  | point some all =>
    rw [List.cons_append, readFraction, if_pos rfl]
    exact readSomeDigits_append atEnd some all noDigit

theorem readSigned_append {sign digits rest : Bytes} (atEnd : JsonError) (isSign : sign ∈ [[], [0x2B], [0x2D]])
    (some : digits ≠ []) (all : AllDigits digits) (noDigit : NoDigit rest) :
    ∃ power, readSigned atEnd (sign ++ (digits ++ rest)) = .ok (power, rest) := by
  obtain ⟨values, read⟩ := readSomeDigits_append atEnd some all noDigit
  simp only [List.mem_cons, List.not_mem_nil, or_false] at isSign
  rcases isSign with rfl | rfl | rfl
  · obtain ⟨first, others, rfl⟩ := List.exists_cons_of_ne_nil some
    have digit := all first List.mem_cons_self
    have notMinus : first ≠ 0x2D := ne_of_isDigitOctet digit (by decide)
    have notPlus : first ≠ 0x2B := ne_of_isDigitOctet digit (by decide)
    rw [List.cons_append] at read
    rw [List.nil_append, List.cons_append, readSigned, if_neg notMinus, if_neg notPlus, read]
    exact ⟨_, rfl⟩
  · rw [List.cons_append, List.nil_append, readSigned, if_neg (by decide), if_pos rfl, read]
    exact ⟨_, rfl⟩
  · rw [List.cons_append, List.nil_append, readSigned, if_pos rfl, read]
    exact ⟨_, rfl⟩

theorem readPower_none {rest : Bytes} (atEnd : JsonError) (ends : Ends rest) :
    readPower atEnd rest = .ok (none, rest) := by
  cases rest with
  | nil => rfl
  | cons octet rest =>
    obtain ⟨_, _, notCapital, notSmall⟩ := ends octet rfl
    simp [readPower, notCapital, notSmall]

theorem readPower_append {power rest : Bytes} (atEnd : JsonError) (isPower : IsPower power) (ends : Ends rest) :
    ∃ value, readPower atEnd (power ++ rest) = .ok (value, rest) := by
  cases isPower with
  | none => exact ⟨_, readPower_none atEnd ends⟩
  | power isLetter isSign some all =>
    obtain ⟨value, read⟩ := readSigned_append atEnd isSign some all ends.noDigit
    simp only [List.mem_cons, List.not_mem_nil, or_false] at isLetter
    rw [List.cons_append, List.append_assoc, readPower, if_pos (by simpa using isLetter), read]
    exact ⟨_, rfl⟩

/-- Neither digits nor a point come after the fraction. -/
theorem head_power {power rest : Bytes} (isPower : IsPower power) (ends : Ends rest) :
    NoDigit (power ++ rest) ∧ (power ++ rest).head? ≠ some 0x2E := by
  cases isPower with
  | none => exact ⟨ends.noDigit, fun first => (ends 0x2E first).2.1 rfl⟩
  | power isLetter isSign some all =>
    simp only [List.mem_cons, List.not_mem_nil, or_false] at isLetter
    rcases isLetter with rfl | rfl
    · exact ⟨fun octet first => by cases first; decide, by simp⟩
    · exact ⟨fun octet first => by cases first; decide, by simp⟩

theorem noDigit_fraction {fraction rest : Bytes} (isFraction : IsFraction fraction) (noDigit : NoDigit rest) :
    NoDigit (fraction ++ rest) := by
  cases isFraction with
  | none => exact noDigit
  | point some all =>
    intro octet first
    cases first
    decide

theorem readMagnitude_append {whole fraction power rest : Bytes} (atEnd : JsonError) (negative : Bool)
    (isWhole : IsWhole whole) (isFraction : IsFraction fraction) (isPower : IsPower power) (ends : Ends rest) :
    ∃ numeral, readMagnitude atEnd negative (whole ++ (fraction ++ (power ++ rest))) = .ok (numeral, rest) := by
  obtain ⟨noDigit, noPoint⟩ := head_power isPower ends
  have readWhole := readWhole_append atEnd isWhole (noDigit_fraction isFraction noDigit)
  obtain ⟨_, readFraction⟩ := readFraction_append atEnd isFraction noDigit noPoint
  obtain ⟨_, readPower⟩ := readPower_append atEnd isPower ends
  simp only [readMagnitude, readWhole, readFraction, readPower, Fallible.ok_bind]
  exact ⟨_, rfl⟩

/-! ## Numerals -/

theorem skipNumber_numeral {octets rest : Bytes} (isNumeral : IsNumeral octets) (ends : Ends rest) :
    skipNumber (octets ++ rest) = .ok rest := by
  cases isNumeral with
  | parts isSign isWhole isFraction isPower =>
    have magnitude (negative : Bool) := readMagnitude_append .invalidNumber negative isWhole isFraction isPower ends
    obtain ⟨first, others, rfl, digit⟩ := isWhole.exists_cons
    simp only [List.mem_cons, List.not_mem_nil, or_false] at isSign
    rcases isSign with rfl | rfl
    · obtain ⟨_, read⟩ := magnitude false
      have notMinus : first ≠ 0x2D := ne_of_isDigitOctet digit (by decide)
      simp only [List.nil_append, List.cons_append, List.append_assoc] at read ⊢
      rw [skipNumber, readNumeral, if_neg notMinus, read]
      rfl
    · obtain ⟨_, read⟩ := magnitude true
      simp only [List.nil_append, List.cons_append, List.append_assoc] at read ⊢
      rw [skipNumber, readNumeral, if_pos rfl, read]
      rfl

/-! ## Written numbers -/

/-- A whole number has neither a fraction nor a power. -/
theorem readMagnitude_whole {whole rest : Bytes} (atEnd : JsonError) (negative : Bool) (isWhole : IsWhole whole)
    (ends : Ends rest) :
    readMagnitude atEnd negative (whole ++ rest) = .ok (⟨negative, digitsIn whole, [], none⟩, rest) := by
  have noPoint : rest.head? ≠ some 0x2E := fun first => (ends 0x2E first).2.1 rfl
  simp only [readMagnitude, readWhole_append atEnd isWhole ends.noDigit, readFraction_none atEnd noPoint,
    readPower_none atEnd ends, Fallible.ok_bind]

theorem absorb_append {sofar n : Nat} {left : List Nat} (right : List Nat) (all : absorb sofar left = (n, 0)) :
    absorb sofar (left ++ right) = absorb n right := by
  induction left generalizing sofar with
  | nil =>
    cases all
    rfl
  | cons digit left inductionHypothesis =>
    rw [absorb] at all
    split at all
    · rw [List.cons_append, absorb, if_pos ‹_›, inductionHypothesis all]
    · cases all

/-- The digits of a number of up to 64 bits are taken up to the last. -/
theorem absorb_decimal {n : Nat} (small : n < UInt64.size) : absorb 0 (digitsIn (octetsOf (decimal n))) = (n, 0) := by
  induction n using Nat.strongRecOn with
  | ind n inductionHypothesis =>
    rw [decimal]
    by_cases oneDigit : n < 10
    · obtain ⟨octet, octets, _, value⟩ := isDigitOctet_digitChar oneDigit
      rw [Nat.toDigits_of_lt_base oneDigit, digitChar_eq oneDigit, octets, digitsIn, List.map_singleton, value, absorb,
        Nat.zero_mul, Nat.zero_add, if_pos small, absorb]
    · -- All digits but the last are those of a tenth of the number.
      have before := inductionHypothesis (n / 10) (by omega) (by omega)
      obtain ⟨octet, octets, _, value⟩ := isDigitOctet_digitChar (Nat.mod_lt n (by decide : 0 < 10))
      have whole : n / 10 * 10 + n % 10 = n := Nat.div_add_mod' n 10
      rw [digitsIn] at before
      rw [Nat.toDigits_of_base_le (by omega) (Nat.not_lt.mp oneDigit), ← decimal, octetsOf_append,
        digitChar_eq (Nat.mod_lt n (by decide)), octets, digitsIn, List.map_append, absorb_append _ before,
        List.map_singleton, value, absorb, whole, if_pos small, absorb]

theorem readNumber_decimal {n : Nat} {rest : Bytes} (small : n < UInt64.size) (ends : Ends rest) :
    readNumber (octetsOf (decimal n) ++ rest) = .ok (.natural n, rest) := by
  have read := readMagnitude_whole .endInValue false (isWhole_decimal n) ends
  have value : Numeral.value ⟨false, digitsIn (octetsOf (decimal n)), [], none⟩ = .ok (.natural n) := by
    simp only [Numeral.value, absorb_decimal small]
    rfl
  obtain ⟨first, others, start, digit⟩ := (isWhole_decimal n).exists_cons
  have notMinus : first ≠ 0x2D := ne_of_isDigitOctet digit (by decide)
  rw [readNumber]
  rw [start, List.cons_append] at read ⊢
  rw [readNumeral, if_neg notMinus, read, Fallible.ok_bind, ← start]
  simp only [value, Fallible.ok_bind]

theorem Reader.run_bounded (expected : String) {bound n : Nat} {blanks rest : Bytes} (within : n < bound)
    (fits : bound ≤ UInt64.size) (allBlank : Blanks blanks) (ends : Ends rest) :
    (bounded expected bound).run (blanks ++ (octetsOf (decimal n) ++ rest)) = .ok (n, rest) := by
  have read := readNumber_decimal (Nat.lt_of_lt_of_le within fits) ends
  obtain ⟨first, others, start, digit⟩ := (isWhole_decimal n).exists_cons
  have accepted : (first == 0x2D || isDigitOctet first) = true := by rw [digit, Bool.or_true]
  rw [start, List.cons_append] at read ⊢
  simp only [bounded, startingWith, skipBlankOctets_to first _ allBlank (isBlankOctet_of_isDigitOctet digit), accepted,
    if_true, readBounded, read, Fallible.ok_bind, if_pos within]

namespace Format

theorem faithful_word32 : word32.Faithful := by
  intro word blanks octets rest allBlank written ends
  cases written
  have read := Reader.run_map (f := Nat.toUInt32)
    (Reader.run_bounded "u32" word.toNat_lt (by decide) allBlank ends)
  have same : word.toNat.toUInt32 = word := UInt32.ofNat_toNat
  rw [same] at read
  exact read

theorem faithful_word64 : word64.Faithful := by
  intro word blanks octets rest allBlank written ends
  cases written
  have read := Reader.run_map (f := Nat.toUInt64)
    (Reader.run_bounded "u64" word.toNat_lt (Nat.le_refl _) allBlank ends)
  have same : word.toNat.toUInt64 = word := UInt64.ofNat_toNat
  rw [same] at read
  exact read

end Format

end Gazette.Json
