import Gazette.Proofs.Json.Grammar

/-!
# Strings of any spelling

* `skipText_pieces`: passing over a string ends behind its closing quote, whatever its escapes make up.
* `readText_eq_ok`: a string is read as what it spells, and is refused if it spells nothing.
-/

namespace Gazette.Json

/-! ## Escapes -/

theorem exists_octet_of_mem_shortEscapes {letter c : Char} (means : (letter, c) ∈ shortEscapes) :
    ∃ octet, Utf8.encodeChar letter = [octet] ∧ octet ≠ 0x75 ∧ shortEscape? octet = some c := by
  have all : ∀ pair ∈ shortEscapes, Utf8.encodeChar pair.1 = [pair.1.toNat.toUInt8] ∧
      pair.1.toNat.toUInt8 ≠ 0x75 ∧ shortEscape? pair.1.toNat.toUInt8 = some pair.2 := by decide
  exact ⟨_, all _ means⟩

theorem HexDigit.exists_octet (digit : HexDigit) :
    ∃ octet, Utf8.encodeChar digit.letter = [octet] ∧ hexOctet? octet = some digit.value := by
  have all : ∀ pair ∈ hexDigits, Utf8.encodeChar pair.1 = [pair.1.toNat.toUInt8] ∧
      hexOctet? pair.1.toNat.toUInt8 = some pair.2 := by decide
  exact ⟨_, all _ digit.means⟩

theorem readHex_digits (a b c d : HexDigit) (rest : Bytes) :
    readHex (octetsOf [a.letter, b.letter, c.letter, d.letter] ++ rest) = .ok (codeOf a b c d, rest) := by
  obtain ⟨_, first, valueA⟩ := a.exists_octet
  obtain ⟨_, second, valueB⟩ := b.exists_octet
  obtain ⟨_, third, valueC⟩ := c.exists_octet
  obtain ⟨_, fourth, valueD⟩ := d.exists_octet
  rw [octetsOf_mark first, octetsOf_mark second, octetsOf_mark third, octetsOf_mark fourth]
  simp only [List.cons_append, readHex, valueA, valueB, valueC, valueD, codeOf, octetsOf, List.flatMap_nil,
    List.nil_append]

theorem octets_short {letter c : Char} {means : (letter, c) ∈ shortEscapes} {octet : UInt8}
    (mark : Utf8.encodeChar letter = [octet]) (rest : Bytes) :
    (Piece.short letter c means).octets ++ rest = 0x5C :: octet :: rest := by
  have backslash : Utf8.encodeChar '\\' = [0x5C] := by decide
  rw [Piece.octets, octetsOf_mark backslash, octetsOf_mark mark]
  rfl

theorem octets_code (a b c d : HexDigit) (rest : Bytes) : (Piece.code a b c d).octets ++ rest
    = 0x5C :: 0x75 :: (octetsOf [a.letter, b.letter, c.letter, d.letter] ++ rest) := by
  have backslash : Utf8.encodeChar '\\' = [0x5C] := by decide
  have letter : Utf8.encodeChar 'u' = [0x75] := by decide
  rw [Piece.octets, octetsOf_mark backslash, octetsOf_mark letter]
  rfl

/-! ## Passing over -/

theorem skipText_plain {octets rest : Bytes} (plain : ∀ octet ∈ octets, Plain octet) :
    skipText (octets ++ rest) = skipText rest := by
  induction octets with
  | nil => rfl
  | cons octet octets inductionHypothesis =>
    obtain ⟨notQuote, notBackslash, notControl⟩ := plain octet List.mem_cons_self
    rw [List.cons_append, skipText, if_neg notQuote, if_neg notBackslash, if_neg notControl]
    exact inductionHypothesis fun other member => plain other (List.mem_cons_of_mem octet member)

theorem skipText_escaped {tail rest : Bytes} (skipped : skipEscape tail = .ok rest) :
    skipText (0x5C :: tail) = skipText rest := by
  rw [skipText, if_neg (by decide), if_pos rfl]
  split
  · rename_i found
    cases skipped.symm.trans found
    rfl
  · rename_i found
    cases skipped.symm.trans found

theorem skipText_piece (piece : Piece) (rest : Bytes) : skipText (piece.octets ++ rest) = skipText rest := by
  cases piece with
  | plain c notQuote notBackslash notControl =>
    apply skipText_plain
    rw [Piece.octets, octetsOf, List.flatMap_singleton]
    intro octet member
    exact plain_of_mem_encodeChar notQuote notBackslash notControl member
  | short letter c means =>
    obtain ⟨octet, mark, notDigits, meaning⟩ := exists_octet_of_mem_shortEscapes means
    rw [octets_short mark]
    apply skipText_escaped
    simp only [skipEscape, if_neg notDigits, meaning]
  | code a b c d =>
    rw [octets_code]
    apply skipText_escaped
    simp only [skipEscape, if_true, readHex_digits, Fallible.ok_bind]

/-- Lone surrogates pass as well. -/
theorem skipText_pieces (pieces : List Piece) (rest : Bytes) :
    skipText (pieces.flatMap Piece.octets ++ 0x22 :: rest) = .ok rest := by
  induction pieces with
  | nil => simp [skipText]
  | cons piece pieces inductionHypothesis =>
    rw [List.flatMap_cons, List.append_assoc, skipText_piece, inductionHypothesis]

/-! ## Reading -/

theorem exists_encodeChar_eq_cons (c : Char) : ∃ octet others, Utf8.encodeChar c = octet :: others := by
  simp only [Utf8.encodeChar]
  repeat' split
  all_goals exact ⟨_, _, rfl⟩

theorem readEscape_code (a b c d : HexDigit) (tail : Bytes) :
    readEscape (0x75 :: (octetsOf [a.letter, b.letter, c.letter, d.letter] ++ tail))
      = if isTrailingSurrogate (codeOf a b c d) then .error .loneSurrogate
        else if isLeadingSurrogate (codeOf a b c d) then readTrailing (codeOf a b c d) tail
        else .ok (Char.ofNat (codeOf a b c d), tail) := by
  simp only [readEscape, if_true, readCode, readHex_digits, Fallible.ok_bind]

theorem readTrailing_code (leading : Nat) (a b c d : HexDigit) (tail : Bytes) :
    readTrailing leading ((Piece.code a b c d).octets ++ tail)
      = if isTrailingSurrogate (codeOf a b c d) then .ok (pairedChar leading (codeOf a b c d), tail)
        else .error .loneSurrogate := by
  simp only [octets_code, readTrailing, expectInPair, if_true, Fallible.ok_bind, readHex_digits]

/-- A leading surrogate needs another code behind it. -/
theorem readTrailing_of_no_code {leading : Nat} {pieces : List Piece}
    (noCode : ∀ a b c d others, pieces = .code a b c d :: others → False) (rest : Bytes) :
    readTrailing leading (pieces.flatMap Piece.octets ++ 0x22 :: rest) = .error .unpairedSurrogate := by
  have other {octet : UInt8} {tail : Bytes} (notBackslash : octet ≠ 0x5C) :
      readTrailing leading (octet :: tail) = .error .unpairedSurrogate := by
    simp only [readTrailing, expectInPair, if_neg notBackslash, Fallible.error_bind]
  cases pieces with
  | nil => exact other (by decide)
  | cons piece others =>
    cases piece with
    | plain c notQuote notBackslash notControl =>
      obtain ⟨octet, tail, encoded⟩ := exists_encodeChar_eq_cons c
      have first : octet ∈ Utf8.encodeChar c := encoded ▸ List.mem_cons_self
      rw [List.flatMap_cons, Piece.octets, octetsOf, List.flatMap_singleton, encoded]
      exact other (plain_of_mem_encodeChar notQuote notBackslash notControl first).2.1
    | short letter c means =>
      obtain ⟨octet, mark, notDigits, _⟩ := exists_octet_of_mem_shortEscapes means
      rw [List.flatMap_cons, List.append_assoc, octets_short mark]
      simp only [readTrailing, expectInPair, if_true, if_neg notDigits, Fallible.ok_bind, Fallible.error_bind]
    | code a b c d => exact absurd rfl (noCode a b c d others)

/-- From the octets, the characters are read and no further than to the rest, or there is an error. -/
def ReadAs (octets : Bytes) (spelled : Option (List Char)) (rest : Bytes) : Prop :=
  ∀ before, (readOctets before octets).toOption = spelled.map fun chars => (before.reverse ++ octetsOf chars, rest)

theorem readAs_quote (rest : Bytes) : ReadAs (0x22 :: rest) (some []) rest := by
  intro before
  rw [readOctets, if_pos rfl, Option.map_some, octetsOf, List.flatMap_nil, List.append_nil]
  rfl

theorem ReadAs.encoded {octets rest : Bytes} {spelled : Option (List Char)} (read : ReadAs octets spelled rest)
    {c : Char} (plain : ∀ octet ∈ Utf8.encodeChar c, Plain octet) :
    ReadAs (Utf8.encodeChar c ++ octets) (spelled.map (c :: ·)) rest := by
  intro before
  rw [readOctets_plain plain, read, Option.map_map]
  congr 1
  funext chars
  simp [octetsOf]

theorem ReadAs.escaped {tail octets rest : Bytes} {spelled : Option (List Char)} {c : Char}
    (escape : readEscape tail = .ok (c, octets)) (read : ReadAs octets spelled rest) :
    ReadAs (0x5C :: tail) (spelled.map (c :: ·)) rest := by
  intro before
  rw [readOctets_escaped escape, read, Option.map_map]
  congr 1
  funext chars
  simp [octetsOf]

theorem ReadAs.refused {tail rest : Bytes} (escape : (readEscape tail).toOption = none) :
    ReadAs (0x5C :: tail) none rest := by
  intro before
  rw [readOctets, if_neg (by decide), if_pos rfl]
  split
  · rename_i found
    rw [found] at escape
    cases escape
  · rfl

/-- The cases are those of `spelled?`. -/
theorem readAs_pieces (pieces : List Piece) (rest : Bytes) :
    ReadAs (pieces.flatMap Piece.octets ++ 0x22 :: rest) (spelled? pieces) rest := by
  fun_induction spelled? pieces with
  | case1 => exact readAs_quote rest
  | case2 c notQuote notBackslash notControl pieces inductionHypothesis =>
    rw [List.flatMap_cons, List.append_assoc, Piece.octets, octetsOf, List.flatMap_singleton]
    apply inductionHypothesis.encoded
    intro octet member
    exact plain_of_mem_encodeChar notQuote notBackslash notControl member
  | case3 letter c means pieces inductionHypothesis =>
    obtain ⟨octet, mark, notDigits, meaning⟩ := exists_octet_of_mem_shortEscapes means
    rw [List.flatMap_cons, List.append_assoc, octets_short mark]
    refine .escaped ?_ inductionHypothesis
    simp only [readEscape, if_neg notDigits, meaning]
  | case4 a b c d pieces trailing =>
    rw [List.flatMap_cons, List.append_assoc, octets_code]
    apply ReadAs.refused
    rw [readEscape_code, if_pos trailing]
    rfl
  | case5 a b c d notTrailing leading a' b' c' d' pieces trailing inductionHypothesis =>
    rw [List.flatMap_cons, List.flatMap_cons, List.append_assoc, List.append_assoc, octets_code]
    refine .escaped ?_ inductionHypothesis
    rw [readEscape_code, if_neg notTrailing, if_pos leading, readTrailing_code, if_pos trailing]
  | case6 a b c d notTrailing leading a' b' c' d' pieces other =>
    rw [List.flatMap_cons, List.flatMap_cons, List.append_assoc, List.append_assoc, octets_code]
    apply ReadAs.refused
    rw [readEscape_code, if_neg notTrailing, if_pos leading, readTrailing_code, if_neg other]
    rfl
  | case7 a b c d pieces notTrailing leading noCode =>
    rw [List.flatMap_cons, List.append_assoc, octets_code]
    apply ReadAs.refused
    rw [readEscape_code, if_neg notTrailing, if_pos leading, readTrailing_of_no_code noCode]
    rfl
  | case8 a b c d pieces notTrailing notLeading inductionHypothesis =>
    rw [List.flatMap_cons, List.append_assoc, octets_code]
    refine .escaped ?_ inductionHypothesis
    rw [readEscape_code, if_neg notTrailing, if_neg notLeading]

theorem readText_eq_ok {pieces : List Piece} {text : String} {rest after : Bytes} :
    readText (pieces.flatMap Piece.octets ++ 0x22 :: rest) = .ok (text, after)
      ↔ text? pieces = some text ∧ after = rest := by
  have read := readAs_pieces pieces rest []
  rw [readText, text?]
  cases octets : readOctets [] (pieces.flatMap Piece.octets ++ 0x22 :: rest) with
  | error error =>
    rw [octets] at read
    rw [Option.map_eq_none_iff.mp read.symm]
    simp
  | ok content =>
    rw [octets] at read
    obtain ⟨chars, spelled, rfl⟩ := Option.map_eq_some_iff.mp read.symm
    have decoded : Utf8.decode (octetsOf chars) = .ok (String.ofList chars) := by
      rw [octetsOf, ← Utf8.encode_ofList, Utf8.decode_encode]
    simp [spelled, decoded, eq_comm]

/-- The pieces of a string do not matter for what it spells. -/
theorem spells_quoted {pieces : List Piece} {text : String} :
    Spells (quoted pieces) text ↔ text? pieces = some text := by
  constructor
  · rintro ⟨others, same, spelled⟩
    have tail : pieces.flatMap Piece.octets ++ [0x22] = others.flatMap Piece.octets ++ [0x22] := (List.cons.inj same).2
    have read : readText (others.flatMap Piece.octets ++ [0x22]) = .ok (text, []) :=
      readText_eq_ok.mpr ⟨spelled, rfl⟩
    rw [← tail] at read
    exact (readText_eq_ok.mp read).1
  · exact fun spelled => ⟨pieces, rfl, spelled⟩

end Gazette.Json
