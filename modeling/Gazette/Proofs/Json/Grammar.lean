import Gazette.Proofs.Json.Format

/-!
# The grammar of JSON

What octets are JSON, whoever wrote them. `Written` has the texts of the values that this program writes; here is all
that others may write as well.

* `Spells octets text`: the octets are a string in quotes, and its escapes make up a text.
* `IsNumeral`, `IsValue`: the octets are a number, or a value of any kind and depth.
* `IsObject members octets`: the octets are an object with these members in this order, and blanks around it.
* `Written.isValue`: what this program writes is JSON.
* `exists_isObject`: members of all keys and values, in any order, have an object.
-/

namespace Gazette.Json

/-! ## Strings -/

def shortEscapes : List (Char × Char) :=
  [('"', '"'), ('\\', '\\'), ('/', '/'), ('b', '\x08'), ('f', '\x0c'), ('n', '\n'), ('r', '\r'), ('t', '\t')]

def hexDigits : List (Char × Nat) := "0123456789abcdef".toList.zipIdx ++ "0123456789ABCDEF".toList.zipIdx

structure HexDigit where
  letter : Char
  value : Nat
  means : (letter, value) ∈ hexDigits

inductive Piece
  /-- A character that stands for itself. -/
  | plain (c : Char) (notQuote : c ≠ '"') (notBackslash : c ≠ '\\') (notControl : 0x20 ≤ c.toNat)
  | short (letter c : Char) (means : (letter, c) ∈ shortEscapes)
  /-- The letter u and four digits behind a backslash. -/
  | code (a b c d : HexDigit)

def codeOf (a b c d : HexDigit) : Nat := ((a.value * 16 + b.value) * 16 + c.value) * 16 + d.value

def Piece.octets : Piece → Bytes
  | .plain c _ _ _ => octetsOf [c]
  | .short letter _ _ => octetsOf ['\\', letter]
  | .code a b c d => octetsOf ['\\', 'u', a.letter, b.letter, c.letter, d.letter]

def quoted (pieces : List Piece) : Bytes := 0x22 :: (pieces.flatMap Piece.octets ++ [0x22])

/-- The characters that pieces stand for. Surrogates stand for something in pairs only. -/
def spelled? : List Piece → Option (List Char)
  | [] => some []
  | .plain c _ _ _ :: pieces => (spelled? pieces).map (c :: ·)
  | .short _ c _ :: pieces => (spelled? pieces).map (c :: ·)
  | .code a b c d :: pieces =>
    if isTrailingSurrogate (codeOf a b c d) then none
    else if isLeadingSurrogate (codeOf a b c d) then
      match pieces with
      | .code a' b' c' d' :: pieces =>
        if isTrailingSurrogate (codeOf a' b' c' d') then
          (spelled? pieces).map (pairedChar (codeOf a b c d) (codeOf a' b' c' d') :: ·)
        else none
      | _ => none
    else (spelled? pieces).map (Char.ofNat (codeOf a b c d) :: ·)

def text? (pieces : List Piece) : Option String := (spelled? pieces).map String.ofList

def Spells (octets : Bytes) (text : String) : Prop := ∃ pieces, octets = quoted pieces ∧ text? pieces = some text

/-! ## Numbers -/

def AllDigits (octets : Bytes) : Prop := ∀ octet ∈ octets, isDigitOctet octet = true

inductive IsWhole : Bytes → Prop
  | zero : IsWhole [0x30]
  | digits {first : UInt8} {others : Bytes} (digit : isDigitOctet first = true) (notZero : first ≠ 0x30)
    (more : AllDigits others) : IsWhole (first :: others)

inductive IsFraction : Bytes → Prop
  | none : IsFraction []
  | point {digits : Bytes} (some : digits ≠ []) (all : AllDigits digits) : IsFraction (0x2E :: digits)

inductive IsPower : Bytes → Prop
  | none : IsPower []
  | power {letter : UInt8} {sign digits : Bytes} (isLetter : letter ∈ [0x65, 0x45])
    (isSign : sign ∈ [[], [0x2B], [0x2D]]) (some : digits ≠ []) (all : AllDigits digits) :
    IsPower (letter :: (sign ++ digits))

inductive IsNumeral : Bytes → Prop
  | parts {sign whole fraction power : Bytes} (isSign : sign ∈ [[], [0x2D]]) (isWhole : IsWhole whole)
    (isFraction : IsFraction fraction) (isPower : IsPower power) : IsNumeral (sign ++ (whole ++ (fraction ++ power)))

/-! ## Values -/

mutual

inductive IsValue : Bytes → Prop
  | null : IsValue (octetsOf nullText)
  | flag (value : Bool) : IsValue (octetsOf (flagText value))
  | number {octets : Bytes} (numeral : IsNumeral octets) : IsValue octets
  | text (pieces : List Piece) : IsValue (quoted pieces)
  | list {items : List Bytes} {octets : Bytes} (parts : AreItems true items octets) : IsValue (0x5B :: octets)
  | object {members : List (Option String × Bytes)} {octets : Bytes} (parts : AreMembers true members octets) :
    IsValue (0x7B :: octets)

/-- The items of a list and its closing bracket. There is a comma before each of them but the first. -/
inductive AreItems : Bool → List Bytes → Bytes → Prop
  | nil {first : Bool} {blanks : Bytes} (allBlank : Blanks blanks) : AreItems first [] (blanks ++ [0x5D])
  | cons {items : List Bytes} {blanks octets others : Bytes} (allBlank : Blanks blanks) (value : IsValue octets)
    (more : AreItems false items others) : AreItems true (octets :: items) (blanks ++ (octets ++ others))
  | comma {item : Bytes} {items : List Bytes} {blanks octets : Bytes} (allBlank : Blanks blanks)
    (parts : AreItems true (item :: items) octets) : AreItems false (item :: items) (blanks ++ 0x2C :: octets)

inductive AreMembers : Bool → List (Option String × Bytes) → Bytes → Prop
  | nil {first : Bool} {blanks : Bytes} (allBlank : Blanks blanks) : AreMembers first [] (blanks ++ [0x7D])
  | cons (key : List Piece) {members : List (Option String × Bytes)} {blanks beforeColon afterColon : Bytes}
    {octets others : Bytes} (allBlank : Blanks blanks) (blankBefore : Blanks beforeColon)
    (blankAfter : Blanks afterColon) (value : IsValue octets) (more : AreMembers false members others) :
    AreMembers true ((text? key, octets) :: members)
      (blanks ++ (quoted key ++ (beforeColon ++ 0x3A :: (afterColon ++ (octets ++ others)))))
  | comma {member : Option String × Bytes} {members : List (Option String × Bytes)} {blanks octets : Bytes}
    (allBlank : Blanks blanks) (parts : AreMembers true (member :: members) octets) :
    AreMembers false (member :: members) (blanks ++ 0x2C :: octets)

end

def keyed (members : List (String × Bytes)) : List (Option String × Bytes) :=
  members.map fun member => (some member.1, member.2)

/-- Octets that hold one object and blanks around it. -/
inductive IsObject (members : List (String × Bytes)) : Bytes → Prop
  | braces {before parts after : Bytes} (blankBefore : Blanks before)
    (areMembers : AreMembers true (keyed members) parts)
    (blankAfter : Blanks after) : IsObject members (before ++ 0x7B :: (parts ++ after))

/-! ## First octets -/

theorem ne_of_isDigitOctet {octet other : UInt8} (digit : isDigitOctet octet = true)
    (noDigit : isDigitOctet other = false) : octet ≠ other := by
  rintro rfl
  cases noDigit.symm.trans digit

theorem isBlankOctet_of_isDigitOctet {octet : UInt8} (digit : isDigitOctet octet = true) :
    isBlankOctet octet = false := by
  have other {blank : UInt8} (noDigit : isDigitOctet blank = false) : octet ≠ blank := ne_of_isDigitOctet digit noDigit
  simp only [isBlankOctet, Bool.or_eq_false_iff, beq_eq_false_iff_ne]
  exact ⟨⟨⟨other rfl, other rfl⟩, other rfl⟩, other rfl⟩

theorem IsWhole.exists_cons {whole : Bytes} (isWhole : IsWhole whole) :
    ∃ first others, whole = first :: others ∧ isDigitOctet first = true := by
  cases isWhole with
  | zero => exact ⟨_, _, rfl, by decide⟩
  | digits digit notZero more => exact ⟨_, _, rfl, digit⟩

theorem IsNumeral.exists_cons {octets : Bytes} (isNumeral : IsNumeral octets) :
    ∃ first others, octets = first :: others ∧ (first = 0x2D ∨ isDigitOctet first = true) := by
  cases isNumeral with
  | parts isSign isWhole isFraction isPower =>
    obtain ⟨first, others, rfl, digit⟩ := isWhole.exists_cons
    simp only [List.mem_cons, List.not_mem_nil, or_false] at isSign
    rcases isSign with rfl | rfl
    · exact ⟨first, _, rfl, .inr digit⟩
    · exact ⟨0x2D, _, rfl, .inl rfl⟩

/-- The first octet of a value tells strings and null from other values. -/
theorem IsValue.exists_cons {octets : Bytes} (isValue : IsValue octets) :
    ∃ first others, octets = first :: others ∧ isBlankOctet first = false ∧ first ≠ 0x5D ∧
      (first = 0x6E → octets = octetsOf nullText) ∧ (first = 0x22 → ∃ pieces, octets = quoted pieces) := by
  cases isValue with
  | null => exact ⟨_, _, rfl, by decide, by decide, fun _ => rfl, fun same => absurd same (by decide)⟩
  | flag value =>
    cases value <;>
      exact ⟨_, _, rfl, by decide, by decide, fun same => absurd same (by decide), fun same => absurd same (by decide)⟩
  | number isNumeral =>
    obtain ⟨first, others, rfl, start⟩ := isNumeral.exists_cons
    rcases start with rfl | digit
    · exact ⟨_, _, rfl, by decide, by decide, fun same => absurd same (by decide), fun same => absurd same (by decide)⟩
    · have other {mark : UInt8} (noDigit : isDigitOctet mark = false) : first ≠ mark := ne_of_isDigitOctet digit noDigit
      exact ⟨first, others, rfl, isBlankOctet_of_isDigitOctet digit, other (by decide),
        fun same => absurd same (other (by decide)), fun same => absurd same (other (by decide))⟩
  | text pieces =>
    exact ⟨_, _, rfl, by decide, by decide, fun same => absurd same (by decide), fun _ => ⟨pieces, rfl⟩⟩
  | list =>
    exact ⟨_, _, rfl, by decide, by decide, fun same => absurd same (by decide), fun same => absurd same (by decide)⟩
  | object =>
    exact ⟨_, _, rfl, by decide, by decide, fun same => absurd same (by decide), fun same => absurd same (by decide)⟩

/-! ## What comes after a part -/

theorem AreItems.ends {items : List Bytes} {octets : Bytes} (areItems : AreItems false items octets) (rest : Bytes) :
    Ends (octets ++ rest) := by
  cases areItems with
  | nil allBlank =>
    rw [List.append_assoc]
    exact ends_mark rest allBlank (by decide)
  | comma allBlank parts =>
    rw [List.append_assoc]
    exact ends_mark _ allBlank (by decide)

theorem AreMembers.ends {members : List (Option String × Bytes)} {octets : Bytes}
    (areMembers : AreMembers false members octets) (rest : Bytes) : Ends (octets ++ rest) := by
  cases areMembers with
  | nil allBlank =>
    rw [List.append_assoc]
    exact ends_mark rest allBlank (by decide)
  | comma allBlank parts =>
    rw [List.append_assoc]
    exact ends_mark _ allBlank (by decide)

/-! ## What this program writes -/

theorem mem_hexDigits {value : Nat} (small : value < 16) : (hexChar value, value) ∈ hexDigits := by
  revert value
  decide

def HexDigit.of (n : Nat) : HexDigit := ⟨hexChar (n % 16), n % 16, mem_hexDigits (Nat.mod_lt n (by decide))⟩

/-- A character and its escape are the same piece of a string. -/
theorem exists_piece_escape (c : Char) :
    ∃ piece : Piece, piece.octets = octetsOf (escape c) ∧
      ∀ others, spelled? (piece :: others) = (spelled? others).map (c :: ·) := by
  have short {d letter : Char} (code : c.toNat = d.toNat) (means : (letter, d) ∈ shortEscapes) :
      ∃ piece : Piece, piece.octets = octetsOf ['\\', letter] ∧
        ∀ others, spelled? (piece :: others) = (spelled? others).map (c :: ·) := by
    obtain rfl : c = d := Char.toNat_inj.mp code
    exact ⟨.short letter c means, rfl, fun _ => rfl⟩
  rw [escape]
  -- The cases are those of the printer.
  split
  · exact short (d := '"') (by simp [*]) (by decide)
  split
  · exact short (d := '\\') (by simp [*]) (by decide)
  split
  · exact ⟨.plain c ‹_› ‹_› ‹_›, rfl, fun _ => rfl⟩
  split
  · exact short (d := '\x08') ‹_› (by decide)
  split
  · exact short (d := '\t') ‹_› (by decide)
  split
  · exact short (d := '\n') ‹_› (by decide)
  split
  · exact short (d := '\x0c') ‹_› (by decide)
  split
  · exact short (d := '\r') ‹_› (by decide)
  · -- The other controls are written in digits, and are far below the surrogates.
    have code : codeOf (.of (c.toNat / 16 / 16 / 16)) (.of (c.toNat / 16 / 16)) (.of (c.toNat / 16)) (.of c.toNat)
        = c.toNat := by
      simp only [codeOf, HexDigit.of]
      omega
    obtain ⟨noTrailing, noLeading⟩ := noSurrogate_of_control (by omega : c.toNat < 0x20)
    refine ⟨.code (.of (c.toNat / 16 / 16 / 16)) (.of (c.toNat / 16 / 16)) (.of (c.toNat / 16)) (.of c.toNat), ?_, ?_⟩
    · simp only [Piece.octets, HexDigit.of, fixedHex, List.nil_append, List.cons_append]
    · intro others
      rw [spelled?.eq_def]
      simp only [code, noTrailing, noLeading, Char.ofNat_toNat, Bool.false_eq_true, if_false]

theorem spells_quote (text : String) : Spells (octetsOf (quote text)) text := by
  have pieces (chars : List Char) : ∃ pieces : List Piece,
      pieces.flatMap Piece.octets = octetsOf (chars.flatMap escape) ∧ spelled? pieces = some chars := by
    induction chars with
    | nil => exact ⟨[], rfl, rfl⟩
    | cons c chars inductionHypothesis =>
      obtain ⟨others, octets, spelled⟩ := inductionHypothesis
      obtain ⟨piece, same, spells⟩ := exists_piece_escape c
      refine ⟨piece :: others, ?_, by rw [spells, spelled]; rfl⟩
      rw [List.flatMap_cons, List.flatMap_cons, octetsOf_append, same, octets]
  obtain ⟨pieces, octets, spelled⟩ := pieces text.toList
  refine ⟨pieces, ?_, by rw [text?, spelled, Option.map_some, String.ofList_toList]⟩
  rw [quoted, octets]
  exact octets_quote text

theorem isDigitOctet_digitChar {digit : Nat} (small : digit < 10) :
    ∃ octet, octetsOf [digitChar digit] = [octet] ∧ isDigitOctet octet = true ∧ octet.toNat - 0x30 = digit := by
  have ascii : (digitChar digit).toNat < 0x80 := by rw [toNat_digitChar small]; omega
  refine ⟨(digitChar digit).toNat.toUInt8, octetsOf_mark (Utf8.encodeChar_of_ascii ascii), ?_⟩
  clear ascii
  revert digit
  decide

/-- Only zero is written with a zero in front. -/
theorem isWhole_decimal (n : Nat) : IsWhole (octetsOf (decimal n)) := by
  by_cases zero : n = 0
  · subst zero
    exact .zero
  · have positive : ∃ first others, octetsOf (decimal n) = first :: others ∧ isDigitOctet first = true ∧
        first ≠ 0x30 ∧ AllDigits others := by
      -- By the last digit: what stands before it is the quotient, which is not zero either.
      induction n using Nat.strongRecOn with
      | ind n inductionHypothesis =>
        rw [decimal]
        by_cases small : n < 10
        · obtain ⟨octet, octets, digit, value⟩ := isDigitOctet_digitChar small
          have notZero : octet ≠ 0x30 := by
            rintro rfl
            exact zero value.symm
          rw [Nat.toDigits_of_lt_base small, digitChar_eq small, octets]
          exact ⟨octet, [], rfl, digit, notZero, fun _ member => absurd member List.not_mem_nil⟩
        · obtain ⟨first, others, before, digit, notZero, digits⟩ := inductionHypothesis (n / 10) (by omega) (by omega)
          obtain ⟨octet, octets, last, _⟩ := isDigitOctet_digitChar (Nat.mod_lt n (by decide : 0 < 10))
          rw [Nat.toDigits_of_base_le (by omega) (Nat.not_lt.mp small), ← decimal, octetsOf_append, before,
            digitChar_eq (Nat.mod_lt n (by decide)), octets]
          refine ⟨first, others ++ [octet], rfl, digit, notZero, ?_⟩
          intro other member
          rcases List.mem_append.mp member with earlier | same
          · exact digits other earlier
          · rw [List.mem_singleton.mp same]
            exact last
    obtain ⟨first, others, octets, digit, notZero, digits⟩ := positive
    rw [octets]
    exact .digits digit notZero digits

theorem isNumeral_decimal (n : Nat) : IsNumeral (octetsOf (decimal n)) := by
  have numeral : IsNumeral ([] ++ (octetsOf (decimal n) ++ ([] ++ []))) :=
    .parts (by decide) (isWhole_decimal n) .none .none
  rw [List.append_nil, List.append_nil, List.nil_append] at numeral
  exact numeral

mutual

theorem Written.isValue : {value : Json} → {octets : Bytes} → Written value octets → IsValue octets
  | _, _, .null => .null
  | _, _, .flag value => .flag value
  | _, _, .number n => .number (isNumeral_decimal n)
  | _, _, .text value => by
    obtain ⟨pieces, octets, _⟩ := spells_quote value
    rw [octets]
    exact .text pieces
  | _, _, .list parts => by
    obtain ⟨_, areItems⟩ := parts.areItems
    exact .list areItems
  | _, _, .object parts => by
    obtain ⟨_, areMembers⟩ := parts.areMembers
    exact .object areMembers

theorem WrittenItems.areItems : {first : Bool} → {items : List Json} → {octets : Bytes} →
    WrittenItems first items octets → ∃ parts, AreItems first parts octets
  | _, _, _, .nil allBlank => ⟨[], .nil allBlank⟩
  | _, _, _, .cons allBlank value more => by
    obtain ⟨_, others⟩ := more.areItems
    exact ⟨_, .cons allBlank value.isValue others⟩
  | _, _, _, .comma blankComma (.cons allBlank value more) => by
    obtain ⟨_, others⟩ := more.areItems
    exact ⟨_, .comma blankComma (.cons allBlank value.isValue others)⟩

theorem WrittenMembers.areMembers : {first : Bool} → {members : List (String × Json)} → {octets : Bytes} →
    WrittenMembers first members octets → ∃ parts, AreMembers first parts octets
  | _, _, _, .nil allBlank => ⟨[], .nil allBlank⟩
  | _, _, _, .cons key allBlank blankBefore blankAfter value more => by
    obtain ⟨pieces, quoted, _⟩ := spells_quote key
    obtain ⟨_, others⟩ := more.areMembers
    rw [quoted]
    exact ⟨_, .cons pieces allBlank blankBefore blankAfter value.isValue others⟩
  | _, _, _, .comma blankComma (.cons key allBlank blankBefore blankAfter value more) => by
    obtain ⟨pieces, quoted, _⟩ := spells_quote key
    obtain ⟨_, others⟩ := more.areMembers
    rw [quoted]
    exact ⟨_, .comma blankComma (.cons pieces allBlank blankBefore blankAfter value.isValue others)⟩

end

/-! ## Objects of any members -/

theorem AreMembers.behindComma {members : List (Option String × Bytes)} {octets : Bytes}
    (areMembers : AreMembers true members octets) : ∃ octets, AreMembers false members octets := by
  cases members with
  | nil => exact ⟨_, .nil blanks_nil⟩
  | cons member members => exact ⟨_, .comma blanks_nil areMembers⟩

theorem exists_isObject {members : List (String × Bytes)} (values : ∀ member ∈ members, IsValue member.2) :
    ∃ octets, IsObject members octets := by
  have parts : ∃ octets, AreMembers true (keyed members) octets := by
    induction members with
    | nil => exact ⟨_, .nil blanks_nil⟩
    | cons member members inductionHypothesis =>
      obtain ⟨key, value⟩ := member
      obtain ⟨isValue, others⟩ := List.forall_mem_cons.mp values
      obtain ⟨_, areMembers⟩ := inductionHypothesis others
      obtain ⟨_, more⟩ := areMembers.behindComma
      obtain ⟨pieces, _, text⟩ := spells_quote key
      rw [keyed, List.map_cons, ← text]
      exact ⟨_, .cons pieces blanks_nil blanks_nil blanks_nil isValue more⟩
  obtain ⟨_, areMembers⟩ := parts
  exact ⟨_, .braces blanks_nil areMembers blanks_nil⟩

end Gazette.Json
