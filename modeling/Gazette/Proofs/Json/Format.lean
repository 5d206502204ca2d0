import Gazette.Json.Format
import Gazette.Proofs.Json.Written
import Gazette.Proofs.Time.Reading
import Gazette.Proofs.Uuid.Text

/-!
# Formats that read what they write

* `Format.Gives`: from any text of what the format writes for a value, it reads another value and no further. It is
  `Format.Faithful` if that is always the same value.
* Texts, truth values, identifiers and optional values have faithful formats. Moments are given as they are shown.
* `Format.Gives.decode_of_written`: what is given is found in any such text.
-/

namespace Gazette.Json

variable {α β : Type}

/-! ## Around a value -/

def Ends (rest : Bytes) : Prop :=
  ∀ octet ∈ rest.head?, isDigitOctet octet = false ∧ octet ≠ 0x2E ∧ octet ≠ 0x45 ∧ octet ≠ 0x65

theorem ends_nil : Ends [] := nofun

theorem ends_cons {octet : UInt8} {rest : Bytes} (notDigit : isDigitOctet octet = false) (notPoint : octet ≠ 0x2E)
    (notCapital : octet ≠ 0x45) (notSmall : octet ≠ 0x65) : Ends (octet :: rest) := by
  intro other member
  cases member
  exact ⟨notDigit, notPoint, notCapital, notSmall⟩

theorem ends_append {blanks rest : Bytes} (allBlank : Blanks blanks) (ends : Ends rest) : Ends (blanks ++ rest) := by
  cases blanks with
  | nil => exact ends
  | cons octet blanks =>
    have blank := allBlank octet List.mem_cons_self
    simp only [isBlankOctet, Bool.or_eq_true, beq_iff_eq] at blank
    rcases blank with ((rfl | rfl) | rfl) | rfl <;> exact ends_cons (by decide) (by decide) (by decide) (by decide)

/-- The marks between parts and behind them do not go on a number. -/
theorem ends_mark {blanks : Bytes} {mark : UInt8} (rest : Bytes) (allBlank : Blanks blanks)
    (isMark : mark ∈ [0x2C, 0x5D, 0x7D]) : Ends (blanks ++ mark :: rest) := by
  apply ends_append allBlank
  simp only [List.mem_cons, List.not_mem_nil, or_false] at isMark
  rcases isMark with rfl | rfl | rfl <;> exact ends_cons (by decide) (by decide) (by decide) (by decide)

theorem exists_decimal_eq_cons (n : Nat) : ∃ digit < 10, ∃ digits, decimal n = digitChar digit :: digits := by
  induction n using Nat.strongRecOn with
  | ind n inductionHypothesis =>
    rw [decimal]
    by_cases small : n < 10
    · rw [Nat.toDigits_of_lt_base small, digitChar_eq small]
      exact ⟨n, small, [], rfl⟩
    · obtain ⟨digit, digitSmall, digits, first⟩ := inductionHypothesis (n / 10) (by omega)
      rw [Nat.toDigits_of_base_le (by omega) (Nat.not_lt.mp small), ← decimal, first]
      exact ⟨digit, digitSmall, _, rfl⟩

/-- The first octet of a value tells null from other values. -/
theorem Written.head {value : Json} {octets : Bytes} (written : Written value octets) :
    ∃ octet rest, octets = octet :: rest ∧ isBlankOctet octet = false ∧ (octet = 0x6E → value = .null) := by
  cases written with
  | null => exact ⟨_, _, rfl, by decide, fun _ => rfl⟩
  | flag value => cases value <;> exact ⟨_, _, rfl, by decide, fun same => absurd same (by decide)⟩
  | number n =>
    obtain ⟨digit, small, digits, first⟩ := exists_decimal_eq_cons n
    have ascii : (digitChar digit).toNat < 0x80 := by rw [toNat_digitChar small]; omega
    have octet : isBlankOctet (digitChar digit).toNat.toUInt8 = false ∧ (digitChar digit).toNat.toUInt8 ≠ 0x6E := by
      clear first ascii
      revert digit
      decide
    -- A digit is neither blank nor the first letter of null.
    rw [first, octetsOf_mark (Utf8.encodeChar_of_ascii ascii)]
    exact ⟨_, _, rfl, octet.1, fun same => absurd same octet.2⟩
  | text value => exact ⟨_, _, octets_quote value, by decide, fun same => absurd same (by decide)⟩
  | list => exact ⟨_, _, rfl, by decide, fun same => absurd same (by decide)⟩
  | object => exact ⟨_, _, rfl, by decide, fun same => absurd same (by decide)⟩

/-! ## Faithful formats -/

namespace Format

def Gives (format : Format α) (a b : α) : Prop :=
  ∀ ⦃blanks octets rest : Bytes⦄, Blanks blanks → Written (format.write a) octets → Ends rest →
    format.reader.run (blanks ++ (octets ++ rest)) = .ok (b, rest)

def Faithful (format : Format α) : Prop := ∀ a, format.Gives a a

end Format

namespace Reader

theorem run_text {expected value : String} {blanks rest : Bytes} (allBlank : Blanks blanks) :
    (text expected).run (blanks ++ (octetsOf (quote value) ++ rest)) = .ok (value, rest) := by
  have quoted : octetsOf (quote value) = _ := octets_quote value
  rw [quoted, List.cons_append]
  simp only [text, startingWith, skipBlankOctets_to 0x22 _ allBlank rfl]
  exact readText_quote quoted.symm rest

theorem run_refine {reader : Reader α} {compute : α → Except JsonError β} {octets rest : Bytes} {a : α} {b : β}
    (read : reader.run octets = .ok (a, rest)) (computed : compute a = .ok b) :
    (reader.refine compute).run octets = .ok (b, rest) := by
  simp only [refine, read, Fallible.ok_bind, computed]

theorem run_map {reader : Reader α} {f : α → β} {octets rest : Bytes} {a : α}
    (read : reader.run octets = .ok (a, rest)) : (reader.map f).run octets = .ok (f a, rest) :=
  run_refine read rfl

end Reader

namespace Format

theorem faithful_text : text.Faithful := by
  intro value blanks octets rest allBlank written ends
  cases written
  exact Reader.run_text allBlank

theorem gives_spelling {expected : String} {spell : α → String} {read : String → Except JsonError α} {a b : α}
    (spelt : read (spell a) = .ok b) : Gives ⟨fun a => .text (spell a), (Reader.text expected).refine read⟩ a b := by
  intro blanks octets rest allBlank written ends
  cases written
  exact Reader.run_refine (Reader.run_text allBlank) spelt

theorem faithful_uuid : uuid.Faithful := by
  intro id
  apply gives_spelling
  rw [Uuid.parse_toText]
  rfl

theorem gives_time (moment : Timestamp) : time.Gives moment moment.asShown := by
  apply gives_spelling
  rw [Timestamp.parseRelaxed_toRfc3339]
  rfl

theorem faithful_flag : flag.Faithful := by
  intro value blanks octets rest allBlank written ends
  cases written
  cases value with
  | false =>
    show Reader.run .flag (blanks ++ 0x66 :: 0x61 :: 0x6C :: 0x73 :: 0x65 :: rest) = _
    simp only [Reader.flag, Reader.startingWith, skipBlankOctets_to 0x66 _ allBlank rfl]
    rfl
  | true =>
    show Reader.run .flag (blanks ++ 0x74 :: 0x72 :: 0x75 :: 0x65 :: rest) = _
    simp only [Reader.flag, Reader.startingWith, skipBlankOctets_to 0x74 _ allBlank rfl]
    rfl

theorem expectNull_null (rest : Bytes) : expectNull (0x75 :: 0x6C :: 0x6C :: rest) = .ok rest := rfl

theorem Faithful.optional {format : Format α} (faithful : format.Faithful) (neverNull : ∀ a, format.write a ≠ .null) :
    (Format.optional format).Faithful := by
  intro value blanks octets rest allBlank written ends
  cases value with
  | none =>
    cases written
    show Reader.run (Reader.optional format.reader) (blanks ++ 0x6E :: 0x75 :: 0x6C :: 0x6C :: rest) = _
    simp only [Reader.optional, skipBlankOctets_to 0x6E _ allBlank rfl, if_true, expectNull_null, Fallible.ok_bind]
  | some a =>
    -- What is not null does not begin like it, so it is left to the reader of the format.
    obtain ⟨octet, tail, rfl, notBlank, null⟩ := Written.head written
    have notNull : octet ≠ 0x6E := fun same => neverNull a (null same)
    have read := faithful a blanks_nil written ends
    rw [List.nil_append, List.cons_append] at read
    show Reader.run (Reader.optional format.reader) (blanks ++ octet :: (tail ++ rest)) = _
    simp only [Reader.optional, skipBlankOctets_to octet _ allBlank notBlank, if_neg notNull, read, Fallible.ok_bind]

theorem Gives.via {format : Format α} {build : α → β} {parts : β → α} {a : α} {b c : β}
    (gives : format.Gives (parts b) a) (built : build a = c) : (format.via build parts).Gives b c := by
  intro blanks octets rest allBlank written ends
  exact built ▸ Reader.run_map (gives allBlank written ends)

/-- Any text of what the format writes for a value will do, blanks and all. It is read to its end. -/
theorem Gives.run_of_written {format : Format α} {a b : α} (gives : format.Gives a b) {octets : Bytes}
    (written : Written (format.write a) octets) : format.reader.run octets = .ok (b, []) := by
  have read := gives blanks_nil written ends_nil
  rw [List.nil_append, List.append_nil] at read
  exact read

theorem Gives.decode_of_written {format : Format α} {a b : α} (gives : format.Gives a b) {octets : Bytes}
    (written : Written (format.write a) octets) : format.decode octets = .ok b := by
  simp only [decode, Reader.decode, gives.run_of_written written, Fallible.ok_bind, skipBlankOctets,
    List.isEmpty_nil, if_true]

end Format

end Gazette.Json
