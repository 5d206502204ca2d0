import Gazette.Proofs.Text.Order
import Gazette.Uuid.Parser

/-!
# The text of an identifier

* `Uuid.parse_toText`: the text of an identifier is read as that identifier, so that different identifiers have
  different texts.
* `Uuid.compare_encode_toText`: identifiers are in the order of their texts.
-/

namespace Gazette.Uuid

/-! ## Groups -/

theorem length_hyphenate {digits : List Char} (full : digits.length = 32) : (hyphenate digits).length = 36 := by
  simp only [hyphenate, List.length_append, List.length_cons, List.length_take, List.length_drop]
  omega

/-- The groups put together again. -/
theorem groups_append (digits : List Char) :
    digits.take 8 ++ ((digits.drop 8).take 4 ++ ((digits.drop 12).take 4 ++ ((digits.drop 16).take 4
      ++ digits.drop 20))) = digits := by
  have join (start : Nat) (count : Nat) :
      (digits.drop start).take count ++ digits.drop (start + count) = digits.drop start := by
    rw [← List.drop_drop, List.take_append_drop]
  rw [join 16 4, join 12 4, join 8 4, List.take_append_drop]

theorem filter_hyphenate {digits : List Char} (plain : ∀ c ∈ digits, c ≠ '-') :
    (hyphenate digits).filter (· ≠ '-') = digits := by
  have keep (part : List Char) (sub : ∀ c ∈ part, c ∈ digits) : part.filter (· ≠ '-') = part := by
    rw [List.filter_eq_self]
    intro c member
    simpa using plain c (sub c member)
  have mark (text : List Char) : ('-' :: text).filter (· ≠ '-') = text.filter (· ≠ '-') := by
    simp
  simp only [hyphenate, List.append_assoc, List.cons_append, List.filter_append, mark]
  -- No group loses a digit, and all marks go.
  rw [keep (digits.take 8) fun c member => List.mem_of_mem_take member,
    keep ((digits.drop 8).take 4) fun c member => List.mem_of_mem_drop (List.mem_of_mem_take member),
    keep ((digits.drop 12).take 4) fun c member => List.mem_of_mem_drop (List.mem_of_mem_take member),
    keep ((digits.drop 16).take 4) fun c member => List.mem_of_mem_drop (List.mem_of_mem_take member),
    keep (digits.drop 20) fun c member => List.mem_of_mem_drop member]
  exact groups_append digits

theorem ascii_hyphenate {digits : List Char} (ascii : Ascii digits) : Ascii (hyphenate digits) := by
  have mark : Char.toNat '-' < 0x80 := by decide
  have take {text : List Char} (count : Nat) (textAscii : Ascii text) : Ascii (text.take count) :=
    fun c member => textAscii c (List.mem_of_mem_take member)
  have drop (count : Nat) : Ascii (digits.drop count) := fun c member => ascii c (List.mem_of_mem_drop member)
  rw [hyphenate]
  exact ((((take 8 ascii).append ((take 4 (drop 8)).cons mark)).append ((take 4 (drop 12)).cons mark)).append
    ((take 4 (drop 16)).cons mark)).append ((drop 20).cons mark)

/-! ## Reading -/

theorem octetCount_of_ascii {text : List Char} (ascii : Ascii text) : octetCount text = text.length := by
  have size (c : Char) (member : c ∈ text) : c.utf8Size = 1 := by
    have small : c.val.toNat < 0x80 := ascii c member
    have low : c.val ≤ 0x7F := UInt32.le_iff_toNat_le.mpr (Nat.le_of_lt_succ small)
    simp [Char.utf8Size, low]
  have general (start : Nat) : text.foldl (fun n c => n + c.utf8Size) start = start + text.length := by
    clear ascii
    induction text generalizing start with
    | nil => rfl
    | cons c text inductionHypothesis =>
      rw [List.foldl_cons, size c List.mem_cons_self,
        inductionHypothesis fun other member => size other (List.mem_cons_of_mem c member), List.length_cons]
      omega
  simpa [octetCount] using general 0

theorem hexChar_ne_hyphen {digit : Nat} (small : digit < 16) : hexChar digit ≠ '-' := by
  revert digit
  decide

theorem ungroup?_hyphenate {digits : List Char} (plain : ∀ c ∈ digits, c ≠ '-') :
    ungroup? (hyphenate digits) = some digits := by
  simp only [ungroup?, filter_hyphenate plain, if_true]

theorem ofDigits?_fixedHex (id : Uuid) : ofDigits? (fixedHex 32 id.bits.toNat) = some id := by
  have bound : id.bits.toNat < 16 ^ 32 := id.bits.isLt
  simp only [ofDigits?, length_fixedHex, if_true, readDigits_fixedHex, Nat.zero_mul, Nat.zero_add,
    Nat.mod_eq_of_lt bound, Option.map_some, BitVec.ofNat_toNat, BitVec.setWidth_eq]

theorem parse_toText (id : Uuid) : parse id.toText = .ok id := by
  have ascii : Ascii (hyphenate (fixedHex 32 id.bits.toNat)) := ascii_hyphenate (ascii_fixedHex _ _)
  have octets : octetCount (hyphenate (fixedHex 32 id.bits.toNat)) = 36 := by
    rw [octetCount_of_ascii ascii, length_hyphenate (length_fixedHex _ _)]
  have plain (c : Char) (member : c ∈ fixedHex 32 id.bits.toNat) : c ≠ '-' := by
    obtain ⟨digit, small, rfl⟩ := digit_of_mem_fixedHex member
    exact hexChar_ne_hyphen small
  have part : groupedPart? (hyphenate (fixedHex 32 id.bits.toNat)) = some (hyphenate (fixedHex 32 id.bits.toNat)) := by
    simp only [groupedPart?, octets, groupedOctets, if_true]
  have read : ofGroups? (hyphenate (fixedHex 32 id.bits.toNat)) = some id := by
    rw [ofGroups?, ungroup?_hyphenate plain, Option.bind_some, ofDigits?_fixedHex]
  simp [parse, toText, octets, part, read]

theorem toText_injective {left right : Uuid} (same : left.toText = right.toText) : left = right := by
  have read := parse_toText left
  rw [same, parse_toText right] at read
  cases read
  rfl

@[simp] theorem toText_inj {left right : Uuid} : left.toText = right.toText ↔ left = right :=
  ⟨toText_injective, fun same => by rw [same]⟩

/-! ## Order -/

/-- Hyphens in the same places make no difference to the order. -/
theorem compares_hyphenate {left right : List Char} {order : Ordering} (digits : Compares left right order) :
    Compares (hyphenate left) (hyphenate right) order := by
  obtain ⟨first, _, group1, after8, rfl⟩ := digits.split 8
  obtain ⟨second, _, group2, after12, rfl⟩ := after8.split 4
  obtain ⟨third, _, group3, after16, rfl⟩ := after12.split 4
  obtain ⟨fourth, fifth, group4, group5, rfl⟩ := after16.split 4
  simp only [List.drop_drop] at group3 group4 group5
  have grouped := (((group1.append (group2.cons '-')).append (group3.cons '-')).append (group4.cons '-')).append
    (group5.cons '-')
  simp only [Ordering.then_assoc] at grouped
  exact grouped

theorem compare_encode_toText (left right : Uuid) :
    Ord.compare (Utf8.encode left.toText) (Utf8.encode right.toText) = left.compare right :=
  (compares_hyphenate (Compares.fixedHex left.bits.isLt right.bits.isLt)).encode
    (ascii_hyphenate (ascii_fixedHex 32 _)) (ascii_hyphenate (ascii_fixedHex 32 _))

end Gazette.Uuid
