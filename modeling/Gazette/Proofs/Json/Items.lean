import Gazette.Proofs.Json.Grammar

/-!
# Lists that are read as they are written

`Format.gives_list`: the format of lists gives what that of the items gives for each of them.
-/

namespace Gazette.Json

variable {α : Type}

namespace Reader

/-! ## Looking for another item -/

theorem nextItem_nil {first : Bool} {blanks rest : Bytes} (allBlank : Blanks blanks) :
    nextItem first (blanks ++ [0x5D] ++ rest) = .ok (.closed rest) := by
  rw [List.append_assoc, List.singleton_append, nextItem, skipBlankOctets_to _ _ allBlank rfl]
  simp only [if_true]

theorem nextItem_first {blanks rest : Bytes} {octet : UInt8} (allBlank : Blanks blanks)
    (notBlank : isBlankOctet octet = false) (notCloser : octet ≠ 0x5D) :
    nextItem true (blanks ++ octet :: rest) = .ok (.part (octet :: rest)) := by
  rw [nextItem, skipBlankOctets_to octet rest allBlank notBlank]
  simp only [if_neg notCloser, if_true]

theorem nextItem_comma {before after rest : Bytes} {octet : UInt8} (blankBefore : Blanks before)
    (blankAfter : Blanks after) (notBlank : isBlankOctet octet = false) (notCloser : octet ≠ 0x5D) :
    nextItem false (before ++ 0x2C :: (after ++ octet :: rest)) = .ok (.part (octet :: rest)) := by
  rw [nextItem, skipBlankOctets_to _ _ blankBefore rfl]
  simp only [skipBlankOctets_to octet rest blankAfter notBlank, if_neg notCloser]
  rfl

/-! ## Reading the items -/

variable {item : Reader α} {first : Bool} {octets : Bytes}

theorem readItems_closed {rest : Bytes} (next : nextItem first octets = .ok (.closed rest)) :
    readItems item first octets = .ok ([], rest) := by
  rw [readItems]
  split
  · rename_i found
    cases next.symm.trans found
  · rename_i found
    cases next.symm.trans found
    rfl
  · rename_i found
    cases next.symm.trans found

/-- One more item, and then the items after it. -/
theorem readItems_part {start afterItem rest : Bytes} {a : α} {others : List α}
    (next : nextItem first octets = .ok (.part start)) (read : item.run start = .ok (a, afterItem))
    (more : readItems item false afterItem = .ok (others, rest)) :
    readItems item first octets = .ok (a :: others, rest) := by
  rw [readItems]
  split
  · rename_i found
    cases next.symm.trans found
  · rename_i found
    cases next.symm.trans found
  · rename_i found
    cases next.symm.trans found
    split
    · rename_i failed
      cases read.symm.trans failed
    · rename_i found
      cases read.symm.trans found
      simp only [more]

end Reader

/-! ## Lists -/

theorem ends_items {items : List Json} {octets : Bytes} (written : WrittenItems false items octets) (rest : Bytes) :
    Ends (octets ++ rest) := by
  obtain ⟨_, areItems⟩ := written.areItems
  exact areItems.ends rest

namespace Format

variable {format : Format α}

/-- The items that are left are read up to the closing bracket. -/
theorem readItems_given {shown : α → α} (gives : ∀ a, format.Gives a (shown a)) {items : List α} {first : Bool}
    {octets : Bytes} (written : WrittenItems first (items.map format.write) octets) (rest : Bytes) :
    Reader.readItems format.reader first (octets ++ rest) = .ok (items.map shown, rest) := by
  induction items generalizing first octets with
  | nil =>
    cases written with
    | nil allBlank => exact Reader.readItems_closed (Reader.nextItem_nil allBlank)
  | cons a items inductionHypothesis =>
    -- From its first octet on, an item is read in the same way whether it is the first one or comes behind a comma.
    have fromItem {first : Bool} {start octets others : Bytes} (value : Written (format.write a) octets)
        (written : WrittenItems false (items.map format.write) others)
        (found : Reader.nextItem first start = .ok (.part (octets ++ (others ++ rest)))) :
        Reader.readItems format.reader first start = .ok (shown a :: items.map shown, rest) := by
      have read := gives a blanks_nil value (ends_items written rest)
      rw [List.nil_append] at read
      exact Reader.readItems_part found read (inductionHypothesis written)
    cases written with
    | cons allBlank value others =>
      apply fromItem value others
      obtain ⟨octet, tail, rfl, notBlank, notCloser, _⟩ := value.isValue.exists_cons
      simp only [List.append_assoc, List.cons_append, Reader.nextItem_first allBlank notBlank notCloser]
    | comma blankComma parts =>
      cases parts with
      | cons allBlank value others =>
        apply fromItem value others
        obtain ⟨octet, tail, rfl, notBlank, notCloser, _⟩ := value.isValue.exists_cons
        simp only [List.append_assoc, List.cons_append,
          Reader.nextItem_comma blankComma allBlank notBlank notCloser]

theorem gives_list {shown : α → α} (gives : ∀ a, format.Gives a (shown a)) (items : List α) :
    (Format.list format).Gives items (items.map shown) := by
  intro blanks octets rest allBlank written ends
  cases written with
  | list parts =>
    rw [List.cons_append]
    show Reader.run (Reader.list format.reader) _ = _
    simp only [Reader.list, Reader.startingWith, skipBlankOctets_to 0x5B _ allBlank rfl, BEq.rfl, if_true,
      readItems_given gives parts rest]

end Format

end Gazette.Json
