import Gazette.Json.Skip
import Gazette.Proofs.Json.Number
import Gazette.Proofs.Json.Spelling

/-!
# Passing over values of any kind and depth

* `skipFrames_value`: passing over a value inside of open frames goes on behind it as if it had not been there.
* `skipValue_value`: so passing over a value ends behind it.
-/

namespace Gazette.Json

/-! ## Frames -/

def resume : List Frame × Bytes → Except JsonError Bytes
  | ([], rest) => .ok rest
  | (frame :: frames, rest) => skipFrames (frame :: frames) rest

theorem skipFrames_eq (frames : List Frame) (octets : Bytes) :
    skipFrames frames octets = skipStep frames octets >>= resume := by
  rw [skipFrames]
  split
  · rename_i step
    simp only [step, Fallible.ok_bind, resume]
  · rename_i step
    simp only [step, Fallible.ok_bind, resume]
  · rename_i step
    simp only [step, Fallible.error_bind]

def skipOut (frames : List Frame) (octets : Bytes) : Except JsonError Bytes := skipAfterValue frames octets >>= resume

/-- A frame behind its opening bracket, or behind one of its parts. -/
def skipParts (first : Bool) (frame : Frame) (frames : List Frame) (octets : Bytes) : Except JsonError Bytes :=
  if first then skipAfterOpening frame frames octets >>= resume else skipOut (frame :: frames) octets

theorem skipParts_closer (first : Bool) (frame : Frame) (frames : List Frame) {blanks : Bytes} (rest : Bytes)
    (allBlank : Blanks blanks) :
    skipParts first frame frames (blanks ++ frame.closer :: rest) = skipOut frames rest := by
  have notBlank : isBlankOctet frame.closer = false := by cases frame <;> rfl
  have notComma : frame.closer ≠ 0x2C := by cases frame <;> decide
  cases first with
  | false =>
    rw [skipParts, if_neg Bool.false_ne_true, skipOut, skipAfterValue, skipBlankOctets_to _ _ allBlank notBlank]
    simp only [if_neg notComma, if_true, skipOut]
  | true =>
    rw [skipParts, if_pos rfl, skipAfterOpening, skipBlankOctets_to _ _ allBlank notBlank]
    simp only [if_true, skipOut]

theorem skipParts_comma {frame : Frame} {frames : List Frame} {blanks rest value : Bytes} (allBlank : Blanks blanks)
    (toValue : frame.skipToValue rest = .ok value) :
    skipParts false frame frames (blanks ++ 0x2C :: rest) = skipFrames (frame :: frames) value := by
  rw [skipParts, if_neg Bool.false_ne_true, skipOut, skipAfterValue, skipBlankOctets_to _ _ allBlank rfl]
  simp only [if_true, toValue, Fallible.ok_bind, resume]

theorem skipParts_first {frame : Frame} {frames : List Frame} {blanks rest value : Bytes} {octet : UInt8}
    (allBlank : Blanks blanks) (notBlank : isBlankOctet octet = false) (notCloser : octet ≠ frame.closer)
    (toValue : frame.skipToValue (octet :: rest) = .ok value) :
    skipParts true frame frames (blanks ++ octet :: rest) = skipFrames (frame :: frames) value := by
  rw [skipParts, if_pos rfl, skipAfterOpening, skipBlankOctets_to _ _ allBlank notBlank]
  simp only [if_neg notCloser, toValue, Fallible.ok_bind, resume]

/-! ## Where a value starts -/

theorem skipFrames_blanks (frames : List Frame) {blanks : Bytes} (octets : Bytes) (allBlank : Blanks blanks) :
    skipFrames frames (blanks ++ octets) = skipFrames frames octets := by
  rw [skipFrames_eq, skipFrames_eq, skipStep, skipStep, skipBlankOctets_append allBlank]

def Frame.opener : Frame → UInt8
  | .list => 0x5B
  | .object => 0x7B

theorem skipFrames_opener (frame : Frame) (frames : List Frame) (rest : Bytes) :
    skipFrames frames (frame.opener :: rest) = skipParts true frame frames rest := by
  have notBlank : isBlankOctet frame.opener = false := by cases frame <;> rfl
  rw [skipFrames_eq, skipStep, skipBlankOctets_cons notBlank]
  cases frame <;> rfl

theorem skipFrames_scalar (frames : List Frame) {octet : UInt8} {tail rest : Bytes}
    (notBlank : isBlankOctet octet = false) (noList : octet ≠ 0x5B) (noObject : octet ≠ 0x7B)
    (skipped : skipScalar octet tail = .ok rest) : skipFrames frames (octet :: tail) = skipOut frames rest := by
  rw [skipFrames_eq, skipStep, skipBlankOctets_cons notBlank]
  simp only [if_neg noList, if_neg noObject, skipped, Fallible.ok_bind, skipOut]

theorem skipFrames_numeral (frames : List Frame) {octets rest : Bytes} (isNumeral : IsNumeral octets)
    (ends : Ends rest) : skipFrames frames (octets ++ rest) = skipOut frames rest := by
  have skipped := skipNumber_numeral isNumeral ends
  obtain ⟨first, others, rfl, start⟩ := isNumeral.exists_cons
  have starts : (decide (first = 0x2D) || isDigitOctet first) = true := by simpa using start
  have notBlank : isBlankOctet first = false := by
    rcases start with rfl | digit
    · decide
    · exact isBlankOctet_of_isDigitOctet digit
  have other {mark : UInt8} (noDigit : isDigitOctet mark = false) (noMinus : mark ≠ 0x2D) : first ≠ mark := by
    rcases start with rfl | digit
    · exact noMinus.symm
    · exact ne_of_isDigitOctet digit noDigit
  refine skipFrames_scalar frames notBlank (other (by decide) (by decide)) (other (by decide) (by decide)) ?_
  rw [skipScalar, if_neg (other (by decide) (by decide)), if_neg (other (by decide) (by decide)),
    if_neg (other (by decide) (by decide)), if_neg (other (by decide) (by decide)), if_pos starts]
  exact skipped

/-! ## Parts of values -/

theorem skipParts_item {octets : Bytes} (isValue : IsValue octets) (frames : List Frame) {blanks : Bytes}
    (rest : Bytes) (allBlank : Blanks blanks) :
    skipParts true .list frames (blanks ++ (octets ++ rest)) = skipFrames (.list :: frames) (octets ++ rest) := by
  obtain ⟨first, others, rfl, notBlank, notCloser, _⟩ := isValue.exists_cons
  exact skipParts_first allBlank notBlank notCloser rfl

theorem skipToValue_key {blanks beforeColon : Bytes} (key : List Piece) (rest : Bytes) (allBlank : Blanks blanks)
    (blankBefore : Blanks beforeColon) :
    Frame.object.skipToValue (blanks ++ (quoted key ++ (beforeColon ++ 0x3A :: rest))) = .ok rest := by
  rw [Frame.skipToValue, skipKey, quoted, List.cons_append, skipBlankOctets_to _ _ allBlank rfl]
  simp only [if_true, List.append_assoc, List.cons_append, List.nil_append, skipText_pieces, Fallible.ok_bind]
  rw [expectColon, skipBlankOctets_to _ _ blankBefore rfl]
  simp only [if_true]

theorem skipParts_member (key : List Piece) (frames : List Frame) {blanks beforeColon afterColon : Bytes}
    (rest : Bytes) (allBlank : Blanks blanks) (blankBefore : Blanks beforeColon) (blankAfter : Blanks afterColon) :
    skipParts true .object frames (blanks ++ (quoted key ++ (beforeColon ++ 0x3A :: (afterColon ++ rest))))
      = skipFrames (.object :: frames) rest := by
  have toValue := skipToValue_key key (afterColon ++ rest) blanks_nil blankBefore
  rw [quoted, List.nil_append, List.cons_append] at toValue
  rw [quoted, List.cons_append, skipParts_first allBlank rfl (by decide) toValue]
  exact skipFrames_blanks _ rest blankAfter

/-! ## Values -/

-- By induction on how the octets are made up. Inside of a list or an object its own frame lies on top of those around
-- it, and is gone again behind the closing bracket.

mutual

/-- A value inside of frames is passed over as if it had not been there. -/
theorem skipFrames_value : {octets : Bytes} → IsValue octets → ∀ (frames : List Frame) {rest : Bytes}, Ends rest →
    skipFrames frames (octets ++ rest) = skipOut frames rest
  | _, .null, frames, rest, _ => skipFrames_scalar frames (by decide) (by decide) (by decide) rfl
  | _, .flag value, frames, rest, _ => by
    cases value
    · exact skipFrames_scalar frames (by decide) (by decide) (by decide) rfl
    · exact skipFrames_scalar frames (by decide) (by decide) (by decide) rfl
  | _, .number isNumeral, frames, rest, ends => skipFrames_numeral frames isNumeral ends
  | _, .text pieces, frames, rest, _ => by
    refine skipFrames_scalar frames (by decide) (by decide) (by decide) ?_
    rw [List.append_eq, List.append_assoc, List.singleton_append]
    exact skipText_pieces pieces rest
  | _, .list parts, frames, rest, _ => (skipFrames_opener .list frames _).trans (skipParts_items parts frames rest)
  | _, .object parts, frames, rest, _ => (skipFrames_opener .object frames _).trans (skipParts_members parts frames rest)

theorem skipParts_items : {first : Bool} → {items : List Bytes} → {octets : Bytes} → AreItems first items octets →
    ∀ (frames : List Frame) (rest : Bytes), skipParts first .list frames (octets ++ rest) = skipOut frames rest
  | first, _, _, .nil allBlank, frames, rest => by
    rw [List.append_assoc, List.singleton_append]
    exact skipParts_closer first .list frames rest allBlank
  | _, _, _, .cons allBlank value more, frames, rest => by
    rw [List.append_assoc, List.append_assoc, skipParts_item value frames _ allBlank,
      skipFrames_value value _ (more.ends rest)]
    exact skipParts_items more frames rest
  | _, _, _, .comma blankComma (.cons allBlank value more), frames, rest => by
    simp only [List.append_assoc, List.cons_append]
    rw [skipParts_comma blankComma rfl, skipFrames_blanks _ _ allBlank, skipFrames_value value _ (more.ends rest)]
    exact skipParts_items more frames rest

theorem skipParts_members : {first : Bool} → {members : List (Option String × Bytes)} → {octets : Bytes} →
    AreMembers first members octets → ∀ (frames : List Frame) (rest : Bytes),
    skipParts first .object frames (octets ++ rest) = skipOut frames rest
  | first, _, _, .nil allBlank, frames, rest => by
    rw [List.append_assoc, List.singleton_append]
    exact skipParts_closer first .object frames rest allBlank
  | _, _, _, .cons key allBlank blankBefore blankAfter value more, frames, rest => by
    simp only [List.append_assoc, List.cons_append]
    rw [skipParts_member key frames _ allBlank blankBefore blankAfter, skipFrames_value value _ (more.ends rest)]
    exact skipParts_members more frames rest
  | _, _, _, .comma blankComma (.cons key allBlank blankBefore blankAfter value more), frames, rest => by
    simp only [List.append_assoc, List.cons_append]
    rw [skipParts_comma blankComma (skipToValue_key key _ allBlank blankBefore), skipFrames_blanks _ _ blankAfter,
      skipFrames_value value _ (more.ends rest)]
    exact skipParts_members more frames rest

end

theorem skipValue_value {blanks octets rest : Bytes} (isValue : IsValue octets) (allBlank : Blanks blanks)
    (ends : Ends rest) : skipValue (blanks ++ (octets ++ rest)) = .ok rest := by
  rw [skipValue, skipFrames_blanks _ _ allBlank, skipFrames_value isValue [] ends]
  rfl

end Gazette.Json
