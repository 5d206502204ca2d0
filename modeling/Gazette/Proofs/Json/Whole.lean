import Gazette.Proofs.Json.Record
import Gazette.Proofs.Json.Steady

/-!
# Whole values and damaged ones

* `Reader.Steady`: what is read from octets is read from them as well when more octets come behind.
* `Format.steady_record`: records are read steadily if their fields are, objects and lists alike.
* `Reader.Steady.refused_of_cut`: of a value that fills octets to the end, no beginning is read as any value.
* `Reader.Steady.decode_blanks`, `Reader.Steady.decode_trailed`: behind it nothing may come but blanks.
-/

namespace Gazette.Json

open Fallible (bind_eq_ok)

variable {α β : Type}

/-! ## Steady readers -/

namespace Reader

structure Steady (reader : Reader α) : Prop where
  run_append : ∀ {octets rest : Bytes} {a : α}, reader.run octets = .ok (a, rest) →
    ∀ more, reader.run (octets ++ more) = .ok (a, rest ++ more)

variable {reader : Reader α}

theorem steady_startingWith {expected : String} {accepts : UInt8 → Bool}
    {read : UInt8 → Bytes → Except JsonError (α × Bytes)}
    (shortens : ∀ {octet : UInt8} {tail rest : Bytes} {a : α},
      read octet tail = .ok (a, rest) → rest.length ≤ tail.length)
    (steady : ∀ {octet : UInt8} {tail rest : Bytes} {a : α}, read octet tail = .ok (a, rest) →
      ∀ more, read octet (tail ++ more) = .ok (a, rest ++ more)) :
    (startingWith expected accepts read shortens).Steady where
  run_append := by
    intro octets rest a found more
    simp only [startingWith] at found ⊢
    split at found
    · cases found
    · rename_i blanks
      simp only [steady_skipBlankOctets blanks more]
      split at found
      · rw [if_pos ‹_›, steady found more]
      · cases found

theorem steady_text (expected : String) : (text expected).Steady :=
  steady_startingWith (fun read => Nat.le_of_lt (length_of_readText read)) steady_readText

theorem Steady.refine (steady : reader.Steady) (compute : α → Except JsonError β) :
    (reader.refine compute).Steady where
  run_append := by
    intro octets rest b found more
    obtain ⟨⟨a, _⟩, read, found⟩ := bind_eq_ok.mp found
    obtain ⟨_, computed, last⟩ := bind_eq_ok.mp found
    cases last
    exact run_refine (steady.run_append read more) computed

theorem Steady.map (steady : reader.Steady) (f : α → β) : (reader.map f).Steady := steady.refine _

theorem Steady.optional (steady : reader.Steady) : reader.optional.Steady where
  run_append := by
    intro octets rest a found more
    simp only [Reader.optional] at found ⊢
    split at found
    · cases found
    · rename_i blanks
      simp only [steady_skipBlankOctets blanks more]
      split at found
      · obtain ⟨_, word, last⟩ := bind_eq_ok.mp found
        cases last
        rw [if_pos ‹_›, expectNull, steady_expectWord word more]
        rfl
      · obtain ⟨⟨a, _⟩, read, last⟩ := bind_eq_ok.mp found
        cases last
        rw [if_neg ‹_›, ← List.cons_append, steady.run_append read more]
        rfl

/-! ## Parts of records -/

def Next.before (more : Bytes) : Next → Next
  | closed rest => .closed (rest ++ more)
  | part rest => .part (rest ++ more)

theorem steady_nextItem {first : Bool} {octets : Bytes} {next : Next} (found : nextItem first octets = .ok next)
    (more : Bytes) : nextItem first (octets ++ more) = .ok (next.before more) := by
  rw [nextItem] at found
  split at found
  · cases found
  · rename_i blanks
    -- The same octet decides in both runs, because the blanks before it end in the first one.
    simp only [nextItem, steady_skipBlankOctets blanks more]
    split at found
    · cases found
      rw [if_pos ‹_›]
      rfl
    rw [if_neg ‹_›]
    split at found
    · cases found
      rw [if_pos ‹_›]
      rfl
    rw [if_neg ‹_›]
    split at found
    · rw [if_pos ‹_›]
      split at found
      · cases found
      · rename_i blanks
        simp only [steady_skipBlankOctets blanks more]
        split at found
        · cases found
        · cases found
          rw [if_neg ‹_›]
          rfl
    · cases found

end Reader

namespace Fields

def Steady : {types : List Type} → Fields types → Prop
  | _, .nil => True
  | _, .cons field others => field.format.reader.Steady ∧ others.Steady

variable {types : List Type} {fields : Fields types} {octets rest : Bytes}

theorem steady_reading? {key : String} {slots : Slots types} {reader : Reader (Slots types)} (ofFields : fields.Steady)
    (reading : fields.reading? key slots = some (.ok reader)) : reader.Steady := by
  induction fields with
  | nil => cases reading
  | cons field others inductionHypothesis =>
    obtain ⟨slot, slots⟩ := slots
    obtain ⟨ofField, ofOthers⟩ := ofFields
    simp only [reading?] at reading
    split at reading
    · split at reading
      · cases reading
      · cases reading
        exact ofField.map _
    · split at reading
      · rename_i found
        cases reading
        exact (inductionHypothesis ofOthers found).map _
      · cases reading
      · cases reading

theorem steady_nextMember {first : Bool} {next : Reader.Next} (found : nextMember first octets = .ok next)
    (more : Bytes) : nextMember first (octets ++ more) = .ok (next.before more) := by
  rw [nextMember] at found
  split at found
  · cases found
  · rename_i blanks
    -- As with the items of a list, the octet that decides is there without more octets.
    simp only [nextMember, steady_skipBlankOctets blanks more]
    split at found
    · cases found
      rw [if_pos ‹_›]
      rfl
    rw [if_neg ‹_›]
    split at found
    · rw [if_pos ‹_›]
      split at found
      · cases found
        rw [if_pos ‹_›]
        rfl
      · cases found
    rw [if_neg ‹_›]
    split at found
    · rw [if_pos ‹_›]
      split at found
      · cases found
      · rename_i blanks
        simp only [steady_skipBlankOctets blanks more]
        split at found
        · cases found
          rw [if_pos ‹_›]
          rfl
        · split at found <;> cases found
    · cases found

/-- The value of a member that is no field may be a number, which goes on if the octets end with it. -/
theorem steady_readMember {slots after : Slots types} (ofFields : fields.Steady)
    (read : fields.readMember slots octets = .ok (after, rest)) (left : rest ≠ []) (more : Bytes) :
    fields.readMember slots (octets ++ more) = .ok (after, rest ++ more) := by
  obtain ⟨⟨key, afterKey⟩, text, read⟩ := bind_eq_ok.mp read
  simp only [readMember, steady_readText text more, Fallible.ok_bind]
  dsimp only at read
  cases reading : fields.reading? key slots with
  | none =>
    simp only [reading] at read ⊢
    obtain ⟨_, colon, read⟩ := bind_eq_ok.mp read
    obtain ⟨_, value, last⟩ := bind_eq_ok.mp read
    cases last
    simp only [steady_expectColon colon more, steady_skipValue value left more, Fallible.ok_bind]
  | some reader =>
    simp only [reading] at read ⊢
    cases reader with
    | error wrong => cases read
    | ok reader =>
      obtain ⟨_, colon, read⟩ := bind_eq_ok.mp read
      simp only [steady_expectColon colon more, Fallible.ok_bind, (steady_reading? ofFields reading).run_append read more]

theorem ne_nil_of_readMembers {slots after : Slots types} {first : Bool}
    (read : fields.readMembers slots first octets = .ok (after, rest)) : octets ≠ [] := by
  rintro rfl
  rw [readMembers] at read
  cases read

theorem steady_readMembers {slots after : Slots types} {first : Bool} (ofFields : fields.Steady)
    (read : fields.readMembers slots first octets = .ok (after, rest)) (more : Bytes) :
    fields.readMembers slots first (octets ++ more) = .ok (after, rest ++ more) := by
  fun_induction readMembers fields slots first octets with
  | case1 => cases read
  | case2 _ _ _ _ next =>
    cases read
    exact readMembers_closed (steady_nextMember next more)
  | case3 => cases read
  | case4 _ _ _ _ next _ _ member _ _ inductionHypothesis =>
    -- What comes behind a member is never nothing, or there would be no closing brace.
    have member := steady_readMember ofFields member (ne_nil_of_readMembers read) more
    rw [readMembers_part (steady_nextMember next more), member]
    exact inductionHypothesis read

theorem steady_closeList (closed : closeList octets = .ok rest) (more : Bytes) :
    closeList (octets ++ more) = .ok (rest ++ more) := by
  rw [closeList] at closed
  split at closed
  · cases closed
  · rename_i blanks
    simp only [closeList, steady_skipBlankOctets blanks more]
    split at closed
    · cases closed
      rw [if_pos ‹_›]
    · split at closed <;> cases closed

theorem steady_readInOrder {expected : String} {position : Nat} {values : Values types} (ofFields : fields.Steady)
    (read : fields.readInOrder expected position octets = .ok (values, rest)) (more : Bytes) :
    fields.readInOrder expected position (octets ++ more) = .ok (values, rest ++ more) := by
  induction fields generalizing position octets rest with
  | nil =>
    obtain ⟨_, closed, last⟩ := bind_eq_ok.mp read
    cases last
    simp only [readInOrder, steady_closeList closed more, Fallible.ok_bind]
  | cons field others inductionHypothesis =>
    obtain ⟨ofField, ofOthers⟩ := ofFields
    obtain ⟨next, found, read⟩ := bind_eq_ok.mp read
    simp only [readInOrder, Reader.steady_nextItem found more, Fallible.ok_bind]
    cases next with
    | closed _ => cases read
    | part start =>
      obtain ⟨⟨value, _⟩, first, read⟩ := bind_eq_ok.mp read
      obtain ⟨⟨values, _⟩, inOrder, last⟩ := bind_eq_ok.mp read
      cases last
      simp only [Reader.Next.before, ofField.run_append first more, inductionHypothesis ofOthers inOrder, Fallible.ok_bind]

theorem steady_readParts {label : String} {octet : UInt8} {values : Values types} (ofFields : fields.Steady)
    (read : fields.readParts label octet octets = .ok (values, rest)) (more : Bytes) :
    fields.readParts label octet (octets ++ more) = .ok (values, rest ++ more) := by
  rw [readParts] at read ⊢
  split at read
  · obtain ⟨⟨slots, _⟩, members, read⟩ := bind_eq_ok.mp read
    obtain ⟨values, complete, last⟩ := bind_eq_ok.mp read
    cases last
    rw [if_pos ‹_›, steady_readMembers ofFields members more]
    simp only [Fallible.ok_bind, complete]
  · rw [if_neg ‹_›, steady_readInOrder ofFields read more]

end Fields

namespace Format

theorem steady_text : text.reader.Steady := Reader.steady_text _

theorem steady_spelling {ε : Type} (expected : String) (read : String → Except ε α) (wrong : ε → JsonError) :
    ((Reader.text expected).refine fun text => (read text).mapError wrong).Steady :=
  (Reader.steady_text expected).refine fun text => (read text).mapError wrong

theorem steady_uuid : uuid.reader.Steady := steady_spelling _ _ _

theorem steady_time : time.reader.Steady := steady_spelling _ _ _

theorem steady_record {types : List Type} {label : String} {fields : Fields types} (ofFields : fields.Steady) :
    (record label fields).reader.Steady :=
  Reader.steady_startingWith Fields.length_of_readParts (Fields.steady_readParts ofFields)

theorem steady_via {format : Format α} (steady : format.reader.Steady) (build : α → β) (parts : β → α) :
    (format.via build parts).reader.Steady := steady.map build

end Format

/-! ## Damaged values -/

namespace Reader

variable {reader : Reader α} {octets : Bytes} {a : α}

/-- Whatever were read from the beginning of a value alone would be read from the whole of it, and not up to its end. -/
theorem Steady.refused_of_cut (steady : reader.Steady) {lost : Bytes} (some : lost ≠ [])
    (whole : reader.run (octets ++ lost) = .ok (a, [])) : ∃ error, reader.decode octets = .error error := by
  cases decoded : reader.decode octets with
  | error error => exact ⟨error, rfl⟩
  | ok other =>
    obtain ⟨⟨_, rest⟩, read, _⟩ := bind_eq_ok.mp decoded
    have same := whole.symm.trans (steady.run_append read lost)
    simp only [Except.ok.injEq, Prod.mk.injEq] at same
    exact absurd (List.append_eq_nil_iff.mp same.2.symm).2 some

theorem Steady.decode_append (steady : reader.Steady) (whole : reader.run octets = .ok (a, [])) (suffix : Bytes) :
    reader.decode (octets ++ suffix) = if (skipBlankOctets suffix).isEmpty then .ok a else .error .trailingOctets := by
  rw [decode, steady.run_append whole suffix, List.nil_append, Fallible.ok_bind]

/-- Behind a value nothing may come but blanks. -/
theorem Steady.decode_blanks (steady : reader.Steady) (whole : reader.run octets = .ok (a, [])) {blanks : Bytes}
    (allBlank : Blanks blanks) : reader.decode (octets ++ blanks) = .ok a := by
  rw [steady.decode_append whole, if_pos (List.isEmpty_iff.mpr (skipBlankOctets_eq_nil.mpr allBlank))]

theorem Steady.decode_trailed (steady : reader.Steady) (whole : reader.run octets = .ok (a, [])) {suffix : Bytes}
    (notBlank : ¬Blanks suffix) : reader.decode (octets ++ suffix) = .error .trailingOctets := by
  rw [steady.decode_append whole,
    if_neg fun empty => notBlank (skipBlankOctets_eq_nil.mp (List.isEmpty_iff.mp empty))]

end Reader

end Gazette.Json
