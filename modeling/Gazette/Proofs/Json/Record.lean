import Gazette.Json.Record
import Gazette.Proofs.Json.Format

/-!
# Records that are read as they are written

`Format.gives_record`: the format of records gives what those of the fields give, if no two fields have the same name.
-/

namespace Gazette.Json

/-! ## Slots filled in order -/

def Slots.upTo : {types : List Type} → Nat → Values types → Slots types
  | [], _, _ => ()
  | _ :: _, 0, _ => Slots.empty _
  | _ :: _, filled + 1, (value, values) => (some value, Slots.upTo filled values)

theorem Slots.upTo_zero {types : List Type} (values : Values types) : Slots.upTo 0 values = Slots.empty types := by
  cases types <;> rfl

namespace Fields

theorem upTo_of_count_le {types : List Type} (fields : Fields types) {filled : Nat} (all : fields.count ≤ filled)
    (values : Values types) : Slots.upTo filled values = Slots.upTo fields.count values := by
  induction fields generalizing filled with
  | nil => rfl
  | cons field others inductionHypothesis =>
    obtain ⟨value, values⟩ := values
    cases filled with
    | zero => simp [count] at all
    | succ filled =>
      simp only [count, Slots.upTo]
      rw [inductionHypothesis (Nat.le_of_succ_le_succ all)]

theorem complete_upTo {types : List Type} (fields : Fields types) (values : Values types) :
    fields.complete (Slots.upTo fields.count values) = .ok values := by
  induction fields with
  | nil => rfl
  | cons field others inductionHypothesis =>
    obtain ⟨value, values⟩ := values
    simp only [count, Slots.upTo, complete, Option.some_or, inductionHypothesis, Fallible.ok_bind]

theorem length_members {types : List Type} (fields : Fields types) (values : Values types) :
    (fields.members values).length = fields.count := by
  induction fields with
  | nil => rfl
  | cons field others inductionHypothesis =>
    obtain ⟨value, values⟩ := values
    simp only [members, List.length_cons, inductionHypothesis, count]

/-! ## Members -/

def names : {types : List Type} → Fields types → List String
  | _, .nil => []
  | _, .cons field others => field.name :: others.names

/-- The format of each field gives a value for another. -/
def Gives : {types : List Type} → Fields types → Values types → Values types → Prop
  | _, .nil, _, _ => True
  | _, .cons field others, (value, values), (first, given) => field.format.Gives value first ∧ others.Gives values given

theorem key_mem_names {types : List Type} {fields : Fields types} {values : Values types} {member : String × Json}
    (there : member ∈ fields.members values) : member.1 ∈ fields.names := by
  induction fields with
  | nil => cases there
  | cons field others inductionHypothesis =>
    obtain ⟨value, values⟩ := values
    rcases List.mem_cons.mp there with rfl | later
    · exact List.mem_cons_self
    · exact List.mem_cons_of_mem _ (inductionHypothesis later)

/-- The member that comes next fills its slot. -/
theorem reading?_upTo {types : List Type} {fields : Fields types} {values given : Values types} {filled : Nat}
    {key : String} {item : Json} (gives : fields.Gives values given) (distinct : fields.names.Nodup)
    (next : (fields.members values)[filled]? = some (key, item)) :
    ∃ reader, fields.reading? key (Slots.upTo filled given) = some (.ok reader) ∧
      ∀ {blanks octets rest : Bytes}, Blanks blanks → Written item octets → Ends rest →
        reader.run (blanks ++ (octets ++ rest)) = .ok (Slots.upTo (filled + 1) given, rest) := by
  induction fields generalizing filled with
  | nil => simp [members] at next
  | cons field others inductionHypothesis =>
    obtain ⟨value, values⟩ := values
    obtain ⟨first, given⟩ := given
    obtain ⟨ofField, ofOthers⟩ := gives
    obtain ⟨new, othersDistinct⟩ := List.nodup_cons.mp distinct
    cases filled with
    | zero =>
      -- It is the member of the first field.
      simp only [members, List.getElem?_cons_zero, Option.some.injEq, Prod.mk.injEq] at next
      obtain ⟨rfl, rfl⟩ := next
      refine ⟨field.format.reader.map fun value => (some value, Slots.empty _),
        by simp only [Slots.upTo, Slots.empty, reading?, if_true], ?_⟩
      intro blanks octets rest allBlank written ends
      simp only [Slots.upTo, Slots.upTo_zero]
      exact Reader.run_map (ofField allBlank written ends)
    | succ filled =>
      simp only [members, List.getElem?_cons_succ] at next
      -- Its name is not that of the first field, whose slot stays as it is.
      have other : key ≠ field.name := by
        rintro rfl
        exact new (key_mem_names (List.mem_of_getElem? next))
      obtain ⟨reader, found, reads⟩ := inductionHypothesis ofOthers othersDistinct next
      refine ⟨reader.map fun slots => (some first, slots), by simp only [Slots.upTo, reading?, if_neg other, found], ?_⟩
      intro blanks octets rest allBlank written ends
      exact Reader.run_map (reads allBlank written ends)

theorem ends_members {members : List (String × Json)} {octets : Bytes} (written : WrittenMembers false members octets)
    (rest : Bytes) : Ends (octets ++ rest) := by
  cases written with
  | nil allBlank =>
    rw [List.append_assoc]
    exact ends_mark rest allBlank (by decide)
  | comma allBlank parts =>
    rw [List.append_assoc]
    exact ends_mark _ allBlank (by decide)

theorem nextMember_nil {first : Bool} {blanks rest : Bytes} (allBlank : Blanks blanks) :
    nextMember first (blanks ++ [0x7D] ++ rest) = .ok (.closed rest) := by
  rw [List.append_assoc, List.singleton_append, nextMember, skipBlankOctets_to _ _ allBlank rfl]
  simp

theorem nextMember_first {blanks rest : Bytes} (allBlank : Blanks blanks) :
    nextMember true (blanks ++ 0x22 :: rest) = .ok (.part rest) := by
  rw [nextMember, skipBlankOctets_to _ _ allBlank rfl]
  simp

theorem nextMember_comma {before after rest : Bytes} (blankBefore : Blanks before) (blankAfter : Blanks after) :
    nextMember false (before ++ 0x2C :: (after ++ 0x22 :: rest)) = .ok (.part rest) := by
  rw [nextMember, skipBlankOctets_to _ _ blankBefore rfl]
  simp only [skipBlankOctets_to 0x22 _ blankAfter rfl]
  simp

theorem expectColon_colon {blanks rest : Bytes} (allBlank : Blanks blanks) :
    expectColon (blanks ++ 0x3A :: rest) = .ok rest := by
  rw [expectColon, skipBlankOctets_to _ _ allBlank rfl]
  simp

theorem readMember_upTo {types : List Type} {fields : Fields types} {values given : Values types} {filled : Nat}
    {key : String} {item : Json} {keyTail beforeColon afterColon octets rest : Bytes}
    (gives : fields.Gives values given) (distinct : fields.names.Nodup) (next : (fields.members values)[filled]? = some (key, item))
    (quoted : 0x22 :: keyTail = octetsOf (quote key)) (blankBefore : Blanks beforeColon)
    (blankAfter : Blanks afterColon) (written : Written item octets) (ends : Ends rest) :
    fields.readMember (Slots.upTo filled given)
        (keyTail ++ (beforeColon ++ 0x3A :: (afterColon ++ (octets ++ rest))))
      = .ok (Slots.upTo (filled + 1) given, rest) := by
  obtain ⟨reader, found, reads⟩ := reading?_upTo gives distinct next
  simp only [readMember, readText_quote quoted _, Fallible.ok_bind, found, expectColon_colon blankBefore]
  exact reads blankAfter written ends

/-- One more member, and then the members after it. -/
theorem readMembers_part {types : List Type} {fields : Fields types} {slots : Slots types} {first : Bool}
    {octets start : Bytes} (next : nextMember first octets = .ok (.part start)) :
    fields.readMembers slots first octets
      = fields.readMember slots start >>= fun read => fields.readMembers read.1 false read.2 := by
  rw [readMembers]
  split
  · rename_i found
    cases next.symm.trans found
  · rename_i found
    cases next.symm.trans found
  · rename_i found
    cases next.symm.trans found
    split
    · rename_i read
      simp only [read, Fallible.error_bind]
    · rename_i read
      simp only [read, Fallible.ok_bind]

theorem readMembers_closed {types : List Type} {fields : Fields types} {slots : Slots types} {first : Bool}
    {octets rest : Bytes} (next : nextMember first octets = .ok (.closed rest)) :
    fields.readMembers slots first octets = .ok (slots, rest) := by
  rw [readMembers]
  split
  · rename_i found
    cases next.symm.trans found
  · rename_i found
    cases next.symm.trans found
    rfl
  · rename_i found
    cases next.symm.trans found

/-- The members that are left are read up to the closing brace, and fill the slots that are left. -/
theorem readMembers_upTo {types : List Type} {fields : Fields types} {values given : Values types}
    (gives : fields.Gives values given) (distinct : fields.names.Nodup) {members : List (String × Json)} {filled : Nat}
    (left : (fields.members values).drop filled = members) {first : Bool} {octets : Bytes}
    (written : WrittenMembers first members octets) (rest : Bytes) :
    fields.readMembers (Slots.upTo filled given) first (octets ++ rest)
      = .ok (Slots.upTo fields.count given, rest) := by
  induction members generalizing filled first octets with
  | nil =>
    have all : fields.count ≤ filled := by
      rw [← length_members fields values]
      exact List.drop_eq_nil_iff.mp left
    cases written with
    | nil allBlank => rw [readMembers_closed (nextMember_nil allBlank), upTo_of_count_le fields all]
  | cons member members inductionHypothesis =>
    obtain ⟨key, item⟩ := member
    have next : (fields.members values)[filled]? = some (key, item) := by
      rw [← Nat.add_zero filled, ← List.getElem?_drop, left]
      rfl
    have more : (fields.members values).drop (filled + 1) = members := by
      rw [← List.tail_drop, left]
      rfl
    obtain ⟨keyTail, quoted⟩ : ∃ keyTail, octetsOf (quote key) = 0x22 :: keyTail := ⟨_, octets_quote key⟩
    -- From its key on, a member is written in the same way whether it is the first one or comes behind a comma.
    have fromKey {first : Bool} {start beforeColon afterColon octets others : Bytes} (blankBefore : Blanks beforeColon)
        (blankAfter : Blanks afterColon) (value : Written item octets) (written : WrittenMembers false members others)
        (found : nextMember first start
          = .ok (.part (keyTail ++ (beforeColon ++ 0x3A :: (afterColon ++ (octets ++ (others ++ rest))))))) :
        fields.readMembers (Slots.upTo filled given) first start = .ok (Slots.upTo fields.count given, rest) := by
      have read := readMember_upTo gives distinct next quoted.symm blankBefore blankAfter value
        (ends_members written rest)
      rw [readMembers_part found, read, Fallible.ok_bind]
      exact inductionHypothesis more written
    cases written with
    | cons key allBlank blankBefore blankAfter value others =>
      apply fromKey blankBefore blankAfter value others
      rw [quoted]
      simp only [List.append_assoc, List.cons_append, nextMember_first allBlank]
    | comma blankComma parts =>
      cases parts with
      | cons key allBlank blankBefore blankAfter value others =>
        apply fromKey blankBefore blankAfter value others
        rw [quoted]
        simp only [List.append_assoc, List.cons_append, nextMember_comma blankComma allBlank]

end Fields

/-! ## Records -/

theorem Format.gives_record {types : List Type} {label : String} {fields : Fields types} {values given : Values types}
    (gives : fields.Gives values given) (distinct : fields.names.Nodup) :
    (Format.record label fields).Gives values given := by
  intro blanks octets rest allBlank written ends
  cases written with
  | object parts =>
    rename_i octets
    have read := Fields.readMembers_upTo gives distinct List.drop_zero parts rest
    rw [Slots.upTo_zero] at read
    rw [List.cons_append]
    simp only [Format.record, Reader.startingWith, skipBlankOctets_to 0x7B _ allBlank rfl]
    simp only [Fields.readParts, if_true, read, Fallible.ok_bind, Fields.complete_upTo]
    rfl

end Gazette.Json
