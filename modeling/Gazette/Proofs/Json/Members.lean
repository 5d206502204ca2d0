import Gazette.Proofs.Json.Exact
import Gazette.Proofs.Json.Record

/-!
# Records that anyone wrote

* `Fields.Found members values`: each value is that of the one member with the field's name, or the one that the lack of
  such a member stands for.
* `Fields.readMembers_iff`: members of all keys and values fill the slots of their fields one after another.
* `decode_record_iff`: the values found are those that are read from the object as a record, in whatever order its
  members are and whatever others stand beside them.
-/

namespace Gazette.Json

open Fallible (bind_eq_ok)

variable {α β : Type}

/-! ## Fields -/

/-- What a slot holds after a member with this key and value. It is filled once only. -/
def Field.Takes (field : Field α) (key : String) (octets : Bytes) (slot after : Option α) : Prop :=
  if key = field.name then slot = none ∧ ∃ a, field.format.decode octets = .ok a ∧ after = some a else after = slot

namespace Fields

variable {types : List Type}

def Exact : {types : List Type} → Fields types → Prop
  | _, .nil => True
  | _, .cons field others => field.format.Exact ∧ others.Exact

def Take (key : String) (octets : Bytes) : {types : List Type} → Fields types → Slots types → Slots types → Prop
  | _, .nil, _, _ => True
  | _, .cons field others, (slot, slots), (after, afters) =>
    field.Takes key octets slot after ∧ others.Take key octets slots afters

def Fill (fields : Fields types) : List (String × Bytes) → Slots types → Slots types → Prop
  | [], slots, after => after = slots
  | (key, octets) :: members, slots, after =>
    ∃ between, fields.Take key octets slots between ∧ fields.Fill members between after

theorem take_of_not_mem {fields : Fields types} {key : String} (unknown : key ∉ fields.names) {octets : Bytes}
    {slots after : Slots types} : fields.Take key octets slots after ↔ after = slots := by
  induction fields with
  | nil => exact ⟨fun _ => rfl, fun _ => trivial⟩
  | cons field others inductionHypothesis =>
    obtain ⟨slot, slots⟩ := slots
    obtain ⟨after, afters⟩ := after
    obtain ⟨other, unknown⟩ := List.ne_and_not_mem_of_not_mem_cons unknown
    simp only [Take, Field.Takes, if_neg other, inductionHypothesis unknown]
    exact Eq.to_iff (Prod.mk.injEq after afters slot slots).symm

theorem reading?_exact {fields : Fields types} (exact : fields.Exact) (distinct : fields.names.Nodup) (key : String)
    (slots : Slots types) :
    match fields.reading? key slots with
    | none => key ∉ fields.names
    | some (.error _) => ∀ octets after, ¬fields.Take key octets slots after
    | some (.ok reader) => reader.Reads fun octets after => fields.Take key octets slots after := by
  induction fields with
  | nil => exact List.not_mem_nil
  | cons field others inductionHypothesis =>
    obtain ⟨ofField, ofOthers⟩ := exact
    obtain ⟨new, othersDistinct⟩ := List.nodup_cons.mp distinct
    obtain ⟨slot, slots⟩ := slots
    by_cases same : key = field.name
    · subst same
      cases slot with
      | some value =>
        simp only [reading?, if_true]
        rintro octets ⟨after, afters⟩ ⟨taken, _⟩
        simp [Field.Takes] at taken
      | none =>
        simp only [reading?, if_true]
        -- No other field has the name, so the other slots stay as they are.
        apply (Reader.Reads.map ofField fun value => (some value, slots)).congr
        rintro octets ⟨after, afters⟩
        simp only [Take, Field.Takes, if_true, take_of_not_mem new]
        constructor
        · rintro ⟨a, decoded, filled⟩
          cases filled
          exact ⟨⟨trivial, a, decoded, rfl⟩, rfl⟩
        · rintro ⟨⟨_, a, decoded, rfl⟩, rfl⟩
          exact ⟨a, decoded, rfl⟩
    · have read := inductionHypothesis ofOthers othersDistinct slots
      simp only [reading?, if_neg same]
      cases found : others.reading? key slots with
      | none =>
        rw [found] at read
        exact List.not_mem_cons_of_ne_of_not_mem same read
      | some reading =>
        rw [found] at read
        cases reading with
        | error e =>
          rintro octets ⟨after, afters⟩ ⟨_, taken⟩
          exact read octets afters taken
        | ok reader =>
          apply (read.map fun slots => (slot, slots)).congr
          rintro octets ⟨after, afters⟩
          simp only [Take, Field.Takes, if_neg same]
          constructor
          · rintro ⟨_, taken, filled⟩
            cases filled
            exact ⟨rfl, taken⟩
          · rintro ⟨rfl, taken⟩
            exact ⟨afters, taken, rfl⟩

/-! ## Members -/

variable {fields : Fields types} {slots after : Slots types}

/-- A member of any key and value: its own slot takes the value, if it has one. -/
theorem readMember_iff (exact : fields.Exact) (distinct : fields.names.Nodup) {pieces : List Piece} {key : String}
    (spelled : text? pieces = some key) {beforeColon afterColon octets rest : Bytes} (blankBefore : Blanks beforeColon)
    (blankAfter : Blanks afterColon) (isValue : IsValue octets) (ends : Ends rest) {left : Bytes} :
    fields.readMember slots (pieces.flatMap Piece.octets ++ 0x22 ::
        (beforeColon ++ 0x3A :: (afterColon ++ (octets ++ rest)))) = .ok (after, left)
      ↔ fields.Take key octets slots after ∧ left = rest := by
  have reading := reading?_exact exact distinct key slots
  simp only [readMember, readText_eq_ok.mpr ⟨spelled, rfl⟩, Fallible.ok_bind]
  cases found : fields.reading? key slots with
  | none =>
    rw [found] at reading
    simp only [expectColon_colon blankBefore, skipValue_value isValue blankAfter ends, Fallible.ok_bind,
      take_of_not_mem reading, Except.ok.injEq, Prod.mk.injEq]
    exact and_congr eq_comm eq_comm
  | some reader =>
    rw [found] at reading
    cases reader with
    | error e => simp [reading octets after]
    | ok reader =>
      simp only [expectColon_colon blankBefore, Fallible.ok_bind]
      exact reading.run_iff blankAfter isValue ends

/-- From its key on, a member is written in the same way whether it is the first one or comes behind a comma. -/
theorem exists_nextMember {first : Bool} {key : Option String} {value octets : Bytes}
    {members : List (Option String × Bytes)} (areMembers : AreMembers first ((key, value) :: members) octets) :
    ∃ pieces beforeColon afterColon others, text? pieces = key ∧ Blanks beforeColon ∧ Blanks afterColon ∧
      IsValue value ∧ AreMembers false members others ∧ ∀ rest, nextMember first (octets ++ rest)
        = .ok (.part (pieces.flatMap Piece.octets ++ 0x22 ::
            (beforeColon ++ 0x3A :: (afterColon ++ (value ++ (others ++ rest)))))) := by
  cases areMembers with
  | cons pieces allBlank blankBefore blankAfter isValue more =>
    refine ⟨pieces, _, _, _, rfl, blankBefore, blankAfter, isValue, more, fun rest => ?_⟩
    simp only [quoted, List.append_assoc, List.cons_append, List.nil_append, nextMember_first allBlank]
  | comma blankComma parts =>
    cases parts with
    | cons pieces allBlank blankBefore blankAfter isValue more =>
      refine ⟨pieces, _, _, _, rfl, blankBefore, blankAfter, isValue, more, fun rest => ?_⟩
      simp only [quoted, List.append_assoc, List.cons_append, List.nil_append, nextMember_comma blankComma allBlank]

theorem readMembers_iff (exact : fields.Exact) (distinct : fields.names.Nodup) {members : List (String × Bytes)}
    {first : Bool} {octets : Bytes} (areMembers : AreMembers first (keyed members) octets) {rest left : Bytes} :
    fields.readMembers slots first (octets ++ rest) = .ok (after, left)
      ↔ fields.Fill members slots after ∧ left = rest := by
  induction members generalizing first octets slots with
  | nil =>
    cases areMembers with
    | nil allBlank =>
      rw [readMembers_closed (nextMember_nil allBlank), Except.ok.injEq, Prod.mk.injEq]
      exact and_congr eq_comm eq_comm
  | cons member members inductionHypothesis =>
    obtain ⟨key, value⟩ := member
    obtain ⟨pieces, _, _, others, spelled, blankBefore, blankAfter, isValue, more, next⟩ := exists_nextMember areMembers
    -- The first member is read as it stands alone, since what comes behind it does not go on with it.
    have readFirst {between : Slots types} {left : Bytes} : fields.readMember slots _ = .ok (between, left)
        ↔ fields.Take key value slots between ∧ left = others ++ rest :=
      readMember_iff exact distinct spelled blankBefore blankAfter isValue (more.ends rest)
    rw [readMembers_part (next rest), bind_eq_ok]
    constructor
    · rintro ⟨⟨between, _⟩, read, readOthers⟩
      obtain ⟨taken, rfl⟩ := readFirst.mp read
      obtain ⟨filled, rfl⟩ := (inductionHypothesis more).mp readOthers
      exact ⟨⟨between, taken, filled⟩, rfl⟩
    · rintro ⟨⟨between, taken, filled⟩, rfl⟩
      exact ⟨_, readFirst.mpr ⟨taken, rfl⟩, (inductionHypothesis more).mpr ⟨filled, rfl⟩⟩

end Fields

theorem AreMembers.isValue {first : Bool} {members : List (Option String × Bytes)} {octets : Bytes}
    (areMembers : AreMembers first members octets) : ∀ member ∈ members, IsValue member.2 := by
  induction members generalizing first octets with
  | nil => exact nofun
  | cons member members inductionHypothesis =>
    obtain ⟨_, _, _, _, _, _, _, isValue, more, _⟩ := Fields.exists_nextMember areMembers
    exact List.forall_mem_cons.mpr ⟨isValue, inductionHypothesis more⟩

theorem IsObject.isValue {members : List (String × Bytes)} {octets : Bytes} (isObject : IsObject members octets) :
    ∀ member ∈ members, IsValue member.2 := by
  obtain ⟨_, areMembers, _⟩ := isObject
  exact fun member there => areMembers.isValue _ (List.mem_map_of_mem there)

/-! ## Members with a name -/

def named (name : String) (members : List (String × Bytes)) : List (String × Bytes) :=
  members.filter fun member => member.1 = name

theorem named_cons {name : String} {octets : Bytes} {members : List (String × Bytes)} :
    named name ((name, octets) :: members) = (name, octets) :: named name members :=
  List.filter_cons_of_pos (by simp)

theorem named_cons_of_ne {name key : String} (other : key ≠ name) {octets : Bytes} {members : List (String × Bytes)} :
    named name ((key, octets) :: members) = named name members :=
  List.filter_cons_of_neg (by simpa using other)

/-- There is one member with the name only, and its value is as it should be. -/
def Once (name : String) (holds : Bytes → Prop) (members : List (String × Bytes)) : Prop :=
  ∃ octets, named name members = [(name, octets)] ∧ holds octets

theorem Once.of_perm {name : String} {holds : Bytes → Prop} {members others : List (String × Bytes)}
    (perm : (named name members).Perm (named name others)) (once : Once name holds members) :
    Once name holds others := by
  obtain ⟨octets, one, good⟩ := once
  rw [one] at perm
  exact ⟨octets, perm.symm.eq_singleton, good⟩

theorem Once.congr {name : String} {holds others : Bytes → Prop} {members : List (String × Bytes)}
    (same : ∀ member ∈ members, holds member.2 ↔ others member.2) :
    Once name holds members ↔ Once name others members := by
  apply exists_congr
  intro octets
  apply and_congr_right
  intro one
  have there : (name, octets) ∈ named name members := one ▸ List.mem_singleton_self _
  exact same _ (List.mem_filter.mp there).1

/-! ## The value of a field -/

def Field.Found (members : List (String × Bytes)) (field : Field α) (a : α) : Prop :=
  named field.name members = [] ∧ field.absent = some a ∨
    Once field.name (fun octets => field.format.decode octets = .ok a) members

theorem Field.found_required {name : String} {format : Format α} {means : Bytes → α → Prop}
    (reads : format.reader.Reads means) {members : List (String × Bytes)}
    (values : ∀ member ∈ members, IsValue member.2) {a : α} :
    (Field.required name format).Found members a ↔ Once name (means · a) members := by
  simp only [Field.Found, Field.required, reduceCtorEq, and_false, false_or]
  exact Once.congr fun member there => reads.decode_iff (values member there)

theorem Field.found_optional {name : String} {format : Format α} {means : Bytes → α → Prop}
    (reads : format.reader.Reads means) {members : List (String × Bytes)}
    (values : ∀ member ∈ members, IsValue member.2) {a : Option α} :
    (Field.optional name format).Found members a
      ↔ named name members = [] ∧ a = none ∨ Once name (OrNull means · a) members := by
  apply or_congr
  · simp only [Field.optional, Option.some_inj, eq_comm]
  · exact Once.congr fun member there => reads.optional.decode_iff (values member there)

def Field.Fills (field : Field α) : List (String × Bytes) → Option α → Option α → Prop
  | [], slot, after => after = slot
  | (key, octets) :: members, slot, after =>
    ∃ between, field.Takes key octets slot between ∧ field.Fills members between after

/-- Once a slot is filled there must be no other member for it. -/
theorem Field.fills_some {field : Field α} {members : List (String × Bytes)} {a : α} {after : Option α} :
    field.Fills members (some a) after ↔ named field.name members = [] ∧ after = some a := by
  induction members with
  | nil => exact ⟨fun same => ⟨rfl, same⟩, And.right⟩
  | cons member members inductionHypothesis =>
    obtain ⟨key, octets⟩ := member
    by_cases same : key = field.name
    · subst same
      simp [Field.Fills, Field.Takes, named_cons]
    · simp only [Field.Fills, Field.Takes, if_neg same, exists_eq_left, inductionHypothesis, named_cons_of_ne same]

theorem Field.fills_none {field : Field α} {members : List (String × Bytes)} {after : Option α} :
    field.Fills members none after ↔ named field.name members = [] ∧ after = none ∨
      ∃ a, Once field.name (fun octets => field.format.decode octets = .ok a) members ∧ after = some a := by
  induction members with
  | nil => simp [Field.Fills, named, Once]
  | cons member members inductionHypothesis =>
    obtain ⟨key, octets⟩ := member
    by_cases same : key = field.name
    · subst same
      simp only [Field.Fills, Field.Takes, if_true, true_and, named_cons, Once]
      -- The first member with the name fills the slot, and a second one finds it filled.
      constructor
      · rintro ⟨_, ⟨a, decoded, rfl⟩, filled⟩
        obtain ⟨noOther, rfl⟩ := fills_some.mp filled
        exact .inr ⟨a, ⟨octets, by rw [noOther], decoded⟩, rfl⟩
      · rintro (⟨none, _⟩ | ⟨a, ⟨_, one, decoded⟩, rfl⟩)
        · cases none
        · obtain ⟨head, noOther⟩ := List.cons.inj one
          cases head
          exact ⟨some a, ⟨a, decoded, rfl⟩, fills_some.mpr ⟨noOther, rfl⟩⟩
    · simp only [Field.Fills, Field.Takes, if_neg same, exists_eq_left, inductionHypothesis, Once,
        named_cons_of_ne same]

/-- A slot that is left empty stands for what the field says of a missing member. -/
theorem Field.exists_fills_iff {field : Field α} {members : List (String × Bytes)} {a : α} :
    (∃ slot, field.Fills members none slot ∧ slot.or field.absent = some a) ↔ field.Found members a := by
  simp only [fills_none]
  constructor
  · rintro ⟨slot, ⟨none, rfl⟩ | ⟨b, once, rfl⟩, value⟩
    · exact .inl ⟨none, value⟩
    · cases value
      exact .inr once
  · rintro (⟨none, value⟩ | once)
    · exact ⟨Option.none, .inl ⟨none, rfl⟩, value⟩
    · exact ⟨some a, .inr ⟨a, once, rfl⟩, rfl⟩

/-! ## The values of all fields -/

namespace Fields

variable {types : List Type}

def Found (members : List (String × Bytes)) : {types : List Type} → Fields types → Values types → Prop
  | _, .nil, _ => True
  | _, .cons field others, (value, values) => field.Found members value ∧ others.Found members values

/-- Each slot is filled on its own. -/
theorem fill_cons {field : Field α} {others : Fields types} {members : List (String × Bytes)} {slot after : Option α}
    {slots afters : Slots types} :
    (cons field others).Fill members (slot, slots) (after, afters)
      ↔ field.Fills members slot after ∧ others.Fill members slots afters := by
  induction members generalizing slot slots with
  | nil => exact Eq.to_iff (Prod.mk.injEq after afters slot slots)
  | cons member members inductionHypothesis =>
    constructor
    · rintro ⟨⟨between, betweens⟩, ⟨taken, othersTaken⟩, filled⟩
      obtain ⟨filled, othersFilled⟩ := inductionHypothesis.mp filled
      exact ⟨⟨between, taken, filled⟩, betweens, othersTaken, othersFilled⟩
    · rintro ⟨⟨between, taken, filled⟩, betweens, othersTaken, othersFilled⟩
      exact ⟨(between, betweens), ⟨taken, othersTaken⟩, inductionHypothesis.mpr ⟨filled, othersFilled⟩⟩

theorem complete_cons {field : Field α} {others : Fields types} {slot : Option α} {slots : Slots types} {value : α}
    {values : Values types} :
    (cons field others).complete (slot, slots) = .ok (value, values)
      ↔ slot.or field.absent = some value ∧ others.complete slots = .ok values := by
  constructor
  · intro completed
    rw [complete] at completed
    split at completed
    · cases completed
    · rename_i found
      obtain ⟨_, othersCompleted, same⟩ := bind_eq_ok.mp completed
      cases same
      exact ⟨found, othersCompleted⟩
  · rintro ⟨found, othersCompleted⟩
    simp only [complete, found, othersCompleted, Fallible.ok_bind]

theorem fill_nil (members : List (String × Bytes)) : nil.Fill members () () := by
  induction members with
  | nil => rfl
  | cons member members inductionHypothesis => exact ⟨(), trivial, inductionHypothesis⟩

theorem exists_fill_iff {fields : Fields types} {members : List (String × Bytes)} {values : Values types} :
    (∃ slots, fields.Fill members (Slots.empty types) slots ∧ fields.complete slots = .ok values)
      ↔ fields.Found members values := by
  induction fields with
  | nil => exact ⟨fun _ => trivial, fun _ => ⟨(), fill_nil members, rfl⟩⟩
  | cons field others inductionHypothesis =>
    obtain ⟨value, values⟩ := values
    simp only [Found, ← inductionHypothesis, ← Field.exists_fills_iff]
    constructor
    · rintro ⟨⟨slot, slots⟩, filled, completed⟩
      obtain ⟨filled, othersFilled⟩ := fill_cons.mp filled
      obtain ⟨completed, othersCompleted⟩ := complete_cons.mp completed
      exact ⟨⟨slot, filled, completed⟩, slots, othersFilled, othersCompleted⟩
    · rintro ⟨⟨slot, filled, completed⟩, slots, othersFilled, othersCompleted⟩
      exact ⟨(slot, slots), fill_cons.mpr ⟨filled, othersFilled⟩, complete_cons.mpr ⟨completed, othersCompleted⟩⟩

theorem readParts_iff {label : String} {fields : Fields types} (exact : fields.Exact) (distinct : fields.names.Nodup)
    {members : List (String × Bytes)} {octets rest left : Bytes} (areMembers : AreMembers true (keyed members) octets)
    {values : Values types} :
    fields.readParts label 0x7B (octets ++ rest) = .ok (values, left) ↔ fields.Found members values ∧ left = rest := by
  rw [readParts, if_pos rfl, bind_eq_ok, ← exists_fill_iff]
  constructor
  · rintro ⟨⟨slots, _⟩, read, last⟩
    obtain ⟨filled, rfl⟩ := (readMembers_iff exact distinct areMembers).mp read
    obtain ⟨_, completed, same⟩ := bind_eq_ok.mp last
    cases same
    exact ⟨⟨slots, filled, completed⟩, rfl⟩
  · rintro ⟨⟨slots, filled, completed⟩, rfl⟩
    exact ⟨_, (readMembers_iff exact distinct areMembers).mpr ⟨filled, rfl⟩, bind_eq_ok.mpr ⟨values, completed, rfl⟩⟩

end Fields

/-! ## Records -/

/-- The values found are those that are read, whatever order the members are in and whatever stands beside them. -/
theorem decode_record_iff {types : List Type} {label : String} {fields : Fields types} (exact : fields.Exact)
    (distinct : fields.names.Nodup) {members : List (String × Bytes)} {octets : Bytes}
    (isObject : IsObject members octets) {values : Values types} :
    (Format.record label fields).decode octets = .ok values ↔ fields.Found members values := by
  obtain ⟨blankBefore, areMembers, blankAfter⟩ := isObject
  rename_i before parts after
  have run : (Format.record label fields).reader.run (before ++ 0x7B :: (parts ++ after))
      = fields.readParts label 0x7B (parts ++ after) := by
    simp only [Format.record, Reader.startingWith, skipBlankOctets_to 0x7B _ blankBefore rfl]
    rfl
  have onlyBlanks : skipBlankOctets after = [] := skipBlankOctets_eq_nil.mpr blankAfter
  rw [Format.decode, Reader.decode, run, bind_eq_ok]
  -- Nothing but blanks is left after the closing brace.
  constructor
  · rintro ⟨⟨others, _⟩, read, last⟩
    obtain ⟨found, rfl⟩ := (Fields.readParts_iff exact distinct areMembers).mp read
    dsimp only at last
    rw [onlyBlanks] at last
    cases last
    exact found
  · intro found
    refine ⟨_, (Fields.readParts_iff exact distinct areMembers).mpr ⟨found, rfl⟩, ?_⟩
    dsimp only
    rw [onlyBlanks]
    rfl

theorem Format.decode_via (format : Format α) (build : α → β) (parts : β → α) (octets : Bytes) :
    (format.via build parts).decode octets = (format.decode octets).map build := by
  simp only [Format.decode, via, Reader.decode, Reader.map, Reader.refine]
  cases format.reader.run octets with
  | error e => rfl
  | ok read =>
    simp only [Fallible.ok_bind]
    split <;> rfl

end Gazette.Json
