import Gazette.Json.Format

/-!
# Records in JSON

* A `Field` is a named part of a record, `Fields` are all its parts in order, and `Values` are what they hold.
* `Format.record` is the format of records: an object with a member for every field. What is read may have the
  members in any order and others beside them, and may as well be a list of the values in the order of the fields.
-/

namespace Gazette.Json

open Fallible (bind_eq_ok)

/-! ## Fields -/

structure Field (α : Type) where
  name : String
  format : Format α
  /-- The value that a missing member stands for, if it may be missing. -/
  absent : Option α

def Field.required {α : Type} (name : String) (format : Format α) : Field α := ⟨name, format, none⟩

def Field.optional {α : Type} (name : String) (format : Format α) : Field (Option α) :=
  ⟨name, format.optional, some none⟩

inductive Fields : List Type → Type 1
  | nil : Fields []
  | cons {α : Type} {types : List Type} (field : Field α) (others : Fields types) : Fields (α :: types)

def Values : List Type → Type
  | [] => Unit
  | α :: types => α × Values types

def Slots : List Type → Type
  | [] => Unit
  | α :: types => Option α × Slots types

def Slots.empty : (types : List Type) → Slots types
  | [] => ()
  | _ :: types => (none, Slots.empty types)

namespace Fields

/-! ## Objects -/

/-- How a member with this key fills its slot, if a field has this name. A slot is filled once only. -/
def reading? (key : String) :
    {types : List Type} → Fields types → Slots types → Option (Except JsonError (Reader (Slots types)))
  | _, .nil, _ => none
  | _, .cons field others, (slot, slots) =>
    if key = field.name then
      match slot with
      | some _ => some (.error (.duplicateField field.name))
      | none => some (.ok (field.format.reader.map fun value => (some value, slots)))
    else
      match others.reading? key slots with
      | some (.ok reader) => some (.ok (reader.map fun slots => (slot, slots)))
      | some (.error e) => some (.error e)
      | none => none

/-- The values in the slots. A slot may be empty only if the field may be missing. -/
def complete : {types : List Type} → Fields types → Slots types → Except JsonError (Values types)
  | _, .nil, _ => .ok ()
  | _, .cons field others, (slot, slots) =>
    match slot.or field.absent with
    | none => .error (.missingField field.name)
    | some value => do
      let values ← others.complete slots
      .ok (value, values)

/-- After the opening brace of an object, or after a member: looks for another member, and takes the quote that
its key starts with. -/
def nextMember (first : Bool) (octets : Bytes) : Except JsonError Reader.Next :=
  match skipBlankOctets octets with
  | [] => .error .endInObject
  | octet :: rest =>
    if octet = 0x7D then .ok (.closed rest)
    else if first then if octet = 0x22 then .ok (.part rest) else .error .keyNotString
    else if octet = 0x2C then
      match skipBlankOctets rest with
      | [] => .error .endInValue
      | octet :: rest =>
        if octet = 0x22 then .ok (.part rest)
        else if octet = 0x7D then .error .trailingComma
        else .error .keyNotString
    else .error .expectedCommaOrObjectEnd

def readMember {types : List Type} (fields : Fields types) (slots : Slots types) (octets : Bytes) :
    Except JsonError (Slots types × Bytes) := do
  let (key, rest) ← readText octets
  match fields.reading? key slots with
  | some (.ok reader) =>
    let rest ← expectColon rest
    reader.run rest
  | some (.error e) => .error e
  | none =>
    let rest ← expectColon rest
    let rest ← skipValue rest
    .ok (slots, rest)

theorem length_of_nextMember {first : Bool} {octets : Bytes} {next : Reader.Next}
    (found : nextMember first octets = .ok next) : next.rest.length < octets.length := by
  rw [nextMember] at found
  split at found
  · cases found
  · rename_i octet tail blanks
    have shorter := length_lt_of_skipBlankOctets blanks
    split at found
    · cases found
      exact shorter
    · split at found
      · split at found
        · cases found
          exact shorter
        · cases found
      · split at found
        · split at found
          · cases found
          · rename_i blanks
            have := length_lt_of_skipBlankOctets blanks
            split at found
            · cases found
              simp only [Reader.Next.rest]
              omega
            · split at found <;> cases found
        · cases found

theorem length_of_readMember {types : List Type} {fields : Fields types} {slots after : Slots types}
    {octets rest : Bytes} (read : fields.readMember slots octets = .ok (after, rest)) :
    rest.length < octets.length := by
  obtain ⟨⟨key, afterKey⟩, text, read⟩ := bind_eq_ok.mp read
  have := length_of_readText text
  simp only at read
  split at read
  · rename_i reader _
    obtain ⟨_, colon, value⟩ := bind_eq_ok.mp read
    have := length_of_expectColon colon
    have := reader.shortens value
    omega
  · cases read
  · obtain ⟨_, colon, read⟩ := bind_eq_ok.mp read
    obtain ⟨_, value, last⟩ := bind_eq_ok.mp read
    have := length_of_expectColon colon
    have := length_of_skipValue value
    cases last
    omega

def readMembers {types : List Type} (fields : Fields types) (slots : Slots types) (first : Bool)
    (octets : Bytes) : Except JsonError (Slots types × Bytes) :=
  match next : nextMember first octets with
  | .error e => .error e
  | .ok (.closed rest) => .ok (slots, rest)
  | .ok (.part start) =>
    match read : fields.readMember slots start with
    | .error e => .error e
    | .ok (slots, rest) =>
      have := length_of_nextMember next
      have := length_of_readMember read
      readMembers fields slots false rest
termination_by octets.length
decreasing_by simp only [Reader.Next.rest] at *; omega

theorem length_of_readMembers {types : List Type} {fields : Fields types} {slots after : Slots types}
    {first : Bool} {octets rest : Bytes}
    (read : fields.readMembers slots first octets = .ok (after, rest)) :
    rest.length ≤ octets.length := by
  fun_induction readMembers fields slots first octets with
  | case1 => cases read
  | case2 _ _ _ _ next =>
    cases read
    exact Nat.le_of_lt (length_of_nextMember next)
  | case3 => cases read
  | case4 _ _ _ _ next _ _ _ nextShorter shorter inductionHypothesis =>
    have := inductionHypothesis read
    simp only [Reader.Next.rest] at nextShorter
    omega

/-! ## Lists -/

def count : {types : List Type} → Fields types → Nat
  | _, .nil => 0
  | _, .cons _ others => others.count + 1

def closeList (octets : Bytes) : Except JsonError Bytes :=
  match skipBlankOctets octets with
  | [] => .error .endInList
  | octet :: rest =>
    if octet = 0x5D then .ok rest
    else if octet = 0x2C ∧ (skipBlankOctets rest).head? = some 0x5D then .error .trailingComma
    else .error .trailingOctets

def readInOrder (expected : String) (position : Nat) :
    {types : List Type} → Fields types → Bytes → Except JsonError (Values types × Bytes)
  | _, .nil, octets => do
    let rest ← closeList octets
    .ok ((), rest)
  | _, .cons field others, octets => do
    match ← Reader.nextItem (position = 0) octets with
    | .closed _ => .error (.listTooShort position expected)
    | .part start =>
      let (value, rest) ← field.format.reader.run start
      let (values, rest) ← others.readInOrder expected (position + 1) rest
      .ok ((value, values), rest)

theorem length_of_closeList {octets rest : Bytes} (closed : closeList octets = .ok rest) :
    rest.length < octets.length := by
  rw [closeList] at closed
  split at closed
  · cases closed
  · rename_i octet tail blanks
    have := length_lt_of_skipBlankOctets blanks
    split at closed
    · cases closed
      exact this
    · split at closed <;> cases closed

theorem length_of_readInOrder {types : List Type} {expected : String} {position : Nat}
    {fields : Fields types} {octets rest : Bytes} {values : Values types}
    (read : fields.readInOrder expected position octets = .ok (values, rest)) :
    rest.length < octets.length := by
  induction fields generalizing position octets rest with
  | nil =>
    obtain ⟨_, closed, last⟩ := bind_eq_ok.mp read
    cases last
    exact length_of_closeList closed
  | cons field others inductionHypothesis =>
    obtain ⟨next, found, read⟩ := bind_eq_ok.mp read
    have := Reader.length_of_nextItem found
    cases next with
    | closed _ => cases read
    | part start =>
      obtain ⟨⟨value, _⟩, first, read⟩ := bind_eq_ok.mp read
      obtain ⟨⟨values, _⟩, more, last⟩ := bind_eq_ok.mp read
      have := field.format.reader.shortens first
      have := inductionHypothesis more
      cases last
      simp only [Reader.Next.rest] at *
      omega

/-! ## Records -/

def members : {types : List Type} → Fields types → Values types → List (String × Json)
  | _, .nil, _ => []
  | _, .cons field others, (value, values) =>
    (field.name, field.format.write value) :: others.members values

def expectation (label : String) : String := "struct " ++ label

def lengthExpectation {types : List Type} (fields : Fields types) (label : String) : String :=
  s!"struct {label} with {fields.count} elements"

def readParts {types : List Type} (fields : Fields types) (label : String) (octet : UInt8)
    (tail : Bytes) : Except JsonError (Values types × Bytes) :=
  if octet = 0x7B then do
    let (slots, rest) ← fields.readMembers (Slots.empty types) true tail
    let values ← fields.complete slots
    .ok (values, rest)
  else fields.readInOrder (fields.lengthExpectation label) 0 tail

theorem length_of_readParts {types : List Type} {fields : Fields types} {label : String}
    {octet : UInt8} {tail rest : Bytes} {values : Values types}
    (read : fields.readParts label octet tail = .ok (values, rest)) :
    rest.length ≤ tail.length := by
  rw [readParts] at read
  split at read
  · obtain ⟨_, slots, read⟩ := bind_eq_ok.mp read
    obtain ⟨_, _, last⟩ := bind_eq_ok.mp read
    cases last
    exact length_of_readMembers slots
  · exact Nat.le_of_lt (length_of_readInOrder read)

end Fields

def Format.record {types : List Type} (label : String) (fields : Fields types) : Format (Values types) where
  write values := .object (fields.members values)
  reader :=
    Reader.startingWith (Fields.expectation label) (fun octet => octet == 0x7B || octet == 0x5B)
      (fields.readParts label) Fields.length_of_readParts

end Gazette.Json
