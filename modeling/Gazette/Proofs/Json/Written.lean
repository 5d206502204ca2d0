import Gazette.Json.Number
import Gazette.Proofs.Json.Text

/-!
# Texts of JSON values

* `Written value octets`: the octets are a text of the value, in which blanks may stand between parts.
* `written_compact`, `written_indented`: what `Json.compact` and `Json.indented` write are texts of the value.
-/

namespace Gazette.Json

/-! ## Blanks -/

def Blanks (octets : Bytes) : Prop := ∀ octet ∈ octets, isBlankOctet octet = true

theorem blanks_nil : Blanks [] := nofun

theorem skipBlankOctets_append {blanks octets : Bytes} (allBlank : Blanks blanks) :
    skipBlankOctets (blanks ++ octets) = skipBlankOctets octets := by
  induction blanks with
  | nil => rfl
  | cons octet blanks inductionHypothesis =>
    rw [List.cons_append, skipBlankOctets, if_pos (allBlank octet List.mem_cons_self)]
    exact inductionHypothesis fun other member => allBlank other (List.mem_cons_of_mem octet member)

theorem skipBlankOctets_cons {octet : UInt8} {rest : Bytes} (notBlank : isBlankOctet octet = false) :
    skipBlankOctets (octet :: rest) = octet :: rest := by
  rw [skipBlankOctets, if_neg (by simp [notBlank])]

theorem skipBlankOctets_to (octet : UInt8) (rest : Bytes) {blanks : Bytes} (allBlank : Blanks blanks)
    (notBlank : isBlankOctet octet = false) : skipBlankOctets (blanks ++ octet :: rest) = octet :: rest := by
  rw [skipBlankOctets_append allBlank, skipBlankOctets_cons notBlank]

theorem skipBlankOctets_eq_nil {octets : Bytes} : skipBlankOctets octets = [] ↔ Blanks octets := by
  induction octets with
  | nil => exact ⟨fun _ => blanks_nil, fun _ => rfl⟩
  | cons octet octets inductionHypothesis =>
    rw [skipBlankOctets, Blanks, List.forall_mem_cons]
    by_cases blank : isBlankOctet octet = true
    · rw [if_pos blank, inductionHypothesis]
      exact ⟨fun others => ⟨blank, others⟩, And.right⟩
    · rw [if_neg blank]
      constructor
      · intro same
        cases same
      · exact fun all => absurd all.1 blank

/-! ## Texts of values -/

def octetsOf (text : List Char) : Bytes := text.flatMap Utf8.encodeChar

@[simp] theorem octetsOf_append (left right : List Char) : octetsOf (left ++ right) = octetsOf left ++ octetsOf right :=
  List.flatMap_append

mutual

inductive Written : Json → Bytes → Prop
  | null : Written .null (octetsOf nullText)
  | flag (value : Bool) : Written (.flag value) (octetsOf (flagText value))
  | number (value : Nat) : Written (.number value) (octetsOf (decimal value))
  | text (value : String) : Written (.text value) (octetsOf (quote value))
  | list {items : List Json} {octets : Bytes} (parts : WrittenItems true items octets) :
    Written (.list items) (0x5B :: octets)
  | object {members : List (String × Json)} {octets : Bytes} (parts : WrittenMembers true members octets) :
    Written (.object members) (0x7B :: octets)

inductive WrittenItems : Bool → List Json → Bytes → Prop
  | nil {first : Bool} {blanks : Bytes} (allBlank : Blanks blanks) : WrittenItems first [] (blanks ++ [0x5D])
  | cons {item : Json} {items : List Json} {blanks octets others : Bytes} (allBlank : Blanks blanks)
    (value : Written item octets) (more : WrittenItems false items others) :
    WrittenItems true (item :: items) (blanks ++ (octets ++ others))
  | comma {item : Json} {items : List Json} {blanks octets : Bytes} (allBlank : Blanks blanks)
    (parts : WrittenItems true (item :: items) octets) :
    WrittenItems false (item :: items) (blanks ++ 0x2C :: octets)

inductive WrittenMembers : Bool → List (String × Json) → Bytes → Prop
  | nil {first : Bool} {blanks : Bytes} (allBlank : Blanks blanks) : WrittenMembers first [] (blanks ++ [0x7D])
  | cons (key : String) {item : Json} {members : List (String × Json)} {blanks : Bytes} {beforeColon : Bytes}
    {afterColon : Bytes} {octets others : Bytes} (allBlank : Blanks blanks) (blankBefore : Blanks beforeColon)
    (blankAfter : Blanks afterColon) (value : Written item octets) (more : WrittenMembers false members others) :
    WrittenMembers true ((key, item) :: members)
      (blanks ++ (octetsOf (quote key) ++ (beforeColon ++ 0x3A :: (afterColon ++ (octets ++ others)))))
  | comma {member : String × Json} {members : List (String × Json)} {blanks octets : Bytes}
    (allBlank : Blanks blanks) (parts : WrittenMembers true (member :: members) octets) :
    WrittenMembers false (member :: members) (blanks ++ 0x2C :: octets)

end

/-! ## Texts without blanks -/

theorem WrittenItems.plain {item : Json} {items : List Json} {octets others : Bytes} (value : Written item octets)
    (more : WrittenItems false items others) : WrittenItems true (item :: items) (octets ++ others) := by
  have parts := WrittenItems.cons blanks_nil value more
  exact parts

theorem WrittenItems.afterComma {item : Json} {items : List Json} {octets : Bytes}
    (parts : WrittenItems true (item :: items) octets) : WrittenItems false (item :: items) (0x2C :: octets) :=
  .comma blanks_nil parts

theorem WrittenMembers.plain {key : String} {item : Json} {members : List (String × Json)} {octets others : Bytes}
    (value : Written item octets) (more : WrittenMembers false members others) :
    WrittenMembers true ((key, item) :: members) (octetsOf (quote key) ++ 0x3A :: (octets ++ others)) := by
  have parts := WrittenMembers.cons key blanks_nil blanks_nil blanks_nil value more
  exact parts

theorem WrittenMembers.afterComma {member : String × Json} {members : List (String × Json)} {octets : Bytes}
    (parts : WrittenMembers true (member :: members) octets) :
    WrittenMembers false (member :: members) (0x2C :: octets) :=
  .comma blanks_nil parts

-- The octets of the marks between parts.
theorem octetsOf_mark {c : Char} {octet : UInt8} {text : List Char} (mark : Utf8.encodeChar c = [octet]) :
    octetsOf (c :: text) = octet :: octetsOf text := by
  rw [octetsOf, List.flatMap_cons, mark]
  rfl

@[simp] theorem octetsOf_comma (text : List Char) : octetsOf (',' :: text) = 0x2C :: octetsOf text := octetsOf_mark rfl

@[simp] theorem octetsOf_colon (text : List Char) : octetsOf (':' :: text) = 0x3A :: octetsOf text := octetsOf_mark rfl

@[simp] theorem octetsOf_bracket (text : List Char) : octetsOf ('[' :: text) = 0x5B :: octetsOf text :=
  octetsOf_mark rfl

@[simp] theorem octetsOf_brace (text : List Char) : octetsOf ('\x7b' :: text) = 0x7B :: octetsOf text :=
  octetsOf_mark rfl

mutual

theorem written_compactText : (value : Json) → Written value (octetsOf value.compactText)
  | .null => .null
  | .flag value => .flag value
  | .number value => .number value
  | .text value => .text value
  | .list items => by
    rw [compactText, List.cons_append, octetsOf_bracket, octetsOf_append]
    exact .list (written_compactItems items)
  | .object members => by
    rw [compactText, List.cons_append, octetsOf_brace, octetsOf_append]
    exact .object (written_compactMembers members)

theorem written_compactItems : (items : List Json) →
    WrittenItems true items (octetsOf (compactItems items) ++ octetsOf [']'])
  | [] => .nil blanks_nil
  | [item] => by
    rw [compactItems]
    exact .plain (written_compactText item) (.nil blanks_nil)
  | item :: next :: items => by
    rw [compactItems, octetsOf_append, octetsOf_comma, List.append_assoc, List.cons_append]
    exact .plain (written_compactText item) (.afterComma (written_compactItems (next :: items)))
    all_goals simp

theorem written_compactMembers : (members : List (String × Json)) →
    WrittenMembers true members (octetsOf (compactMembers members) ++ octetsOf ['\x7d'])
  | [] => .nil blanks_nil
  | [(key, value)] => by
    rw [compactMembers, octetsOf_append, octetsOf_colon, List.append_assoc, List.cons_append]
    exact .plain (written_compactText value) (.nil blanks_nil)
  | (key, value) :: next :: members => by
    rw [compactMembers, octetsOf_append, octetsOf_append, octetsOf_colon, octetsOf_comma, List.append_assoc,
      List.append_assoc, List.cons_append, List.cons_append]
    exact .plain (written_compactText value)
      (.afterComma (written_compactMembers (next :: members)))
    all_goals simp

end

theorem written_compact (value : Json) : Written value (Utf8.encode value.compact) := by
  rw [compact, Utf8.encode_ofList]
  exact written_compactText value

/-! ## Texts with a line for every part -/

theorem octetsOf_newline (depth : Nat) : octetsOf (newline depth) = 0x0A :: List.replicate (2 * depth) 0x20 := by
  have lineFeed : Utf8.encodeChar '\n' = [0x0A] := by decide
  have space : Utf8.encodeChar ' ' = [0x20] := by decide
  have spaces (count : Nat) : octetsOf (List.replicate count ' ') = List.replicate count 0x20 := by
    induction count with
    | zero => rfl
    | succ count inductionHypothesis =>
      rw [List.replicate_succ, octetsOf_mark space, inductionHypothesis, List.replicate_succ]
  rw [newline, octetsOf_mark lineFeed, spaces]

theorem blanks_newline (depth : Nat) : Blanks (octetsOf (newline depth)) := by
  rw [octetsOf_newline]
  intro octet member
  rcases List.mem_cons.mp member with rfl | space
  · rfl
  · rw [List.eq_of_mem_replicate space]
    rfl

theorem octetsOf_space (text : List Char) : octetsOf (' ' :: text) = 0x20 :: octetsOf text := octetsOf_mark (by decide)

theorem blanks_space : Blanks [0x20] := by
  intro octet member
  rw [List.mem_singleton.mp member]
  rfl

-- The closing bracket stands on a line of its own, at the depth of the opening one.
mutual

theorem written_indentedText : (depth : Nat) → (value : Json) → Written value (octetsOf (value.indentedText depth))
  | _, .null => by
    rw [indentedText]
    exact .null
  | _, .flag value => by
    rw [indentedText]
    exact .flag value
  | _, .number value => by
    rw [indentedText]
    exact .number value
  | _, .text value => by
    rw [indentedText]
    exact .text value
  | _, .list [] => .list (.nil blanks_nil)
  | depth, .list (item :: items) => by
    have parts := WrittenItems.cons (blanks_newline (depth + 1)) (written_indentedText (depth + 1) item)
      (written_indentedItems depth items)
    simp only [indentedText, List.cons_append, octetsOf_bracket, octetsOf_append, List.append_assoc]
    exact .list parts
  | _, .object [] => .object (.nil blanks_nil)
  | depth, .object ((key, value) :: members) => by
    have parts := WrittenMembers.cons key (blanks_newline (depth + 1)) blanks_nil blanks_space
      (written_indentedText (depth + 1) value) (written_indentedMembers depth members)
    simp only [indentedText, List.cons_append, octetsOf_brace, octetsOf_append, octetsOf_colon, octetsOf_space,
      List.append_assoc]
    exact .object parts

theorem written_indentedItems : (depth : Nat) → (items : List Json) →
    WrittenItems false items (octetsOf (indentedItems (depth + 1) items) ++ (octetsOf (newline depth) ++ octetsOf [']']))
  | depth, [] => by
    rw [indentedItems]
    exact .nil (blanks_newline depth)
  | depth, item :: items => by
    have parts := WrittenItems.cons (blanks_newline (depth + 1)) (written_indentedText (depth + 1) item)
      (written_indentedItems depth items)
    simp only [indentedItems, List.cons_append, octetsOf_comma, octetsOf_append, List.append_assoc]
    exact .afterComma parts

theorem written_indentedMembers : (depth : Nat) → (members : List (String × Json)) →
    WrittenMembers false members
      (octetsOf (indentedMembers (depth + 1) members) ++ (octetsOf (newline depth) ++ octetsOf ['\x7d']))
  | depth, [] => by
    rw [indentedMembers]
    exact .nil (blanks_newline depth)
  | depth, (key, value) :: members => by
    have parts := WrittenMembers.cons key (blanks_newline (depth + 1)) blanks_nil blanks_space
      (written_indentedText (depth + 1) value) (written_indentedMembers depth members)
    simp only [indentedMembers, List.cons_append, octetsOf_comma, octetsOf_append, octetsOf_colon, octetsOf_space,
      List.append_assoc]
    exact .afterComma parts

end

theorem written_indented (value : Json) : Written value (Utf8.encode value.indented) := by
  rw [indented, Utf8.encode_ofList]
  exact written_indentedText 0 value

end Gazette.Json
