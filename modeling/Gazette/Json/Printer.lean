import Gazette.Text.Digits

/-!
# Writing JSON

* `Json` is a JSON value. An object keeps its members in the order given.
* `Json.compact` writes a value without blanks, `Json.indented` with a line for every item and member.
-/

namespace Gazette

inductive Json
  | null
  | flag (value : Bool)
  | number (value : Nat)
  | text (value : String)
  | list (items : List Json)
  | object (members : List (String × Json))

namespace Json

/-! ## Strings -/

/-- Quotes, backslashes and controls are escaped, the common controls by a letter. All else stands as it is. -/
def escape (c : Char) : List Char :=
  if c = '"' then ['\\', '"']
  else if c = '\\' then ['\\', '\\']
  else if 0x20 ≤ c.toNat then [c]
  else if c.toNat = 0x8 then ['\\', 'b']
  else if c.toNat = 0x9 then ['\\', 't']
  else if c.toNat = 0xA then ['\\', 'n']
  else if c.toNat = 0xC then ['\\', 'f']
  else if c.toNat = 0xD then ['\\', 'r']
  else ['\\', 'u'] ++ fixedHex 4 c.toNat

def quote (value : String) : List Char := '"' :: value.toList.flatMap escape ++ ['"']

def flagText (value : Bool) : List Char :=
  if value then ['t', 'r', 'u', 'e'] else ['f', 'a', 'l', 's', 'e']

def nullText : List Char := ['n', 'u', 'l', 'l']

/-! ## Without blanks -/

mutual

def compactText : Json → List Char
  | null => nullText
  | flag value => flagText value
  | number value => decimal value
  | text value => quote value
  | list items => '[' :: compactItems items ++ [']']
  | object members => '\x7b' :: compactMembers members ++ ['\x7d']

def compactItems : List Json → List Char
  | [] => []
  | [item] => compactText item
  | item :: items => compactText item ++ ',' :: compactItems items

def compactMembers : List (String × Json) → List Char
  | [] => []
  | [(key, value)] => quote key ++ ':' :: compactText value
  | (key, value) :: members => quote key ++ ':' :: compactText value ++ ',' :: compactMembers members

end

def compact (value : Json) : String := String.ofList value.compactText

/-! ## With a line for every part -/

def newline (depth : Nat) : List Char := '\n' :: List.replicate (2 * depth) ' '

mutual

def indentedText (depth : Nat) : Json → List Char
  | null => nullText
  | flag value => flagText value
  | number value => decimal value
  | text value => quote value
  | list [] => ['[', ']']
  | list (item :: items) =>
    '[' :: newline (depth + 1) ++ indentedText (depth + 1) item ++ indentedItems (depth + 1) items
      ++ newline depth ++ [']']
  | object [] => ['\x7b', '\x7d']
  | object ((key, value) :: members) =>
    '\x7b' :: newline (depth + 1) ++ quote key ++ ':' :: ' ' :: indentedText (depth + 1) value
      ++ indentedMembers (depth + 1) members ++ newline depth ++ ['\x7d']

def indentedItems (depth : Nat) : List Json → List Char
  | [] => []
  | item :: items => ',' :: newline depth ++ indentedText depth item ++ indentedItems depth items

def indentedMembers (depth : Nat) : List (String × Json) → List Char
  | [] => []
  | (key, value) :: members =>
    ',' :: newline depth ++ quote key ++ ':' :: ' ' :: indentedText depth value
      ++ indentedMembers depth members

end

def indented (value : Json) : String := String.ofList (value.indentedText 0)

end Json

end Gazette
