import Gazette.Uuid.Basic

/-!
# Reading identifiers

`Uuid.parse` reads 32 hexadecimal digits, the same in five groups with hyphens between them, and the grouped form
in braces or after the marker `urn:uuid:`. `Uuid.diagnose` says what is wrong with any other text: its
length, its first character that cannot stand in an identifier, the number of its groups, or the first group of
the wrong length.
-/

namespace Gazette.Uuid

inductive ParseError
  | length (octets : Nat)
  | character (found : Char) (index : Nat)
  | groupCount (found : Nat)
  | groupLength (group expected found : Nat)
  deriving DecidableEq, Repr

def ParseError.message : ParseError → String
  | .length octets => s!"invalid length: found {octets}"
  | .character found index => s!"invalid character: found `{found}` at {index}"
  | .groupCount found => s!"invalid group count: expected 5, found {found}"
  | .groupLength group expected found =>
    s!"invalid group length in group {group}: expected {expected}, found {found}"

/-! ## Forms -/

def ofDigits? (digits : List Char) : Option Uuid :=
  if digits.length = 32 then
    (readDigits hexValue? 16 0 digits).map fun n => ⟨BitVec.ofNat 128 n⟩
  else none

def ungroup? (text : List Char) : Option (List Char) :=
  let digits := text.filter (· ≠ '-')
  if hyphenate digits = text then some digits else none

def ofGroups? (text : List Char) : Option Uuid := (ungroup? text).bind ofDigits?

def octetCount (text : List Char) : Nat := text.foldl (fun n c => n + c.utf8Size) 0

def groupedOctets : Nat := 36

def marker : List Char := ['u', 'r', 'n', ':', 'u', 'u', 'i', 'd', ':']

def unbrace? : List Char → Option (List Char)
  | '\x7b' :: text => if text.getLast? = some '\x7d' then some text.dropLast else none
  | _ => none

def unmark? (text : List Char) : Option (List Char) :=
  if (text.take 9).map Char.toLower = marker then some (text.drop 9) else none

/-- The grouped form, if the text has its length or is a wrapper around a text of its length. -/
def groupedPart? (text : List Char) : Option (List Char) :=
  if octetCount text = groupedOctets then some text
  else if octetCount text = 38 then unbrace? text
  else if octetCount text = 45 then unmark? text
  else none

/-! ## What is wrong with a text -/

def firstStray? (index : Nat) : List Char → Option (Char × Nat)
  | [] => none
  | c :: rest =>
    if c = '-' || isHexDigit c then firstStray? (index + c.utf8Size) rest else some (c, index)

def hyphens (index : Nat) : List Char → List Nat
  | [] => []
  | c :: rest => (if c = '-' then [index] else []) ++ hyphens (index + 1) rest

/-- Where the groups but the last begin, how long they are, and where the hyphens after them stand. -/
def misplaced? (group start : Nat) : List Nat → List Nat → Option ParseError
  | expected :: lengths, found :: places =>
    if found = start + expected then misplaced? (group + 1) (found + 1) lengths places
    else some (.groupLength group expected (found - start))
  | _, _ => none

/-- What a wrapper holds, and how many octets of the wrapper stand before it. A text of the grouped form's length has
none, whatever it begins with. -/
def splitWrapper (text : List Char) : List Char × Nat :=
  if octetCount text = groupedOctets then (text, 0)
  else
    match unbrace? text, unmark? text with
    | some body, _ => (body, 1)
    | none, some body => (body, 9)
    | none, none => (text, 0)

/-- Why a text is no identifier. A wrapper is set aside, though indexes and lengths still count it. -/
def diagnose (text : List Char) : ParseError :=
  let (body, wrapper) := splitWrapper text
  match firstStray? wrapper body with
  | some (c, index) => .character c index
  | none =>
    let places := hyphens 0 body
    if places.isEmpty && wrapper == 0 && octetCount text ≠ groupedOctets then .length (octetCount text)
    else if places.length ≠ 4 then .groupCount (places.length + 1)
    else (misplaced? 0 0 [8, 4, 4, 4] places).getD (.groupLength 4 12 (octetCount text - 24))

def parse (text : String) : Except ParseError Uuid :=
  let chars := text.toList
  let octets := octetCount chars
  if octets = 0 || 45 < octets then .error (.length octets)
  else if octets = 32 then
    match ofDigits? chars with
    | some id => .ok id
    | none => .error (diagnose chars)
  else
    match groupedPart? chars with
    | some part =>
      match ofGroups? part with
      | some id => .ok id
      | none => .error (diagnose part)
    | none => .error (diagnose chars)

end Gazette.Uuid
