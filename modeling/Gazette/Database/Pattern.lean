import Gazette.Text.Utf8

/-!
# Patterns of text

* A pattern is text in which a percent sign stands for any characters and an underscore for any one, unless a
  backslash comes before it. `Pattern.accepts` tells whether a pattern fits a text.
* `Pattern.containing` is the pattern of all texts that contain a needle.

Text and pattern end at the first zero octet. Octets that are not UTF-8 are read as characters as well as they can be,
and upper and lower case are the same for the letters of ASCII.
-/

namespace Gazette.Database.Pattern

/-! ## Reading -/

def isTrailer (octet : UInt8) : Bool := octet &&& 0xC0 == 0x80

def leadingBits (octet : UInt8) : Nat :=
  if octet < 0xE0 then octet.toNat - 0xC0
  else if octet < 0xF0 then octet.toNat - 0xE0
  else if octet < 0xF8 then octet.toNat - 0xF0
  else if octet < 0xFC then octet.toNat - 0xF8
  else if octet < 0xFE then octet.toNat - 0xFC
  else 0

/-- The number of a character, counted modulo 2^32, after the octets that carry on from its first one. -/
def gather (bits : Nat) (trailers : Bytes) : Nat :=
  trailers.foldl (fun bits octet => (bits * 0x40 + (octet &&& 0x3F).toNat) % UInt32.size) bits

def replacement : Nat := 0xFFFD

/-- Numbers that stand for no character, or for one that fits in fewer octets, give way to one that does. -/
def settle (code : Nat) : Nat :=
  if code < 0x80 ∨ (0xD800 ≤ code ∧ code < 0xE000) ∨ code = 0xFFFE ∨ code = 0xFFFF then replacement
  else code

/-- The numbers of the characters up to the first zero octet. -/
def codes (octets : Bytes) : List Nat :=
  match octets with
  | [] => []
  | octet :: rest =>
    if octet = 0 then []
    else if octet < 0xC0 then octet.toNat :: codes rest
    else
      have := (List.dropWhile_sublist isTrailer (l := rest)).length_le
      settle (gather (leadingBits octet) (rest.takeWhile isTrailer)) :: codes (rest.dropWhile isTrailer)
termination_by octets.length
decreasing_by all_goals simp only [List.length_cons]; omega

/-! ## Matching -/

inductive Part
  | anyText
  | anyCharacter
  | exactly (code : Nat)
  deriving DecidableEq, Repr

/-- The parts of a pattern. A backslash with nothing after it makes none. -/
def parts? : List Nat → Option (List Part)
  | [] => some []
  | [0x5C] => none
  | 0x5C :: code :: rest => (parts? rest).map (.exactly code :: ·)
  | 0x25 :: rest => (parts? rest).map (.anyText :: ·)
  | 0x5F :: rest => (parts? rest).map (.anyCharacter :: ·)
  | code :: rest => (parts? rest).map (.exactly code :: ·)

def fold (code : Nat) : Nat := if 0x41 ≤ code ∧ code ≤ 0x5A then code + 0x20 else code

def suffixes {α : Type} : List α → List (List α)
  | [] => [[]]
  | a :: rest => (a :: rest) :: suffixes rest

def fits : List Part → List Nat → Bool
  | [], text => text.isEmpty
  | .anyText :: parts, text => (suffixes text).any (fits parts)
  | .anyCharacter :: parts, text =>
    match text with
    | [] => false
    | _ :: text => fits parts text
  | .exactly code :: parts, text =>
    match text with
    | [] => false
    | other :: text => fold code = fold other && fits parts text

def accepts (pattern text : Bytes) : Bool :=
  match parts? (codes pattern) with
  | some parts => fits parts (codes text)
  | none => false

/-! ## Writing -/

def escape (c : Char) : List Char := if c = '%' || c = '_' || c = '\\' then ['\\', c] else [c]

def containing (needle : String) : String := String.ofList ('%' :: needle.toList.flatMap escape ++ ['%'])

def maxLength : Nat := 50000

end Gazette.Database.Pattern
