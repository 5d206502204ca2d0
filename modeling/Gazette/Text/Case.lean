import Gazette.Text.Case.Table

/-!
# Lower-casing

`Case.toLower` gives every character its full lower-case form. A capital sigma depends on its neighbours: at the
end of a word it becomes a final sigma.
-/

namespace Gazette

def inRanges (ranges : List (Nat × Nat)) (code : Nat) : Bool :=
  ranges.any fun range => range.1 ≤ code && code ≤ range.2

namespace Case

def isCased (c : Char) : Bool := inRanges casedRanges c.toNat

def isIgnorable (c : Char) : Bool := inRanges ignorableRanges c.toNat

def Mapping.covers (mapping : Mapping) (code : Nat) : Bool :=
  mapping.first ≤ code && code ≤ mapping.last && (code - mapping.first) % mapping.step == 0

/-- The lower-case form of a character that does not depend on its neighbours. One character alone, the capital
I with a dot, has a form of two characters. -/
def lowerChar (c : Char) : List Char :=
  if c.toNat < 0x80 then [c.toLower]
  else if c.toNat = 0x130 then ['i', Char.ofNat 0x307]
  else
    match lowerMappings.find? (·.covers c.toNat) with
    | some mapping => [Char.ofNat (c.toNat + mapping.shift).toNat]
    | none => [c]

/-- Whether the nearest character that is not ignorable is cased. -/
def cased : List Char → Bool
  | [] => false
  | c :: rest => if isIgnorable c then cased rest else isCased c

def capitalSigma : Char := Char.ofNat 0x3A3

def smallSigma : Char := Char.ofNat 0x3C3

def finalSigma : Char := Char.ofNat 0x3C2

/-- A capital sigma ends a word when a cased character stands before it and none after it. -/
def lowerSigma (before after : List Char) : Char :=
  if cased before && !cased after then finalSigma else smallSigma

def lowerAfter (before : List Char) : List Char → List Char
  | [] => []
  | c :: after =>
    (if c = capitalSigma then [lowerSigma before after] else lowerChar c) ++ lowerAfter (c :: before) after

def toLower (text : String) : List Char := lowerAfter [] text.toList

end Case

end Gazette
