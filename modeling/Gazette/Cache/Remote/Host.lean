import Gazette.Text.Digits

/-!
# Hosts

`isHost` tells which texts may stand for a host in the URL of a server: names without certain characters, and
addresses of eight groups in brackets.
-/

namespace Gazette.ServerUrl

/-! ## Addresses -/

def isGroup (text : List Char) : Bool := !text.isEmpty && text.length ≤ 4 && text.all isHexDigit

def isDecimalOctet (text : List Char) : Bool :=
  (natural? text).any fun n => n < 256 && text = decimal n

def isDotted (text : List Char) : Bool :=
  let parts := text.splitOn '.'
  parts.length = 4 && parts.all isDecimalOctet

/-- The number of groups with colons between them, if they are groups. Numbers with points may end an address. -/
def countGroups? (endsAddress : Bool) : List (List Char) → Option Nat
  | [] => some 0
  | [part] => if isGroup part then some 1 else if endsAddress && isDotted part then some 2 else none
  | part :: rest => if isGroup part then (countGroups? endsAddress rest).map (· + 1) else none

def groupCount? (endsAddress : Bool) (text : List Char) : Option Nat :=
  if text.isEmpty then some 0 else countGroups? endsAddress (text.splitOn ':')

def splitGap : List Char → Option (List Char × List Char)
  | [] => none
  | ':' :: ':' :: rest => some ([], rest)
  | c :: rest => (splitGap rest).map fun (before, after) => (c :: before, after)

/-- An address: eight groups, or fewer with a gap between them. -/
def isAddress (text : List Char) : Bool :=
  match splitGap text with
  | none => groupCount? true text = some 8
  | some (before, after) =>
    match groupCount? false before, groupCount? true after with
    | some m, some n => m + n < 8
    | _, _ => false

/-! ## Hosts -/

def isForbiddenInName (c : Char) : Bool :=
  c.toNat = 0 || c = ' ' || c = '<' || c = '>' || c = '[' || c = '\\' || c = ']' || c = '^' || c = '|'

def isHost (host : List Char) : Bool :=
  match host with
  | '[' :: rest => rest.getLast? = some ']' && isAddress rest.dropLast
  | _ => !host.any isForbiddenInName

end Gazette.ServerUrl
