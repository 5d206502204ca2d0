import Gazette.Text.Case
import Gazette.Text.Digits
import Gazette.Text.Quoted.Table

/-!
# Quoted texts

`Quoted.quote` shows a text between double quotes so that every character can be told: quotes, backslashes and
common controls have short escapes, and characters that would not show have their code in hexadecimal.
-/

namespace Gazette.Quoted

/-- A character that shows as itself. The space is the only blank that does. -/
def isShown (c : Char) : Bool :=
  if 0x20 ≤ c.toNat && c.toNat ≤ 0x7E then true
  else !(inRanges hiddenRanges c.toNat || inRanges extendingRanges c.toNat)

def escapeCode (c : Char) : List Char :=
  ['\\', 'u', '\x7b'] ++ Nat.toDigits 16 c.toNat ++ ['\x7d']

def escape (c : Char) : List Char :=
  if c.toNat = 0 then ['\\', '0']
  else if c = '\t' then ['\\', 't']
  else if c = '\r' then ['\\', 'r']
  else if c = '\n' then ['\\', 'n']
  else if c = '"' || c = '\\' then ['\\', c]
  else if isShown c then [c]
  else escapeCode c

def quote (text : String) : String :=
  String.ofList ('"' :: text.toList.flatMap escape ++ ['"'])

end Gazette.Quoted
