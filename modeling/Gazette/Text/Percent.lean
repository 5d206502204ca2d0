import Gazette.Text.Digits
import Gazette.Text.Utf8

/-!
# Percent signs for octets

* `Percent.decode` reads a text in which a percent sign and two hexadecimal digits stand for an octet. A percent
  sign without digits stands for itself.
* `Percent.decodePairs` reads names with values, which are parted by ampersands.
-/

namespace Gazette.Percent

def decode : List Char → Bytes
  | '%' :: high :: low :: rest =>
    match hexValue? high, hexValue? low with
    | some high, some low => (high * 16 + low).toUInt8 :: decode rest
    | _, _ => 0x25 :: decode (high :: low :: rest)
  | c :: rest => Utf8.encodeChar c ++ decode rest
  | [] => []

def splitAtFirst (stops : Char → Bool) (text : List Char) : List Char × List Char :=
  (text.takeWhile fun c => !stops c, text.dropWhile fun c => !stops c)

def decodePart (text : List Char) : Bytes := decode (text.map fun c => if c = '+' then ' ' else c)

def decodePair (text : List Char) : Bytes × Bytes :=
  let (name, value) := splitAtFirst (· = '=') text
  (decodePart name, decodePart (value.drop 1))

def decodePairs (text : List Char) : List (Bytes × Bytes) :=
  ((text.splitOn '&').filter fun pair => !pair.isEmpty).map decodePair

end Gazette.Percent
