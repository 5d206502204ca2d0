import Gazette.Decimal.Significant
import Gazette.Text.Utf8

/-!
# Values in a database

* `Value` is what a query may find in a column: text is octets that need not be UTF-8.
* `Cell` is what a column of text can keep. `Value.toCell` turns numbers into text.
* `Cell.compare` is the order in which rows are sorted.
-/

namespace Gazette.Database

inductive Value
  | null
  | integer (value : Int)
  | real (isNegative : Bool) (magnitude : Binary64)
  | text (octets : Bytes)
  | blob (octets : Bytes)
  deriving DecidableEq, Repr

def Value.kind : Value → String
  | null => "Null"
  | integer _ => "Integer"
  | real _ _ => "Real"
  | text _ => "Text"
  | blob _ => "Blob"

inductive Cell
  | null
  | text (octets : Bytes)
  | blob (octets : Bytes)
  deriving DecidableEq, Repr

namespace Cell

def ofString (text : String) : Cell := .text (Utf8.encode text)

def toValue : Cell → Value
  | null => .null
  | text octets => .text octets
  | blob octets => .blob octets

def octets : Cell → Bytes
  | null => []
  | text octets => octets
  | blob octets => octets

def rank : Cell → Nat
  | null => 0
  | text _ => 1
  | blob _ => 2

def compare (left right : Cell) : Ordering :=
  (Ord.compare left.rank right.rank).then (Ord.compare left.octets right.octets)

/-- Whether two cells hold the same. Nothing is the same as nothing. -/
def same (left right : Cell) : Bool := left != null && left = right

end Cell

def signedText (isNegative : Bool) (digits : List Char) : Bytes :=
  Utf8.encode (String.ofList (if isNegative then '-' :: digits else digits))

def Value.toCell : Value → Cell
  | null => .null
  | integer value => .text (signedText (value < 0) (decimal value.natAbs))
  | real isNegative magnitude => .text (signedText isNegative magnitude.toRoundedText)
  | text octets => .text octets
  | blob octets => .blob octets

end Gazette.Database
