import Gazette.Text.Digits
import Gazette.Time.Timestamp

/-!
# Writing moments

* `Timestamp.toRfc3339` is the form of RFC 3339, with as many digits of a second as lose nothing.
* `Timestamp.toColumn` is the same form with six digits always, so that the order of texts is the order of moments.
* `Timestamp.toText` is the form for people.

Years that do not have four digits have a sign.
-/

namespace Gazette

def Date.yearText (year : Int) : List Char :=
  if 0 ≤ year ∧ year ≤ 9999 then fixedDigits 4 year.toNat
  else (if year < 0 then '-' else '+') :: paddedDigits 4 year.natAbs

def Date.toText (date : Date) : List Char :=
  Date.yearText date.year ++ '-' :: fixedDigits 2 date.month ++ '-' :: fixedDigits 2 date.day

namespace ClockFace

def timeText (face : ClockFace) : List Char :=
  fixedDigits 2 face.hour ++ ':' :: fixedDigits 2 face.minute ++ ':' :: fixedDigits 2 face.second

/-- The fraction of a second in three, six or nine digits, the fewest that lose nothing, or in none. -/
def fractionText (face : ClockFace) : List Char :=
  if face.nano = 0 then []
  else if face.nano % 1000000 = 0 then '.' :: fixedDigits 3 (face.nano / 1000000)
  else if face.nano % 1000 = 0 then '.' :: fixedDigits 6 (face.nano / 1000)
  else '.' :: fixedDigits 9 face.nano

end ClockFace

namespace Timestamp

def toRfc3339 (t : Timestamp) : String :=
  let face := t.face
  String.ofList (face.date.toText ++ 'T' :: face.timeText ++ face.fractionText ++ ['Z'])

def toColumn (t : Timestamp) : String :=
  let face := t.face
  String.ofList
    (face.date.toText ++ 'T' :: face.timeText ++ '.' :: fixedDigits 6 (face.nano / 1000) ++ ['Z'])

def toText (t : Timestamp) : String :=
  let face := t.face
  String.ofList
    (face.date.toText ++ ' ' :: face.timeText ++ face.fractionText ++ [' ', 'U', 'T', 'C'])

end Timestamp

end Gazette
