import Gazette.Text.Digits
import Gazette.Time.Timestamp

/-!
# Reading moments

* `Timestamp.parseStrict` reads RFC 3339: two digits to a field, four to a year, any number to a fraction.
* `Timestamp.parseRelaxed` also takes fewer digits, blanks between fields, years with a sign, and the offset
  without its colon or as the name UTC.

Both take 60 seconds in any minute for a leap second, and give the moment in UTC. An error is the first one found
from left to right, except that a day which its month lacks, in the relaxed form, and an offset of a day or more are
found when the whole text is read.
-/

namespace Gazette

inductive TimeError
  | tooShort
  | invalid
  | outOfRange
  | tooLong
  | impossible
  deriving DecidableEq, Repr

def TimeError.message : TimeError → String
  | .tooShort => "premature end of input"
  | .invalid => "input contains invalid characters"
  | .outOfRange => "input is out of range"
  | .tooLong => "trailing input"
  | .impossible => "no possible date and time matching input"

/-- The property `White_Space` of the Unicode Character Database. -/
def isBlank (c : Char) : Bool :=
  let code := c.toNat
  (0x9 ≤ code && code ≤ 0xD) || code == 0x20 || code == 0x85 || code == 0xA0 || code == 0x1680
    || (0x2000 ≤ code && code ≤ 0x200A) || code == 0x2028 || code == 0x2029 || code == 0x202F
    || code == 0x205F || code == 0x3000

def skipBlanks (text : List Char) : List Char := text.dropWhile isBlank

namespace Timestamp

/-! ## Fields -/

def numberLimit : Nat := 0x8000000000000000

def readNumberAfter (started : Bool) (sofar : Nat) : Nat → List Char → Except TimeError (Nat × List Char)
  | 0, text => .ok (sofar, text)
  | room + 1, text =>
    match text with
    | [] => if started then .ok (sofar, []) else .error .tooShort
    | c :: rest =>
      match digitValue? c with
      | none => if started then .ok (sofar, c :: rest) else .error .invalid
      | some digit =>
        let next := sofar * 10 + digit
        if next < numberLimit then readNumberAfter true next room rest else .error .outOfRange

def readNumber (room : Nat) (text : List Char) : Except TimeError (Nat × List Char) :=
  readNumberAfter false 0 room text

def readField (low high room : Nat) (text : List Char) : Except TimeError (Nat × List Char) := do
  let (n, rest) ← readNumber room text
  if low ≤ n ∧ n ≤ high then .ok (n, rest) else .error .outOfRange

def expect (c : Char) : List Char → Except TimeError (List Char)
  | [] => .error .tooShort
  | found :: rest => if found = c then .ok rest else .error .invalid

/-- The `T` between date and time, for which a space may stand. -/
def expectSeparator : List Char → Except TimeError (List Char)
  | [] => .error .tooShort
  | found :: rest => if found = 'T' ∨ found = 't' ∨ found = ' ' then .ok rest else .error .invalid

/-- The digits of a fraction as nanoseconds. Digits after the ninth are passed over. -/
def readFraction (text : List Char) : Except TimeError (Nat × List Char) := do
  let (n, rest) ← readNumber 9 text
  let used := text.length - rest.length
  .ok (n * Nat.pow 10 (9 - used), rest.dropWhile fun c => (digitValue? c).isSome)

def readOptionalFraction : List Char → Except TimeError (Nat × List Char)
  | '.' :: text => readFraction text
  | text => .ok (0, text)

/-! ## Offsets -/

/-- Two digits, before their values are looked at. A character of several octets is never one, nor ends a text too
early. -/
def twoDigits : List Char → Except TimeError (Option (Nat × Nat) × List Char)
  | [] => .error .tooShort
  | [c] => if c.utf8Size = 1 then .error .tooShort else .ok (none, [])
  | a :: b :: rest =>
    match digitValue? a, digitValue? b with
    | some high, some low => .ok (some (high, low), rest)
    | _, _ => .ok (none, rest)

/-- A sign and whether it makes an offset negative. The mathematical minus will do. -/
def readSign : List Char → Except TimeError (Bool × List Char)
  | [] => .error .tooShort
  | c :: rest =>
    if c = '+' then .ok (false, rest)
    else if c = '-' ∨ c = Char.ofNat 0x2212 then .ok (true, rest)
    else .error .invalid

/-- An offset from UTC in seconds: `Z`, or a sign, hours and minutes with `between` taking what parts them. -/
def readOffset (between : List Char → Except TimeError (List Char)) (text : List Char) :
    Except TimeError (Int × List Char) :=
  match text with
  | 'Z' :: rest => .ok (0, rest)
  | 'z' :: rest => .ok (0, rest)
  | _ => do
    let (negative, text) ← readSign text
    let (hours, text) ← twoDigits text
    match hours with
    | none => .error .invalid
    | some (h1, h2) =>
      let text ← between text
      let (minutes, text) ← twoDigits text
      match minutes with
      | none => .error .invalid
      | some (m1, m2) =>
        if 5 < m1 then .error .outOfRange
        else
          let seconds : Int := (h1 * 10 + h2) * 3600 + (m1 * 10 + m2) * 60
          .ok (if negative then -seconds else seconds, text)

/-! ## Moments -/

/-- The moment that a face shows in a place `offset` seconds ahead of UTC. -/
def ofFace (face : ClockFace) (offset : Int) : Except TimeError Timestamp :=
  if face.date.IsValid ∧ -262143 ≤ face.date.year ∧ face.date.year ≤ 262142 ∧ offset.natAbs < 86400 then
    match ofParts? (face.plainSecond - offset) face.plainNano with
    | some t => .ok t
    | none => .error .impossible
  else .error .outOfRange

def exactNumber (digits : List Char) : Except TimeError Nat :=
  match natural? digits with
  | none => .error .invalid
  | some n => .ok n

def readDate : List Char → Except TimeError (Date × List Char)
  | y1 :: y2 :: y3 :: y4 :: '-' :: m1 :: m2 :: '-' :: d1 :: d2 :: rest => do
    let year ← exactNumber [y1, y2, y3, y4]
    let month ← exactNumber [m1, m2]
    let day ← exactNumber [d1, d2]
    let date : Date := ⟨year, month, day⟩
    if date.IsValid then .ok (date, rest) else .error .outOfRange
  | _ => .error .invalid

def readTime : List Char → Except TimeError ((Nat × Nat × Nat) × List Char)
  | h1 :: h2 :: ':' :: n1 :: n2 :: ':' :: s1 :: s2 :: rest => do
    let hour ← exactNumber [h1, h2]
    let minute ← exactNumber [n1, n2]
    let second ← exactNumber [s1, s2]
    .ok ((hour, minute, second), rest)
  | _ => .error .invalid

/-- Reads the form of RFC 3339. A text too short for date and time is short before anything else. The date is looked up
in the calendar before the time is read, the time compared with a clock's before the offset is. -/
def parseStrict (input : String) : Except TimeError Timestamp :=
  if input.utf8ByteSize < 19 then .error .tooShort
  else do
    let (date, text) ← readDate input.toList
    let text ← expectSeparator text
    let ((hour, minute, second), text) ← readTime text
    let (nano, text) ← readOptionalFraction text
    if 23 < hour ∨ 59 < minute ∨ 60 < second then .error .outOfRange
    else
      let (offset, text) ← readOffset (expect ':') text
      if text ≠ [] then .error .tooLong
      else ofFace ⟨date, hour, minute, second, nano⟩ offset

/-! ## The relaxed form -/

/-- A year of up to four digits, or of any number of digits after a sign. -/
def readYear (text : List Char) : Except TimeError (Int × List Char) := do
  let limit := 0x80000000
  match skipBlanks text with
  | '-' :: rest =>
    let (n, rest) ← readNumber rest.length.succ rest
    if n ≤ limit then .ok (-(n : Int), rest) else .error .outOfRange
  | '+' :: rest =>
    let (n, rest) ← readNumber rest.length.succ rest
    if n < limit then .ok ((n : Int), rest) else .error .outOfRange
  | rest =>
    let (n, rest) ← readNumber 4 rest
    .ok ((n : Int), rest)

def readMarkedField (low high : Nat) (mark : Char) (text : List Char) : Except TimeError (Nat × List Char) := do
  let (n, rest) ← readField low high 2 (skipBlanks text)
  let rest ← expect mark (skipBlanks rest)
  .ok (n, rest)

def startsWithUtc (text : List Char) : Bool := (text.take 3).map Char.toUpper == ['U', 'T', 'C']

def skipColons (text : List Char) : List Char := text.dropWhile fun c => c = ':' || isBlank c

def parseRelaxed (input : String) : Except TimeError Timestamp := do
  let (year, text) ← readYear input.toList
  let text ← expect '-' (skipBlanks text)
  let (month, text) ← readMarkedField 1 12 '-' text
  let (day, text) ← readField 1 31 2 (skipBlanks text)
  let text ← expectSeparator text
  let (hour, text) ← readMarkedField 0 23 ':' text
  let (minute, text) ← readMarkedField 0 59 ':' text
  let (second, text) ← readField 0 60 2 (skipBlanks text)
  let (nano, text) ← readOptionalFraction text
  let text := skipBlanks text
  let (offset, text) ←
    if startsWithUtc text then .ok ((0 : Int), text.drop 3)
    else readOffset (fun rest => .ok (skipColons rest)) text
  if skipBlanks text ≠ [] then .error .tooLong
  else ofFace ⟨⟨year, month, day⟩, hour, minute, second, nano⟩ offset

end Timestamp

end Gazette
