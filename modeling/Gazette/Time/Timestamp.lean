import Gazette.Time.Civil

/-!
# Moments of civil time

* `Timestamp` is a moment in UTC, to the nanosecond. A second may be followed by a leap second, which counts on from it
  past the thousand million nanoseconds.
* `Timestamp.LeapEndsMinute`: the leap seconds of UTC come at the ends of minutes.
* `ClockFace` is the same moment as a date and a time of day, with 60 for a leap second at the end of a minute. Any other
  leap second shows as the second after it.
-/

namespace Gazette

namespace Timestamp

def firstSecond : Int := -8334601228800

def lastSecond : Int := 8210266876799

end Timestamp

/-- A moment: seconds since 1970-01-01T00:00:00Z and nanoseconds since then. -/
@[ext] structure Timestamp where
  second : Int
  nano : Nat
  second_ge : Timestamp.firstSecond ≤ second
  second_le : second ≤ Timestamp.lastSecond
  nano_lt : nano < 2000000000
  deriving DecidableEq, Repr

structure ClockFace where
  date : Date
  hour : Nat
  minute : Nat
  second : Nat
  nano : Nat
  deriving DecidableEq, Repr

namespace Timestamp

def LeapEndsMinute (t : Timestamp) : Prop := 1000000000 ≤ t.nano → t.second % 60 = 59

instance (t : Timestamp) : Decidable t.LeapEndsMinute := inferInstanceAs (Decidable (_ → _))

/-- The moment, if the calendar reaches it and a leap second ends a minute. -/
def ofParts? (second : Int) (nano : Nat) : Option Timestamp :=
  if h : firstSecond ≤ second ∧ second ≤ lastSecond ∧ nano < 2000000000
      ∧ (1000000000 ≤ nano → second % 60 = 59) then
    some ⟨second, nano, h.1, h.2.1, h.2.2.1⟩
  else none

theorem leapEndsMinute_of_ofParts? {second : Int} {nano : Nat} {t : Timestamp} (made : ofParts? second nano = some t) :
    t.LeapEndsMinute := by
  rw [ofParts?] at made
  split at made
  · rename_i parts
    cases made
    exact parts.2.2.2
  · cases made

def truncateToMicros (t : Timestamp) : Timestamp where
  second := t.second
  nano := t.nano / 1000 * 1000
  second_ge := t.second_ge
  second_le := t.second_le
  nano_lt := by have := t.nano_lt; omega

theorem LeapEndsMinute.truncateToMicros {t : Timestamp} (leaps : t.LeapEndsMinute) :
    t.truncateToMicros.LeapEndsMinute := fun leap =>
  leaps (Nat.le_trans leap (Nat.div_mul_le_self t.nano 1000))

def compare (left right : Timestamp) : Ordering :=
  (Ord.compare left.second right.second).then (Ord.compare left.nano right.nano)

def face (t : Timestamp) : ClockFace :=
  let secondOfDay := (t.second % 86400).toNat
  let leap := 1000000000 ≤ t.nano
  { date := Date.ofDays (t.second / 86400)
    hour := secondOfDay / 3600
    minute := secondOfDay / 60 % 60
    second := if leap then secondOfDay % 60 + 1 else secondOfDay % 60
    nano := if leap then t.nano - 1000000000 else t.nano }

end Timestamp

namespace ClockFace

/-- The second since 1970-01-01T00:00:00 that the face shows, its leap second counted as the one before. -/
def plainSecond (face : ClockFace) : Int :=
  face.date.toDays * 86400 + face.hour * 3600 + face.minute * 60 + min face.second 59

def plainNano (face : ClockFace) : Nat :=
  if face.second = 60 then face.nano + 1000000000 else face.nano

end ClockFace

end Gazette
