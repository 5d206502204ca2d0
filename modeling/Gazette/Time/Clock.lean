import Gazette.Time.Duration
import Gazette.Time.Timestamp

/-!
# Clocks

* `WallClock` is a reading of the clock on the wall, which may be any number of nanoseconds before or after 1970.
* `WallClock.timestamp` is the moment that articles are stamped with: the reading without what does not fill a
  microsecond.
* `Crash` has the reasons for which the program gives up.
-/

namespace Gazette

/-- A reading in nanoseconds since 1970-01-01T00:00:00Z. -/
structure WallClock where
  nanoseconds : Int
  deriving DecidableEq, Repr

inductive Crash
  /-- The clock reads a time so long before 1970. -/
  | clockBeforeEpoch (gap : Duration)
  /-- The clock reads a time past the last year of the calendar. -/
  | clockOutOfRange
  /-- A span ends after the last reading of a clock. -/
  | deadlineOverflow
  /-- A table is to have more places than memory has addresses. -/
  | tableOverflow
  /-- A sum is more than a word can count. -/
  | sumOverflow
  deriving DecidableEq, Repr

def Crash.message : Crash → String
  | .clockBeforeEpoch gap => s!"system time before Unix epoch: SystemTimeError({gap.toText})"
  | .clockOutOfRange => "called `Option::unwrap()` on a `None` value"
  | .deadlineOverflow => "overflow when adding duration to instant"
  | .tableOverflow => "Hash table capacity overflow"
  | .sumOverflow => "attempt to add with overflow"

/-- The moment that the clock reads, to the microsecond. -/
def WallClock.timestamp (clock : WallClock) : Except Crash Timestamp :=
  if clock.nanoseconds < 0 then .error (.clockBeforeEpoch (.ofNanos clock.nanoseconds.natAbs))
  else
    match Timestamp.ofParts? (clock.nanoseconds / 1000000000) (clock.nanoseconds % 1000000000).toNat with
    | some moment => .ok moment.truncateToMicros
    | none => .error .clockOutOfRange

theorem WallClock.leapEndsMinute_of_timestamp {clock : WallClock} {now : Timestamp}
    (readable : clock.timestamp = .ok now) : now.LeapEndsMinute := by
  rw [timestamp] at readable
  split at readable
  · cases readable
  · split at readable
    · rename_i made
      cases readable
      exact (Timestamp.leapEndsMinute_of_ofParts? made).truncateToMicros
    · cases readable

end Gazette
