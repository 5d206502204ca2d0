import Gazette.Text.Digits

/-!
# Spans of time

* `Duration` is a span of whole seconds, counted in 64 bits, and nanoseconds.
* `Instant` is a reading of a clock that never goes back. `Instant.after?` adds a span to it, as long as the sum
  has a reading.
-/

namespace Gazette

structure Duration where
  seconds : UInt64
  nanos : Nat
  nanos_lt : nanos < 1000000000
  deriving DecidableEq, Repr

namespace Duration

def total (span : Duration) : Nat := 1000000000 * span.seconds.toNat + span.nanos

def ofSeconds (seconds : UInt64) : Duration := ⟨seconds, 0, by omega⟩

/-- The span of so many nanoseconds, its seconds counted modulo 2^64. -/
def ofNanos (nanoseconds : Nat) : Duration :=
  ⟨(nanoseconds / 1000000000).toUInt64, nanoseconds % 1000000000, Nat.mod_lt _ (by omega)⟩

def fractionText (width fraction : Nat) : List Char :=
  let digits := ((fixedDigits width fraction).reverse.dropWhile (· = '0')).reverse
  if digits.isEmpty then [] else '.' :: digits

/-- The span in the largest unit of which it has at least one, with the fraction that it needs. -/
def toText (span : Duration) : String :=
  String.ofList <|
    if 0 < span.seconds then
      decimal span.seconds.toNat ++ fractionText 9 span.nanos ++ ['s']
    else if 1000000 ≤ span.nanos then
      decimal (span.nanos / 1000000) ++ fractionText 6 (span.nanos % 1000000) ++ ['m', 's']
    else if 1000 ≤ span.nanos then
      decimal (span.nanos / 1000) ++ fractionText 3 (span.nanos % 1000) ++ ['µ', 's']
    else
      decimal span.nanos ++ ['n', 's']

end Duration

structure Instant where
  nanoseconds : Nat
  deriving DecidableEq, Repr

namespace Instant

/-- The reading at the end of a span. A clock counts its seconds in 63 bits. -/
def after? (now : Instant) (span : Duration) : Option Instant :=
  let sum := now.nanoseconds + span.total
  if sum / 1000000000 < 0x8000000000000000 then some ⟨sum⟩ else none

end Instant

end Gazette
