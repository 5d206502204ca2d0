import Gazette.Proofs.Time.Reading
import Gazette.Time.Clock

/-!
# Moments that a column keeps

A moment of four-digit years that is a whole number of microseconds is read back from its column. A clock that shows
such a year, from 1970 on, stamps articles with such moments.
-/

namespace Gazette

structure Timestamp.Columnar (t : Timestamp) : Prop where
  micros : t.truncateToMicros = t
  leapEndsMinute : t.LeapEndsMinute
  low : 0 ≤ t.face.date.year
  high : t.face.date.year ≤ 9999

theorem Timestamp.Columnar.parseStrict_toColumn {t : Timestamp} (columnar : t.Columnar) :
    parseStrict t.toColumn = .ok t := by
  rw [Timestamp.parseStrict_toColumn columnar.low columnar.high, columnar.micros,
    Timestamp.asShown_eq_iff.mpr columnar.leapEndsMinute]

namespace Timestamp

/-- What a clock may stamp articles with, in whatever year it shows. -/
structure IsStamp (t : Timestamp) : Prop where
  micros : t.truncateToMicros = t
  leapEndsMinute : t.LeapEndsMinute
  low : 0 ≤ t.face.date.year

/-- A column keeps the stamps that are read back. -/
theorem IsStamp.columnar_of_parseStrict {t moment : Timestamp} (stamp : t.IsStamp)
    (read : parseStrict t.toColumn = .ok moment) : t.Columnar := by
  refine ⟨stamp.micros, stamp.leapEndsMinute, stamp.low, Int.not_lt.mp ?_⟩
  intro late
  exact parseStrict_toColumn_ne_ok late moment read

theorem truncateToMicros_idem (t : Timestamp) : t.truncateToMicros.truncateToMicros = t.truncateToMicros := by
  have same : t.nano / 1000 * 1000 / 1000 * 1000 = t.nano / 1000 * 1000 := by omega
  simp only [truncateToMicros, same]

def secondAfter9999 : Int := 253402300800

theorem LeapEndsMinute.columnar_truncateToMicros {t : Timestamp} (leaps : t.LeapEndsMinute) (low : 0 ≤ t.second)
    (high : t.second < secondAfter9999) : t.truncateToMicros.Columnar := by
  rw [secondAfter9999] at high
  have date : t.truncateToMicros.face.date = Date.ofDays (t.second / 86400) := rfl
  refine ⟨t.truncateToMicros_idem, leaps.truncateToMicros, ?_, ?_⟩
  · rw [date]
    apply Date.le_year_ofDays
    have : Date.toDays ⟨0, 1, 1⟩ = -719528 := by decide
    omega
  · rw [date]
    apply Date.year_ofDays_le
    have : Date.toDays ⟨9999, 12, 31⟩ = 2932896 := by decide
    omega

end Timestamp

namespace WallClock

def InRange (clock : WallClock) : Prop :=
  0 ≤ clock.nanoseconds ∧ clock.nanoseconds / 1000000000 < Timestamp.secondAfter9999

instance (clock : WallClock) : Decidable clock.InRange := inferInstanceAs (Decidable (_ ∧ _))

theorem InRange.timestamp_eq_ok {clock : WallClock} (inRange : clock.InRange) :
    ∃ now, clock.timestamp = .ok now ∧ now.Columnar := by
  obtain ⟨notBefore, notAfter⟩ := inRange
  rw [Timestamp.secondAfter9999] at notAfter
  have parts : Timestamp.firstSecond ≤ clock.nanoseconds / 1000000000 ∧
      clock.nanoseconds / 1000000000 ≤ Timestamp.lastSecond ∧
      (clock.nanoseconds % 1000000000).toNat < 2000000000 ∧
      (1000000000 ≤ (clock.nanoseconds % 1000000000).toNat → clock.nanoseconds / 1000000000 % 60 = 59) := by
    simp only [Timestamp.firstSecond, Timestamp.lastSecond]
    omega
  let reading : Timestamp := ⟨_, _, parts.1, parts.2.1, parts.2.2.1⟩
  have reached : Timestamp.ofParts? (clock.nanoseconds / 1000000000) (clock.nanoseconds % 1000000000).toNat
      = some reading := by
    rw [Timestamp.ofParts?, dif_pos parts]
  have leaps : reading.LeapEndsMinute := parts.2.2.2
  refine ⟨reading.truncateToMicros, ?_, leaps.columnar_truncateToMicros ?_ notAfter⟩
  · rw [timestamp, if_neg (by omega), reached]
  · exact Int.ediv_nonneg notBefore (by omega)

theorem columnar_of_timestamp {clock : WallClock} {now : Timestamp}
    (early : clock.nanoseconds / 1000000000 < Timestamp.secondAfter9999) (readable : clock.timestamp = .ok now) :
    now.Columnar := by
  by_cases notBefore : 0 ≤ clock.nanoseconds
  · obtain ⟨stamp, stamped, columnar⟩ := InRange.timestamp_eq_ok ⟨notBefore, early⟩
    cases stamped.symm.trans readable
    exact columnar
  · rw [timestamp, if_pos (by omega)] at readable
    cases readable

theorem isStamp_of_timestamp {clock : WallClock} {now : Timestamp} (readable : clock.timestamp = .ok now) :
    now.IsStamp := by
  have leaps := leapEndsMinute_of_timestamp readable
  rw [timestamp] at readable
  split at readable
  · cases readable
  · rename_i notBefore
    rw [Timestamp.ofParts?] at readable
    split at readable
    · rename_i reading reached
      split at reached
      · cases reached
        cases readable
        refine ⟨Timestamp.truncateToMicros_idem _, leaps, ?_⟩
        rw [Timestamp.date_face]
        apply Date.le_year_ofDays
        have : Date.toDays ⟨0, 1, 1⟩ = -719528 := by decide
        show Date.toDays ⟨0, 1, 1⟩ ≤ clock.nanoseconds / 1000000000 / 86400
        omega
      · cases reached
    · cases readable

/-- Stamps are the reading of the clock, to the microsecond. -/
theorem nanoseconds_of_timestamp {clock : WallClock} {now : Timestamp} (readable : clock.timestamp = .ok now) :
    now.second * 1000000000 + now.nano = clock.nanoseconds / 1000 * 1000 ∧ now.nano < 1000000000 := by
  rw [timestamp] at readable
  split at readable
  · cases readable
  · rw [Timestamp.ofParts?] at readable
    split at readable
    · rename_i reading reached
      split at reached
      · cases reached
        cases readable
        simp only [Timestamp.truncateToMicros]
        omega
      · cases reached
    · cases readable

end WallClock

end Gazette
