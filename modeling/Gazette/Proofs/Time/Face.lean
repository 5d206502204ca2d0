import Gazette.Proofs.Time.Civil
import Gazette.Time.Parser

/-!
# Moments and what calendar and clock show

* `Timestamp.asShown` is the moment of a face: the moment itself just if a leap second ends a minute.
* `Timestamp.ofFace_face`: it is found again from the face.
-/

namespace Gazette.Timestamp

theorem secondOfDay_lt (t : Timestamp) : (t.second % 86400).toNat < 86400 := by
  omega

theorem date_face (t : Timestamp) : t.face.date = Date.ofDays (t.second / 86400) := rfl

theorem hour_face_lt (t : Timestamp) : t.face.hour < 24 := by
  have := t.secondOfDay_lt
  show (t.second % 86400).toNat / 3600 < 24
  omega

theorem minute_face_lt (t : Timestamp) : t.face.minute < 60 := by
  show (t.second % 86400).toNat / 60 % 60 < 60
  omega

theorem second_face_le (t : Timestamp) : t.face.second ≤ 60 := by
  rw [face]
  dsimp only
  split <;> omega

theorem nano_face_lt (t : Timestamp) : t.face.nano < 1000000000 := by
  have := t.nano_lt
  rw [face]
  dsimp only
  split <;> omega

section Utc

variable {t : Timestamp}

/-- Only a leap second is shown as the second 60. -/
theorem LeapEndsMinute.second_face_eq_60 (leaps : t.LeapEndsMinute) : t.face.second = 60 ↔ 1000000000 ≤ t.nano := by
  rw [face]
  dsimp only
  split
  · have := leaps ‹_›
    omega
  · omega

theorem LeapEndsMinute.plainSecond_face (leaps : t.LeapEndsMinute) : t.face.plainSecond = t.second := by
  rw [ClockFace.plainSecond]
  rw [date_face, Date.toDays_ofDays]
  rw [face]
  dsimp only
  split
  · have := leaps ‹_›
    omega
  · omega

theorem LeapEndsMinute.plainNano_face (leaps : t.LeapEndsMinute) : t.face.plainNano = t.nano := by
  rw [ClockFace.plainNano]
  by_cases leap : 1000000000 ≤ t.nano
  · rw [if_pos (leaps.second_face_eq_60.mpr leap)]
    simp only [face, leap, if_true]
    omega
  · rw [if_neg fun sixty => leap (leaps.second_face_eq_60.mp sixty)]
    simp [face, leap]

theorem LeapEndsMinute.ofParts?_self (leaps : t.LeapEndsMinute) : ofParts? t.second t.nano = some t := by
  unfold ofParts?
  rw [dif_pos ⟨t.second_ge, t.second_le, t.nano_lt, leaps⟩]

end Utc

theorem year_face_bounds (t : Timestamp) : -262143 ≤ t.face.date.year ∧ t.face.date.year ≤ 262142 := by
  have first := t.second_ge
  have last := t.second_le
  rw [firstSecond] at first
  rw [lastSecond] at last
  constructor
  · apply Date.le_year_ofDays
    have : Date.toDays ⟨-262143, 1, 1⟩ = -96465292 := by decide
    omega
  · apply Date.year_ofDays_le
    have : Date.toDays ⟨262142, 12, 31⟩ = 95026236 := by decide
    omega

/-! ## The moment that is shown -/

/-- The moment that has the same face. A leap second that does not end a minute counts as the second after it. -/
def asShown (t : Timestamp) : Timestamp :=
  if leap : 1000000000 ≤ t.nano ∧ t.second % 60 ≠ 59 then
    { second := t.second + 1
      nano := t.nano - 1000000000
      second_ge := Int.le_trans t.second_ge (by omega)
      second_le := by
        have last := t.second_le
        rw [lastSecond] at last ⊢
        omega
      nano_lt := Nat.lt_of_le_of_lt (Nat.sub_le _ _) t.nano_lt }
  else t

theorem leapEndsMinute_asShown (t : Timestamp) : t.asShown.LeapEndsMinute := by
  have bound := t.nano_lt
  rw [asShown, LeapEndsMinute]
  split
  · intro leap
    dsimp only at leap
    omega
  · intro leap
    omega

theorem asShown_eq_iff {t : Timestamp} : t.asShown = t ↔ t.LeapEndsMinute := by
  constructor
  · intro same
    exact same ▸ t.leapEndsMinute_asShown
  · intro leaps
    exact dif_neg fun elsewhere => elsewhere.2 (leaps elsewhere.1)

theorem face_asShown (t : Timestamp) : t.asShown.face = t.face := by
  have bound := t.nano_lt
  rw [asShown]
  split
  · -- The second before the last of a minute is in the same minute, hour and day as the last.
    rename_i leap
    have notLeap : ¬ 1000000000 ≤ t.nano - 1000000000 := by omega
    have day : (t.second + 1) / 86400 = t.second / 86400 := by omega
    have seconds : ((t.second + 1) % 86400).toNat = (t.second % 86400).toNat + 1 := by omega
    simp only [face, day, seconds, notLeap, leap.1, if_true, if_false, ClockFace.mk.injEq, true_and, and_true]
    omega
  · rfl

/-- No face shows a moment in a leap second that UTC does not have. -/
theorem leapEndsMinute_of_ofFace {face : ClockFace} {offset : Int} {t : Timestamp} (shown : ofFace face offset = .ok t) :
    t.LeapEndsMinute := by
  rw [ofFace] at shown
  split at shown
  · split at shown
    · rename_i made
      cases shown
      exact leapEndsMinute_of_ofParts? made
    · cases shown
  · cases shown

/-- What a face shows is the moment that has it, up to the place of its leap second. -/
theorem ofFace_face (t : Timestamp) : ofFace t.face 0 = .ok t.asShown := by
  have leaps := t.leapEndsMinute_asShown
  have years := t.asShown.year_face_bounds
  rw [← face_asShown, ofFace]
  rw [if_pos ⟨Date.isValid_ofDays _, years.1, years.2, by decide⟩, Int.sub_zero, leaps.plainSecond_face,
    leaps.plainNano_face, leaps.ofParts?_self]

end Gazette.Timestamp
