import Gazette.Proofs.Text.Order
import Gazette.Proofs.Time.Clock

/-!
# The order of moments in a column

`Timestamp.compare_encode_toColumn`: moments that a column keeps are in the order of their texts.
-/

namespace Gazette

/-! ## Dates -/

namespace Date

theorem earlier_or_eq_or_earlier (left right : Date) : left.Earlier right ∨ left = right ∨ right.Earlier left := by
  obtain ⟨year, month, day⟩ := left
  obtain ⟨otherYear, otherMonth, otherDay⟩ := right
  simp only [Earlier, Date.mk.injEq]
  omega

theorem compare_of_earlier {left right : Date} (earlier : left.Earlier right) :
    ((compare left.year right.year).then (compare left.month right.month)).then (compare left.day right.day) = .lt := by
  rcases earlier with year | ⟨year, month | ⟨month, day⟩⟩
  · rw [Int.compare_eq_lt.mpr year, Ordering.lt_then, Ordering.lt_then]
  · rw [Int.compare_eq_eq.mpr year, Ordering.eq_then, Nat.compare_eq_lt.mpr month, Ordering.lt_then]
  · rw [Int.compare_eq_eq.mpr year, Ordering.eq_then, Nat.compare_eq_eq.mpr month, Ordering.eq_then,
      Nat.compare_eq_lt.mpr day]

theorem compare_of_later {left right : Date} (later : right.Earlier left) :
    ((compare left.year right.year).then (compare left.month right.month)).then (compare left.day right.day) = .gt := by
  rcases later with year | ⟨year, month | ⟨month, day⟩⟩
  · rw [Int.compare_eq_gt.mpr year, Ordering.gt_then, Ordering.gt_then]
  · rw [Int.compare_eq_eq.mpr year.symm, Ordering.eq_then, Nat.compare_eq_gt.mpr month, Ordering.gt_then]
  · rw [Int.compare_eq_eq.mpr year.symm, Ordering.eq_then, Nat.compare_eq_eq.mpr month.symm, Ordering.eq_then,
      Nat.compare_eq_gt.mpr day]

/-- Dates are in the order of their days. -/
theorem compare_toDays {left right : Date} (valid : left.IsValid) (alsoValid : right.IsValid) :
    ((compare left.year right.year).then (compare left.month right.month)).then (compare left.day right.day)
      = compare left.toDays right.toDays := by
  rcases earlier_or_eq_or_earlier left right with earlier | rfl | later
  · rw [compare_of_earlier earlier, Int.compare_eq_lt.mpr (toDays_lt_toDays valid alsoValid earlier)]
  · simp
  · rw [compare_of_later later, Int.compare_eq_gt.mpr (toDays_lt_toDays alsoValid valid later)]

theorem compares_yearText {left right : Int} (low : 0 ≤ left) (high : left ≤ 9999) (alsoLow : 0 ≤ right)
    (alsoHigh : right ≤ 9999) : Compares (yearText left) (yearText right) (compare left right) := by
  have digits : Compares (fixedDigits 4 left.toNat) (fixedDigits 4 right.toNat) _ :=
    .fixedDigits (by omega) (by omega)
  rw [← compare_natCast, Int.toNat_of_nonneg low, Int.toNat_of_nonneg alsoLow] at digits
  rw [yearText, yearText, if_pos ⟨low, high⟩, if_pos ⟨alsoLow, alsoHigh⟩]
  exact digits

theorem compares_toText {left right : Date} (valid : left.IsValid) (alsoValid : right.IsValid) (low : 0 ≤ left.year)
    (high : left.year ≤ 9999) (alsoLow : 0 ≤ right.year) (alsoHigh : right.year ≤ 9999) :
    Compares left.toText right.toText (compare left.toDays right.toDays) := by
  have day := valid.day_le
  have otherDay := alsoValid.day_le
  have ⟨_, month, _⟩ := valid
  have ⟨_, otherMonth, _⟩ := alsoValid
  rw [← compare_toDays valid alsoValid]
  have months : Compares (fixedDigits 2 left.month) (fixedDigits 2 right.month) _ := .fixedDigits (by omega) (by omega)
  have days : Compares (fixedDigits 2 left.day) (fixedDigits 2 right.day) _ := .fixedDigits (by omega) (by omega)
  exact ((compares_yearText low high alsoLow alsoHigh).append (months.cons '-')).append (days.cons '-')

end Date

/-! ## Moments -/

namespace Timestamp

def minutes (t : Timestamp) : Int := 1440 * t.face.date.toDays + 60 * t.face.hour + t.face.minute

theorem Columnar.second_eq_minutes {t : Timestamp} (columnar : t.Columnar) :
    t.second = 60 * t.minutes + (min t.face.second 59 : Nat) := by
  have shown := columnar.leapEndsMinute.plainSecond_face
  rw [ClockFace.plainSecond] at shown
  rw [minutes]
  omega

theorem shown_eq_minutes (t : Timestamp) :
    87840 * t.face.date.toDays + (61 * (60 * t.face.hour + t.face.minute) + t.face.second)
      = 61 * t.minutes + t.face.second := by
  rw [minutes]
  omega

theorem Columnar.nano_eq {t : Timestamp} (columnar : t.Columnar) :
    t.nano = 1000 * (t.face.nano / 1000) + if t.face.second = 60 then 1000000000 else 0 := by
  have shown := columnar.leapEndsMinute.plainNano_face
  have micros : t.nano / 1000 * 1000 = t.nano := congrArg Timestamp.nano columnar.micros
  rw [ClockFace.plainNano] at shown
  split at shown
  · rename_i leap
    rw [if_pos leap]
    omega
  · rename_i plain
    rw [if_neg plain]
    omega

/-- A leap second is shown after the second that it follows, and counted with it. -/
theorem compare_minutes {x y : Int} {s t f g : Nat} (second : s ≤ 60) (otherSecond : t ≤ 60) (micros : f < 1000000)
    (otherMicros : g < 1000000) :
    Ord.compare (1000000 * (61 * x + s) + f) (1000000 * (61 * y + t) + g)
      = Ord.compare (2000000000 * (60 * x + (min s 59 : Nat)) + (1000 * f + if s = 60 then 1000000000 else 0 : Nat))
        (2000000000 * (60 * y + (min t 59 : Nat)) + (1000 * g + if t = 60 then 1000000000 else 0 : Nat)) := by
  apply compare_congr <;> rcases Int.lt_trichotomy x y with less | rfl | more <;> split <;> split <;> omega

theorem compares_timeText (left right : Timestamp) : Compares left.face.timeText right.face.timeText
    (((Ord.compare left.face.hour right.face.hour).then (Ord.compare left.face.minute right.face.minute)).then
      (Ord.compare left.face.second right.face.second)) := by
  have hour := left.hour_face_lt
  have otherHour := right.hour_face_lt
  have minute := left.minute_face_lt
  have otherMinute := right.minute_face_lt
  have second := left.second_face_le
  have otherSecond := right.second_face_le
  have hours : Compares (fixedDigits 2 left.face.hour) (fixedDigits 2 right.face.hour) _ :=
    .fixedDigits (by omega) (by omega)
  have minutes : Compares (fixedDigits 2 left.face.minute) (fixedDigits 2 right.face.minute) _ :=
    .fixedDigits (by omega) (by omega)
  have seconds : Compares (fixedDigits 2 left.face.second) (fixedDigits 2 right.face.second) _ :=
    .fixedDigits (by omega) (by omega)
  exact (hours.append (minutes.cons ':')).append (seconds.cons ':')

theorem ascii_toColumn {t : Timestamp} (low : 0 ≤ t.face.date.year) (high : t.face.date.year ≤ 9999) :
    Ascii (t.face.date.toText ++ 'T' :: t.face.timeText ++ '.' :: fixedDigits 6 (t.face.nano / 1000) ++ ['Z']) := by
  rw [Date.toText, Date.yearText, if_pos ⟨low, high⟩, ClockFace.timeText]
  have part (c : Char) (small : c.toNat < 0x80) (width n : Nat) : Ascii (c :: fixedDigits width n) :=
    (ascii_fixedDigits width n).cons small
  have date := ((ascii_fixedDigits 4 t.face.date.year.toNat).append (part '-' (by decide) 2 t.face.date.month)).append
    (part '-' (by decide) 2 t.face.date.day)
  have time := ((ascii_fixedDigits 2 t.face.hour).append (part ':' (by decide) 2 t.face.minute)).append
    (part ':' (by decide) 2 t.face.second)
  have micros := part '.' (by decide) 6 (t.face.nano / 1000)
  exact ((date.append (time.cons (by decide))).append micros).append (ascii_nil.cons (by decide))

/-- The order of moments is that of their minutes, seconds and microseconds. -/
theorem compare_eq {left right : Timestamp} (columnar : left.Columnar) (alsoColumnar : right.Columnar) :
    left.compare right =
      Ord.compare (1000000 * (61 * left.minutes + left.face.second) + (left.face.nano / 1000 : Nat))
        (1000000 * (61 * right.minutes + right.face.second) + (right.face.nano / 1000 : Nat)) := by
  have nano := left.nano_face_lt
  have otherNano := right.nano_face_lt
  have bound := left.nano_lt
  have otherBound := right.nano_lt
  -- The minutes are the same in both ways to count, and seconds and fractions are small.
  rw [compare_minutes left.second_face_le right.second_face_le (by omega) (by omega), ← columnar.nano_eq,
    ← alsoColumnar.nano_eq, compare, ← compare_natCast, then_compare (k := 2000000000) (by omega) (by omega),
    ← columnar.second_eq_minutes, ← alsoColumnar.second_eq_minutes]

/-- Moments that a column keeps are in the order of their texts. -/
theorem compare_encode_toColumn {left right : Timestamp} (columnar : left.Columnar) (alsoColumnar : right.Columnar) :
    Ord.compare (Utf8.encode left.toColumn) (Utf8.encode right.toColumn) = left.compare right := by
  have hour := left.hour_face_lt
  have otherHour := right.hour_face_lt
  have minute := left.minute_face_lt
  have otherMinute := right.minute_face_lt
  have second := left.second_face_le
  have otherSecond := right.second_face_le
  have nano := left.nano_face_lt
  have otherNano := right.nano_face_lt
  have valid : left.face.date.IsValid := Date.isValid_ofDays (left.second / 86400)
  have alsoValid : right.face.date.IsValid := Date.isValid_ofDays (right.second / 86400)
  have date := Date.compares_toText valid alsoValid columnar.low columnar.high alsoColumnar.low alsoColumnar.high
  have micros : Compares (fixedDigits 6 (left.face.nano / 1000)) (fixedDigits 6 (right.face.nano / 1000)) _ :=
    .fixedDigits (by omega) (by omega)
  have whole := ((date.append ((compares_timeText left right).cons 'T')).append (micros.cons '.')).append (.refl ['Z'])
  have texts := whole.encode (ascii_toColumn columnar.low columnar.high)
    (ascii_toColumn alsoColumnar.low alsoColumnar.high)
  -- The parts are put together from left to right, each pair compared as one number.
  rw [Ordering.then_eq, ← compare_natCast left.face.hour, ← compare_natCast left.face.minute,
    ← compare_natCast left.face.second, ← compare_natCast (left.face.nano / 1000),
    then_compare (k := 60) (by omega) (by omega), then_compare (k := 61) (by omega) (by omega),
    then_compare (k := 87840) (by omega) (by omega), shown_eq_minutes left, shown_eq_minutes right,
    then_compare (k := 1000000) (by omega) (by omega), ← compare_eq columnar alsoColumnar] at texts
  exact texts

end Timestamp

end Gazette
