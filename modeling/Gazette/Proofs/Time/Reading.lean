import Gazette.Proofs.Text.Digits
import Gazette.Proofs.Time.Face
import Gazette.Time.Printer

/-!
# Written moments are read back

* `Timestamp.parseStrict_toColumn`: the strict reader gives the moment that a column shows, for years of four digits.
* `Timestamp.parseRelaxed_toRfc3339`: the relaxed reader gives the moment that an RFC 3339 text shows.
* `Timestamp.parseStrict_toColumn_ne_ok`: the strict reader reads no column of a later year.
-/

namespace Gazette.Timestamp

open Fallible (bind_eq_ok ok_bind)

/-! ## Numbers -/

def StopsDigits (text : List Char) : Prop := ∀ c ∈ text.head?, digitValue? c = none

theorem stopsDigits_cons {c : Char} {text : List Char} (notDigit : digitValue? c = none) : StopsDigits (c :: text) := by
  intro other head
  cases head
  exact notDigit

theorem readNumberAfter_fixedDigits {width n room sofar : Nat} {started : Bool} {rest : List Char}
    (bound : sofar * 10 ^ width + n % 10 ^ width < numberLimit) :
    readNumberAfter started sofar (width + room) (fixedDigits width n ++ rest)
      = readNumberAfter (started || decide (0 < width)) (sofar * 10 ^ width + n % 10 ^ width) room rest := by
  induction width generalizing n room rest with
  | zero => simp [fixedDigits, Nat.mod_one]
  | succ width inductionHypothesis =>
    have value := digitValue?_digitChar (Nat.mod_lt n (y := 10) (by omega))
    -- The last digit is read after the others.
    have digits : sofar * 10 ^ (width + 1) + n % 10 ^ (width + 1)
        = (sofar * 10 ^ width + n / 10 % 10 ^ width) * 10 + n % 10 := by
      rw [mod_pow_succ, Nat.pow_succ, Nat.add_mul, Nat.mul_assoc, Nat.add_assoc]
    rw [digits] at bound ⊢
    rw [fixedDigits, List.append_assoc, List.singleton_append, Nat.add_assoc, Nat.add_comm 1 room,
      inductionHypothesis (by omega)]
    simp [readNumberAfter, value, bound]

/-- A number stops where its room ends or its digits do. -/
theorem readNumber_fixedDigits {width room n : Nat} {rest : List Char} (positive : 0 < width) (fits : width ≤ room)
    (narrow : width ≤ 18) (small : n < 10 ^ width) (stops : width = room ∨ StopsDigits rest) :
    readNumber room (fixedDigits width n ++ rest) = .ok (n, rest) := by
  have limit : n < numberLimit :=
    Nat.lt_trans (Nat.lt_of_lt_of_le small (Nat.pow_le_pow_right (by omega) narrow)) (by decide)
  obtain ⟨more, rfl⟩ := Nat.exists_eq_add_of_le fits
  have bound : 0 * 10 ^ width + n % 10 ^ width < numberLimit := by simpa [Nat.mod_eq_of_lt small] using limit
  have read : readNumberAfter false 0 (width + more) (fixedDigits width n ++ rest) = _ :=
    readNumberAfter_fixedDigits bound
  rw [readNumber, read, Nat.zero_mul, Nat.zero_add, Nat.mod_eq_of_lt small]
  simp only [positive, decide_true, Bool.or_true]
  cases more with
  | zero => rfl
  | succ more =>
    cases rest with
    | nil => simp [readNumberAfter]
    | cons c rest =>
      have notDigit := stops.resolve_left (by omega) c rfl
      simp [readNumberAfter, notDigit]

/-! ## Fractions -/

theorem dropWhile_of_stopsDigits {text : List Char} (stops : StopsDigits text) :
    (text.dropWhile fun c => (digitValue? c).isSome) = text := by
  cases text with
  | nil => rfl
  | cons c text => simp [stops c rfl]

theorem readFraction_fixedDigits {width n : Nat} {rest : List Char} (positive : 0 < width) (fits : width ≤ 9)
    (small : n < 10 ^ width) (stops : StopsDigits rest) :
    readFraction (fixedDigits width n ++ rest) = .ok (n * 10 ^ (9 - width), rest) := by
  have used : (fixedDigits width n ++ rest).length - rest.length = width := by
    simp
  rw [readFraction, readNumber_fixedDigits positive fits (by omega) small (.inr stops)]
  simp only [ok_bind, used, dropWhile_of_stopsDigits stops]
  rfl

/-- The shortest fraction that loses nothing is read back. -/
theorem readOptionalFraction_fractionText {face : ClockFace} {rest : List Char} (bound : face.nano < 1000000000)
    (stops : StopsDigits rest) (plain : rest.head? ≠ some '.') :
    readOptionalFraction (face.fractionText ++ rest) = .ok (face.nano, rest) := by
  -- There are no digits, three, six or nine of them.
  by_cases none : face.nano = 0
  · rw [ClockFace.fractionText, if_pos none, List.nil_append, none]
    cases rest with
    | nil => rfl
    | cons c rest =>
      rw [readOptionalFraction]
      intro text same
      cases same
      exact plain rfl
  rw [ClockFace.fractionText, if_neg none]
  by_cases three : face.nano % 1000000 = 0
  · rw [if_pos three, List.cons_append, readOptionalFraction,
      readFraction_fixedDigits (by omega) (by omega) (by omega) stops]
    simp
    omega
  rw [if_neg three]
  by_cases six : face.nano % 1000 = 0
  · rw [if_pos six, List.cons_append, readOptionalFraction,
      readFraction_fixedDigits (by omega) (by omega) (by omega) stops]
    simp
    omega
  · rw [if_neg six, List.cons_append, readOptionalFraction,
      readFraction_fixedDigits (by omega) (by omega) (by omega) stops]
    simp

/-! ## The strict form -/

theorem readDate_toText {date : Date} {rest : List Char} (valid : date.IsValid) (low : 0 ≤ date.year)
    (high : date.year ≤ 9999) : readDate (date.toText ++ rest) = .ok (date, rest) := by
  have dayBound := valid.day_le
  have year := natural?_fixedDigits 4 date.year.toNat (by omega) (by omega)
  have month := natural?_fixedDigits 2 date.month (by omega) (by have := valid.2.1; omega)
  have day := natural?_fixedDigits 2 date.day (by omega) (by omega)
  have whole : (date.year.toNat : Int) = date.year := by omega
  simp only [fixedDigits, List.nil_append, List.cons_append] at year month day
  simp only [Date.toText, Date.yearText, low, high, and_self, if_true, fixedDigits, List.nil_append, List.cons_append,
    readDate, exactNumber, year, month, day]
  show (if Date.IsValid ⟨(date.year.toNat : Int), date.month, date.day⟩ then _ else _) = _
  rw [whole, if_pos valid]

theorem readTime_timeText {face : ClockFace} {rest : List Char} (hour : face.hour < 100) (minute : face.minute < 100)
    (second : face.second < 100) :
    readTime (face.timeText ++ rest) = .ok ((face.hour, face.minute, face.second), rest) := by
  have hourRead := natural?_fixedDigits 2 face.hour (by omega) hour
  have minuteRead := natural?_fixedDigits 2 face.minute (by omega) minute
  have secondRead := natural?_fixedDigits 2 face.second (by omega) second
  simp only [fixedDigits, List.nil_append, List.cons_append] at hourRead minuteRead secondRead
  simp only [ClockFace.timeText, fixedDigits, List.nil_append, List.cons_append, readTime, exactNumber, hourRead,
    minuteRead, secondRead]
  rfl

theorem length_le_utf8ByteSize (text : List Char) : text.length ≤ (String.ofList text).utf8ByteSize := by
  rw [← String.size_toByteArray, String.toByteArray_ofList]
  induction text with
  | nil => exact Nat.zero_le _
  | cons c text inductionHypothesis =>
    have := c.utf8Size_pos
    rw [List.utf8Encode_cons, ByteArray.size_append, List.utf8Encode_singleton, List.size_toByteArray,
      String.length_utf8EncodeChar, List.length_cons]
    omega

theorem face_truncateToMicros (t : Timestamp) :
    t.truncateToMicros.face = { t.face with nano := t.face.nano / 1000 * 1000 } := by
  by_cases leap : 1000000000 ≤ t.nano
  · have stays : 1000000000 ≤ t.nano / 1000 * 1000 := by omega
    have rest : t.nano / 1000 * 1000 - 1000000000 = (t.nano - 1000000000) / 1000 * 1000 := by omega
    simp only [face, truncateToMicros, leap, stays, if_true, rest]
  · have stays : ¬ 1000000000 ≤ t.nano / 1000 * 1000 := by omega
    simp only [face, truncateToMicros, leap, stays, if_false]

/-- A column gives the moment that is shown, to the microsecond. -/
theorem parseStrict_toColumn {t : Timestamp} (low : 0 ≤ t.face.date.year) (high : t.face.date.year ≤ 9999) :
    parseStrict t.toColumn = .ok t.truncateToMicros.asShown := by
  have hour := t.hour_face_lt
  have minute := t.minute_face_lt
  have second := t.second_face_le
  have nano := t.nano_face_lt
  have long : 19 ≤ t.toColumn.utf8ByteSize := by
    refine Nat.le_trans ?_ (length_le_utf8ByteSize _)
    simp [Date.toText, Date.yearText, low, high, ClockFace.timeText]
  rw [parseStrict, if_neg (Nat.not_lt.mpr long), toColumn]
  simp only [String.toList_ofList, List.append_assoc, List.cons_append]
  rw [readDate_toText (t.date_face ▸ Date.isValid_ofDays _) low high]
  simp only [ok_bind, expectSeparator, true_or, if_true]
  rw [readTime_timeText (by omega) (by omega) (by omega)]
  simp only [ok_bind, readOptionalFraction]
  rw [readFraction_fixedDigits (by omega) (by omega) (by omega) (stopsDigits_cons rfl)]
  simp only [ok_bind]
  rw [if_neg (by omega)]
  show ofFace { t.face with nano := t.face.nano / 1000 * 1000 } 0 = _
  rw [← face_truncateToMicros, ofFace_face]

theorem leapEndsMinute_of_parseStrict {input : String} {t : Timestamp} (read : parseStrict input = .ok t) :
    t.LeapEndsMinute := by
  rw [parseStrict] at read
  split at read
  · cases read
  · obtain ⟨⟨date, text⟩, _, read⟩ := bind_eq_ok.mp read
    obtain ⟨text, _, read⟩ := bind_eq_ok.mp read
    obtain ⟨⟨⟨hour, minute, second⟩, text⟩, _, read⟩ := bind_eq_ok.mp read
    obtain ⟨⟨nano, text⟩, _, read⟩ := bind_eq_ok.mp read
    dsimp only at read
    split at read
    · cases read
    · obtain ⟨⟨offset, text⟩, _, read⟩ := bind_eq_ok.mp read
      dsimp only at read
      split at read
      · cases read
      · exact leapEndsMinute_of_ofFace read

/-! ## The relaxed form -/

theorem skipBlanks_cons {c : Char} {text : List Char} (notBlank : isBlank c = false) :
    skipBlanks (c :: text) = c :: text := by
  simp [skipBlanks, notBlank]

theorem not_isBlank_digitChar {digit : Nat} (small : digit < 10) : isBlank (digitChar digit) = false := by
  revert digit
  decide

theorem digitChar_ne_sign {digit : Nat} (small : digit < 10) : digitChar digit ≠ '-' ∧ digitChar digit ≠ '+' := by
  revert digit
  decide

theorem exists_fixedDigits_eq_cons {width : Nat} (positive : 0 < width) (n : Nat) :
    ∃ digit < 10, ∃ rest, fixedDigits width n = digitChar digit :: rest := by
  cases digits : fixedDigits width n with
  | nil =>
    have := length_fixedDigits width n
    rw [digits, List.length_nil] at this
    omega
  | cons c rest =>
    obtain ⟨digit, small, rfl⟩ := digit_of_mem_fixedDigits (digits ▸ List.mem_cons_self)
    exact ⟨digit, small, rest, rfl⟩

theorem skipBlanks_fixedDigits {width n : Nat} {rest : List Char} (positive : 0 < width) :
    skipBlanks (fixedDigits width n ++ rest) = fixedDigits width n ++ rest := by
  obtain ⟨digit, small, tail, digits⟩ := exists_fixedDigits_eq_cons positive n
  rw [digits, List.cons_append, skipBlanks_cons (not_isBlank_digitChar small)]

theorem readField_fixedDigits {low high n : Nat} {rest : List Char} (atLeast : low ≤ n) (atMost : n ≤ high)
    (small : n < 100) : readField low high 2 (skipBlanks (fixedDigits 2 n ++ rest)) = .ok (n, rest) := by
  rw [skipBlanks_fixedDigits (by omega), readField,
    readNumber_fixedDigits (by omega) (by omega) (by omega) small (.inl rfl)]
  simp only [ok_bind, atLeast, atMost, and_self, if_true]

theorem readMarkedField_fixedDigits {low high n : Nat} {mark : Char} {rest : List Char} (atLeast : low ≤ n)
    (atMost : n ≤ high) (small : n < 100) (notBlank : isBlank mark = false) :
    readMarkedField low high mark (fixedDigits 2 n ++ mark :: rest) = .ok (n, rest) := by
  rw [readMarkedField, readField_fixedDigits atLeast atMost small]
  simp only [ok_bind, skipBlanks_cons notBlank, expect, if_true]

/-- The years of the calendar have at most six digits. -/
theorem exists_paddedDigits_eq {n : Nat} (small : n < 1000000) :
    ∃ width, 0 < width ∧ width ≤ 6 ∧ n < 10 ^ width ∧ paddedDigits 4 n = fixedDigits width n := by
  have power : Nat.pow 10 4 = 10000 := rfl
  rw [paddedDigits, power]
  by_cases four : n < 10000
  · exact ⟨4, by omega, by omega, by omega, by rw [if_pos four]⟩
  rw [if_neg four]
  by_cases five : n < 100000
  · exact ⟨5, by omega, by omega, by omega, decimal_eq_fixedDigits (by omega) (by omega)⟩
  · exact ⟨6, by omega, by omega, by omega, decimal_eq_fixedDigits (by omega) (by omega)⟩

theorem readYear_yearText {year : Int} {rest : List Char} (small : year.natAbs < 1000000) (stops : StopsDigits rest) :
    readYear (Date.yearText year ++ rest) = .ok (year, rest) := by
  rw [Date.yearText]
  -- A year of four digits has no sign. Every other year has one.
  by_cases plain : 0 ≤ year ∧ year ≤ 9999
  · have whole : (year.toNat : Int) = year := by omega
    have read : readNumber 4 (fixedDigits 4 year.toNat ++ rest) = .ok (year.toNat, rest) :=
      readNumber_fixedDigits (by omega) (by omega) (by omega) (by omega) (.inl rfl)
    obtain ⟨digit, bound, tail, digits⟩ := exists_fixedDigits_eq_cons (Nat.zero_lt_succ 3) year.toNat
    rw [if_pos plain, readYear, skipBlanks_fixedDigits (by omega)]
    rw [digits, List.cons_append] at read ⊢
    split
    · rename_i sign
      exact absurd (List.cons.inj sign).1 (digitChar_ne_sign bound).1
    · rename_i sign
      exact absurd (List.cons.inj sign).1 (digitChar_ne_sign bound).2
    · simp only [read, ok_bind, whole]
  · obtain ⟨width, positive, narrow, fits, padded⟩ := exists_paddedDigits_eq small
    have read : readNumber (fixedDigits width year.natAbs ++ rest).length.succ (fixedDigits width year.natAbs ++ rest)
        = .ok (year.natAbs, rest) := by
      refine readNumber_fixedDigits positive ?_ (by omega) fits (.inr stops)
      rw [List.length_append, length_fixedDigits]
      omega
    rw [if_neg plain, padded, List.cons_append]
    by_cases negative : year < 0
    · have minus : -(year.natAbs : Int) = year := by omega
      simp only [if_pos negative, readYear, skipBlanks_cons (c := '-') rfl, read, ok_bind]
      rw [if_pos (by omega), minus]
    · have plus : (year.natAbs : Int) = year := by omega
      simp only [if_neg negative, readYear, skipBlanks_cons (c := '+') rfl, read, ok_bind]
      rw [if_pos (by omega), plus]

theorem parseRelaxed_toRfc3339 (t : Timestamp) : parseRelaxed t.toRfc3339 = .ok t.asShown := by
  have hour := t.hour_face_lt
  have minute := t.minute_face_lt
  have second := t.second_face_le
  have nano := t.nano_face_lt
  have years := t.year_face_bounds
  have valid : t.face.date.IsValid := Date.isValid_ofDays _
  have dayBound := valid.day_le
  -- Each field is read back from the digits that stand in front, up to the mark behind them.
  rw [parseRelaxed, toRfc3339]
  simp only [String.toList_ofList, Date.toText, List.append_assoc, List.cons_append]
  rw [readYear_yearText (by omega) (stopsDigits_cons rfl)]
  simp only [ok_bind, skipBlanks_cons (c := '-') rfl, expect, if_true]
  rw [readMarkedField_fixedDigits valid.1 valid.2.1 (by have := valid.2.1; omega) rfl]
  simp only [ok_bind]
  rw [readField_fixedDigits valid.2.2.1 dayBound (by omega)]
  simp only [ok_bind, expectSeparator, true_or, if_true, ClockFace.timeText, List.append_assoc, List.cons_append]
  rw [readMarkedField_fixedDigits (by omega) (by omega) (by omega) rfl]
  simp only [ok_bind]
  rw [readMarkedField_fixedDigits (by omega) (by omega) (by omega) rfl]
  simp only [ok_bind]
  rw [readField_fixedDigits (by omega) (by omega) (by omega)]
  simp only [ok_bind]
  have zone : StopsDigits ['Z'] := stopsDigits_cons rfl
  rw [readOptionalFraction_fractionText nano zone (by decide)]
  simp only [ok_bind, skipBlanks_cons (c := 'Z') rfl]
  rw [if_neg (by decide), readOffset]
  simp only [ok_bind]
  rw [if_neg (by decide)]
  exact ofFace_face t

theorem LeapEndsMinute.parseRelaxed_toRfc3339 {t : Timestamp} (leaps : t.LeapEndsMinute) :
    parseRelaxed t.toRfc3339 = .ok t := by
  rw [Timestamp.parseRelaxed_toRfc3339, asShown_eq_iff.mpr leaps]

/-! ## Years that are not read -/

theorem readDate_of_fifth {text : List Char} (fifth : text[4]? ≠ some '-') : readDate text = .error .invalid := by
  unfold readDate
  split
  · exact absurd rfl fifth
  · rfl

theorem fifth_yearText {year : Int} {rest : List Char} (late : 9999 < year) (small : year.natAbs < 1000000) :
    (Date.yearText year ++ rest)[4]? ≠ some '-' := by
  obtain ⟨width, _, _, fits, padded⟩ := exists_paddedDigits_eq small
  have power : 10 ^ 4 < 10 ^ width := by omega
  have wide : 4 < width := (Nat.pow_lt_pow_iff_right (by decide)).mp power
  have long : 3 < (fixedDigits width year.natAbs).length := by
    rw [length_fixedDigits]
    omega
  rw [Date.yearText, if_neg (by omega), if_neg (by omega), padded, List.cons_append, List.getElem?_cons_succ,
    List.getElem?_append_left long, List.getElem?_eq_getElem long, ne_eq, Option.some_inj]
  -- The fifth character comes after a sign and three digits.
  obtain ⟨digit, bound, same⟩ := digit_of_mem_fixedDigits (List.getElem_mem long)
  rw [same]
  exact (digitChar_ne_sign bound).1

theorem parseStrict_toColumn_ne_ok {t : Timestamp} (late : 9999 < t.face.date.year) (moment : Timestamp) :
    parseStrict t.toColumn ≠ .ok moment := by
  have years := t.year_face_bounds
  rw [parseStrict, toColumn]
  split
  · exact nofun
  · simp only [String.toList_ofList, Date.toText, List.append_assoc]
    rw [readDate_of_fifth (fifth_yearText late (by omega))]
    exact nofun

end Gazette.Timestamp
