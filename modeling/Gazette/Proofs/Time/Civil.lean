import Gazette.Time.Civil

/-!
# Days and civil dates

* `Date.toDays_ofDays` and `Date.isValid_ofDays`: every day has a date of the calendar, from which it is found again.
* `Date.toDays_lt_toDays`: later dates are later days.

Both rest on how a day of an era is made up: `EraDay` splits it into centuries, spans of four years, years and days,
each counted from March.
-/

namespace Gazette.Date

/-! ## Days of an era -/

/-- A day of an era in whole centuries, whole spans of four years, whole years and days. Only the last year of a span
has a day 365, and of the spans that end a century only the last one of an era. -/
structure EraDay where
  century : Nat
  span : Nat
  year : Nat
  day : Nat
  century_le : century ≤ 3
  span_le : span ≤ 24
  year_le : year ≤ 3
  day_le : day ≤ 365
  leap : day = 365 → year = 3 ∧ (span = 24 → century = 3)

namespace EraDay

def inner (d : EraDay) : Nat := 365 * d.year + d.day

def rest (d : EraDay) : Nat := 1461 * d.span + d.inner

def index (d : EraDay) : Nat := 36524 * d.century + d.rest

def yearOfEra (d : EraDay) : Nat := 100 * d.century + 4 * d.span + d.year

theorem inner_le (d : EraDay) : d.inner ≤ 1460 := by
  have := d.year_le
  have := d.day_le
  rw [inner]
  omega

theorem rest_lt (d : EraDay) : d.rest < 36524 ∨ d.rest = 36524 ∧ d.century = 3 := by
  obtain ⟨century, span, year, day, _, _, _, _, leap⟩ := d
  simp only [rest, inner]
  omega

theorem index_lt (d : EraDay) : d.index < 146097 := by
  have := d.rest_lt
  have := d.century_le
  rw [index]
  omega

theorem exists_index_eq {index : Nat} (bound : index < 146097) : ∃ d : EraDay, d.index = index := by
  -- The last day of an era would begin a fifth century, and the last day of a span a fifth year.
  obtain ⟨century, rest, century_le, rest_bound, rfl⟩ : ∃ century rest, century ≤ 3
      ∧ (rest < 36524 ∨ rest = 36524 ∧ century = 3) ∧ index = 36524 * century + rest := by
    by_cases last : index = 146096
    · exact ⟨3, 36524, by omega, by omega, by omega⟩
    · exact ⟨index / 36524, index % 36524, by omega, by omega, by omega⟩
  obtain ⟨span, inner, inner_bound, rfl⟩ : ∃ span inner, inner < 1461 ∧ rest = 1461 * span + inner :=
    ⟨rest / 1461, rest % 1461, by omega, by omega⟩
  obtain ⟨year, day, year_le, day_bound, rfl⟩ : ∃ year day, year ≤ 3 ∧ (day < 365 ∨ day = 365 ∧ year = 3)
      ∧ inner = 365 * year + day := by
    by_cases last : inner = 1460
    · exact ⟨3, 365, by omega, by omega, by omega⟩
    · exact ⟨inner / 365, inner % 365, by omega, by omega, by omega⟩
  exact ⟨⟨century, span, year, day, century_le, by omega, year_le, by omega, by omega⟩, rfl⟩

/-! The three quotients by which a day's year is found. -/

theorem index_div_146096 (d : EraDay) : d.index / 146096 = if d.rest = 36524 then 1 else 0 := by
  have := d.rest_lt
  have := d.century_le
  rw [index]
  split <;> omega

theorem index_div_36524 (d : EraDay) : d.index / 36524 = d.century + if d.rest = 36524 then 1 else 0 := by
  have := d.rest_lt
  rw [index]
  split <;> omega

theorem index_div_1460 (d : EraDay) :
    d.index / 1460 = 25 * d.century + d.span + if 1460 ≤ 24 * d.century + d.span + d.inner then 1 else 0 := by
  have := d.inner_le
  have := d.century_le
  have := d.span_le
  have : d.index = 1460 * (25 * d.century + d.span) + (24 * d.century + d.span + d.inner) := by
    simp only [index, rest]
    omega
  rw [this]
  split <;> omega

theorem yearOfEra_eq (d : EraDay) :
    (d.index - d.index / 1460 + d.index / 36524 - d.index / 146096) / 365 = d.yearOfEra := by
  rw [d.index_div_1460, d.index_div_36524, d.index_div_146096]
  generalize (if d.rest = 36524 then 1 else 0) = last
  have := d.leap
  have := d.day_le
  have := d.century_le
  have := d.span_le
  have days : d.index = 36524 * d.century + 1461 * d.span + 365 * d.year + d.day := by
    simp only [index, rest, inner]
    omega
  rw [days, yearOfEra]
  -- Late in a span the quotient counts one leap day more, but only in its last year.
  by_cases late : 1460 ≤ 24 * d.century + d.span + d.inner
  · rw [if_pos late]
    rw [inner] at late
    have isLast : d.year = 3 := by
      have := d.year_le
      omega
    have : 36524 * d.century + 1461 * d.span + 365 * d.year + d.day - (25 * d.century + d.span + 1)
        + (d.century + last) - last = 365 * (100 * d.century + 4 * d.span + d.year) + (d.day - 1) := by omega
    rw [this, Nat.mul_add_div (by omega), Nat.div_eq_of_lt (by omega), Nat.add_zero]
  · rw [if_neg late]
    rw [inner] at late
    have : 36524 * d.century + 1461 * d.span + 365 * d.year + d.day - (25 * d.century + d.span + 0)
        + (d.century + last) - last = 365 * (100 * d.century + 4 * d.span + d.year) + d.day := by omega
    rw [this, Nat.mul_add_div (by omega), Nat.div_eq_of_lt (by omega), Nat.add_zero]

theorem yearOfEra_div_4 (d : EraDay) : d.yearOfEra / 4 = 25 * d.century + d.span := by
  have := d.year_le
  rw [yearOfEra]
  omega

theorem yearOfEra_div_100 (d : EraDay) : d.yearOfEra / 100 = d.century := by
  have := d.year_le
  have := d.span_le
  rw [yearOfEra]
  omega

theorem daysBefore_yearOfEra (d : EraDay) :
    d.index = 365 * d.yearOfEra + d.yearOfEra / 4 - d.yearOfEra / 100 + d.day := by
  rw [d.yearOfEra_div_4, d.yearOfEra_div_100]
  simp only [index, rest, inner, yearOfEra]
  omega

end EraDay

/-! ## The date of a day -/

theorem exists_eraDay (days : Int) : ∃ (era : Int) (d : EraDay), days = era * daysPerEra + d.index - epochShift := by
  have bound : ((days + epochShift) % daysPerEra).toNat < 146097 := by
    simp only [daysPerEra, epochShift]
    omega
  obtain ⟨d, index⟩ := EraDay.exists_index_eq bound
  refine ⟨(days + epochShift) / daysPerEra, d, ?_⟩
  rw [index]
  rw [daysPerEra, epochShift]
  omega

def monthsBefore (day : Nat) : Nat := (5 * day + 2) / 153

theorem monthsBefore_le {day : Nat} (bound : day ≤ 365) : monthsBefore day ≤ 11 := by
  rw [monthsBefore]
  omega

theorem ofDays_of_eraDay (era : Int) (d : EraDay) :
    ofDays (era * daysPerEra + d.index - epochShift) =
      { year := if 10 ≤ monthsBefore d.day then d.yearOfEra + era * 400 + 1 else d.yearOfEra + era * 400
        month := if monthsBefore d.day < 10 then monthsBefore d.day + 3 else monthsBefore d.day - 9
        day := d.day - (153 * monthsBefore d.day + 2) / 5 + 1 } := by
  have bound := d.index_lt
  have whole : (era * daysPerEra + d.index - epochShift + epochShift) / daysPerEra = era := by
    rw [daysPerEra, epochShift]
    omega
  have part : (era * daysPerEra + d.index - epochShift + epochShift - era * daysPerEra).toNat = d.index := by
    rw [daysPerEra, epochShift]
    omega
  have day : d.index - (365 * d.yearOfEra + d.yearOfEra / 4 - d.yearOfEra / 100) = d.day := by
    have := d.daysBefore_yearOfEra
    omega
  have months := monthsBefore_le d.day_le
  rw [ofDays]
  simp only [whole, part, d.yearOfEra_eq, day]
  unfold monthsBefore at *
  congr 1
  split <;> split <;> split <;> omega

/-- The civil year that begins before a year counted from March ends has a leap day if that year has a day 365. -/
theorem isLeapYear_of_eraDay (era : Int) (d : EraDay) (leap : d.day = 365) :
    isLeapYear (d.yearOfEra + era * 400 + 1) = true := by
  obtain ⟨last, endsCentury⟩ := d.leap leap
  have := d.span_le
  have := d.century_le
  have fourth : ((d.yearOfEra : Int) + era * 400 + 1) % 4 = 0 := by
    rw [EraDay.yearOfEra]
    omega
  have hundredth : ((d.yearOfEra : Int) + era * 400 + 1) % 100 ≠ 0
      ∨ ((d.yearOfEra : Int) + era * 400 + 1) % 400 = 0 := by
    rw [EraDay.yearOfEra]
    omega
  simpa [isLeapYear, fourth] using hundredth

theorem daysInMonth_of_month {year : Int} {month : Nat} (notFebruary : month ≠ 2) :
    daysInMonth year month = if month = 4 ∨ month = 6 ∨ month = 9 ∨ month = 11 then 30 else 31 := by
  simp only [daysInMonth, if_neg notFebruary, Bool.or_eq_true, decide_eq_true_eq, or_assoc]

theorem IsValid.day_le {date : Date} (valid : date.IsValid) : date.day ≤ 31 := by
  have bound := valid.2.2.2
  by_cases february : date.month = 2
  · rw [daysInMonth, if_pos february] at bound
    split at bound <;> omega
  · rw [daysInMonth_of_month february] at bound
    split at bound <;> omega

/-- The calendar has the date of every day. -/
theorem isValid_ofDays (days : Int) : (ofDays days).IsValid := by
  obtain ⟨era, d, rfl⟩ := exists_eraDay days
  rw [ofDays_of_eraDay]
  have months := monthsBefore_le d.day_le
  have span : 153 * monthsBefore d.day ≤ 5 * d.day + 2 ∧ 5 * d.day + 2 < 153 * (monthsBefore d.day + 1) := by
    rw [monthsBefore]
    omega
  have bound := d.day_le
  generalize monthsBefore d.day = m at *
  -- February ends such a year. The other months have as many days every year.
  by_cases february : m = 11
  · subst february
    by_cases leap : d.day = 365
    · have := isLeapYear_of_eraDay era d leap
      simp [IsValid, daysInMonth, this]
      omega
    · simp [IsValid, daysInMonth]
      split <;> omega
  · rw [IsValid]
    dsimp only
    rw [daysInMonth_of_month (by split <;> omega)]
    obtain rfl | rfl | rfl | rfl | rfl | rfl | rfl | rfl | rfl | rfl | rfl : m = 0 ∨ m = 1 ∨ m = 2 ∨ m = 3 ∨ m = 4
        ∨ m = 5 ∨ m = 6 ∨ m = 7 ∨ m = 8 ∨ m = 9 ∨ m = 10 := by omega
    all_goals
      simp only [Nat.reduceLT, Nat.reduceAdd, Nat.reduceSub, Nat.reduceEqDiff, if_true, if_false, or_true,
        or_false]
      omega

/-! ## The day of a date -/

def yearStart (year : Int) : Int := 365 * year + year / 4 - year / 100 + year / 400

def marchYear (date : Date) : Int := if date.month ≤ 2 then date.year - 1 else date.year

theorem toDays_eq (date : Date) :
    date.toDays = yearStart date.marchYear + dayOfYear date.month date.day - epochShift := by
  simp only [toDays, yearStart, marchYear, daysPerEra]
  generalize (if date.month ≤ 2 then date.year - 1 else date.year) = year
  omega

theorem yearStart_of_eraDay (era : Int) (d : EraDay) :
    yearStart (d.yearOfEra + era * 400) + d.day = era * daysPerEra + d.index := by
  have before := d.daysBefore_yearOfEra
  have bound : d.yearOfEra < 400 := by
    have := d.century_le
    have := d.span_le
    have := d.year_le
    rw [EraDay.yearOfEra]
    omega
  rw [yearStart, daysPerEra]
  omega

theorem toDays_ofDays (days : Int) : (ofDays days).toDays = days := by
  obtain ⟨era, d, rfl⟩ := exists_eraDay days
  have start := yearStart_of_eraDay era d
  have months := monthsBefore_le d.day_le
  have span : 153 * monthsBefore d.day ≤ 5 * d.day + 2 := by
    rw [monthsBefore]
    omega
  rw [toDays_eq, ofDays_of_eraDay]
  generalize monthsBefore d.day = m at *
  have year : marchYear ⟨if 10 ≤ m then (d.yearOfEra : Int) + era * 400 + 1 else d.yearOfEra + era * 400,
      if m < 10 then m + 3 else m - 9, d.day - (153 * m + 2) / 5 + 1⟩ = d.yearOfEra + era * 400 := by
    simp only [marchYear]
    split <;> split <;> omega
  have day : dayOfYear (if m < 10 then m + 3 else m - 9) (d.day - (153 * m + 2) / 5 + 1) = d.day := by
    rw [dayOfYear]
    split <;> split <;> omega
  rw [year]
  dsimp only
  rw [day, start]

/-! ## The order of dates -/

def Earlier (left right : Date) : Prop :=
  left.year < right.year
    ∨ left.year = right.year ∧ (left.month < right.month ∨ left.month = right.month ∧ left.day < right.day)

theorem yearStart_succ (year : Int) :
    yearStart (year + 1) = yearStart year + if isLeapYear (year + 1) then 366 else 365 := by
  by_cases leap : isLeapYear (year + 1) = true
  · rw [if_pos leap]
    simp only [isLeapYear, Bool.and_eq_true, Bool.or_eq_true, beq_iff_eq, bne_iff_ne] at leap
    simp only [yearStart]
    omega
  · rw [if_neg leap]
    simp only [isLeapYear, Bool.and_eq_true, Bool.or_eq_true, beq_iff_eq, bne_iff_ne] at leap
    simp only [yearStart]
    omega

theorem yearStart_mono {left right : Int} (le : left ≤ right) : yearStart left ≤ yearStart right := by
  simp only [yearStart]
  omega

def marchMonth (month : Nat) : Nat := if 2 < month then month - 3 else month + 9

theorem dayOfYear_eq (month day : Nat) : dayOfYear month day = (153 * marchMonth month + 2) / 5 + (day - 1) := rfl

/-- A month ends before the next one begins. -/
theorem dayOfYear_lt_of_month {date : Date} (valid : date.IsValid) (notFebruary : date.month ≠ 2) :
    dayOfYear date.month date.day < (153 * (marchMonth date.month + 1) + 2) / 5 := by
  obtain ⟨year, month, day⟩ := date
  obtain ⟨monthPositive, monthBound, dayPositive, dayBound⟩ := valid
  dsimp only at *
  rw [daysInMonth_of_month notFebruary] at dayBound
  obtain rfl | rfl | rfl | rfl | rfl | rfl | rfl | rfl | rfl | rfl | rfl : month = 1 ∨ month = 3 ∨ month = 4
      ∨ month = 5 ∨ month = 6 ∨ month = 7 ∨ month = 8 ∨ month = 9 ∨ month = 10 ∨ month = 11 ∨ month = 12 := by omega
  all_goals
    simp [dayOfYear_eq, marchMonth] at *
    omega

/-- A year ends before the next one begins. -/
theorem dayOfYear_lt {date : Date} (valid : date.IsValid) :
    (dayOfYear date.month date.day : Int) < if isLeapYear (date.marchYear + 1) then 366 else 365 := by
  by_cases february : date.month = 2
  · have dayBound := valid.2.2.2
    have year : date.marchYear + 1 = date.year := by
      simp [marchYear, february]
    rw [year, dayOfYear_eq, marchMonth, february]
    rw [february, daysInMonth, if_pos rfl] at dayBound
    by_cases leap : isLeapYear date.year = true
    · rw [if_pos leap] at *
      simp
      omega
    · rw [if_neg leap] at *
      simp
      omega
  · have inMonth := dayOfYear_lt_of_month valid february
    have : marchMonth date.month ≤ 10 := by
      have := valid.2.1
      rw [marchMonth]
      split <;> omega
    split <;> omega

theorem toDays_lt_toDays {left right : Date} (leftValid : left.IsValid) (rightValid : right.IsValid)
    (earlier : left.Earlier right) : left.toDays < right.toDays := by
  have leftEnd := dayOfYear_lt leftValid
  have ⟨leftMonthPositive, leftMonthBound, leftDayPositive, _⟩ := leftValid
  have ⟨rightMonthPositive, rightMonthBound, rightDayPositive, _⟩ := rightValid
  rw [toDays_eq, toDays_eq]
  have years : left.marchYear < right.marchYear
      ∨ left.marchYear = right.marchYear ∧ (marchMonth left.month < marchMonth right.month
        ∨ marchMonth left.month = marchMonth right.month ∧ left.day < right.day) := by
    rw [Earlier] at earlier
    simp only [marchYear, marchMonth]
    split <;> split <;> split <;> split <;> omega
  -- A year, a month or a day earlier.
  rcases years with earlierYear | ⟨sameYear, earlierMonth | ⟨sameMonth, earlierDay⟩⟩
  · have next := yearStart_succ left.marchYear
    have := yearStart_mono (Int.add_one_le_of_lt earlierYear)
    omega
  · have notFebruary : left.month ≠ 2 := by
      intro february
      simp only [marchMonth] at earlierMonth
      split at earlierMonth <;> split at earlierMonth <;> omega
    have inMonth := dayOfYear_lt_of_month leftValid notFebruary
    rw [sameYear, dayOfYear_eq right.month]
    omega
  · rw [sameYear, dayOfYear_eq, dayOfYear_eq, sameMonth]
    omega

/-! ## The years of days -/

theorem le_year_ofDays {year days : Int} (after : toDays ⟨year, 1, 1⟩ ≤ days) : year ≤ (ofDays days).year := by
  have first : IsValid ⟨year, 1, 1⟩ := by simp [IsValid, daysInMonth]
  apply Int.not_lt.mp
  intro earlier
  have := toDays_lt_toDays (isValid_ofDays days) first (.inl earlier)
  rw [toDays_ofDays] at this
  omega

theorem year_ofDays_le {year days : Int} (before : days ≤ toDays ⟨year, 12, 31⟩) : (ofDays days).year ≤ year := by
  have last : IsValid ⟨year, 12, 31⟩ := by simp [IsValid, daysInMonth]
  apply Int.not_lt.mp
  intro later
  have := toDays_lt_toDays last (isValid_ofDays days) (.inl later)
  rw [toDays_ofDays] at this
  omega

end Gazette.Date
