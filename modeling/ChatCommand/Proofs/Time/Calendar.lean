/-
Dates and day numbers.

* `daysBeforeYear_add_one`, `daysBeforeMonth_add_one`: a year and a month are as long as they say;
* `Date.Valid`: the month has the day;
* `Date.toDays_lt_of_monthNumber_lt`, `Date.toDays_injOn`: days ascend with years, months and days
  of the month;
* `Date.year_eq_of_toDays_le`, `Date.Valid.toDays_add_week_le`: dates in one year;
* `Date.valid_ofDays`, `Date.toDays_ofDays`, `Date.ofDays_toDays`: **every day number is that of
  exactly one date**;
* `Date.exists_of_addMonths?`: a date some months on has the month with that number.
-/
import Mathlib.Data.Int.Init
import Mathlib.Data.Nat.Init
import Mathlib.Tactic.IntervalCases
import ChatCommand.Time.Calendar

namespace ChatCommand

/-! ### Years -/

/-- The number of days of a year. -/
def yearLength (year : Int) : Nat := if isLeapYear year then 366 else 365

lemma isLeapYear_iff {year : Int} :
    isLeapYear year = true ↔ year % 4 = 0 ∧ (year % 100 ≠ 0 ∨ year % 400 = 0) := by
  simp [isLeapYear]

/-- A year begins when all days of the one before are over. -/
lemma daysBeforeYear_add_one (year : Int) :
    daysBeforeYear (year + 1) = daysBeforeYear year + yearLength year := by
  simp only [daysBeforeYear, yearLength, isLeapYear_iff]
  split <;> omega

lemma daysBeforeYear_add_yearLength_le {a b : Int} (h : a < b) :
    daysBeforeYear a + yearLength a ≤ daysBeforeYear b := by
  induction b, Int.add_one_le_iff.mpr h using Int.leInduction with
  | base => rw [daysBeforeYear_add_one]
  | succ b hb ih =>
      have hnext := daysBeforeYear_add_one b
      have := ih (by omega)
      omega

/-! ### Months -/

/-- The days before a month and those of the month are the days before the next one. -/
lemma daysBeforeMonth_add_one (year : Int) {month : Nat} (h : 1 ≤ month) :
    daysBeforeMonth year (month + 1) = daysBeforeMonth year month + daysInMonth year month := by
  obtain ⟨n, rfl⟩ : ∃ n, month = n + 1 := ⟨month - 1, by omega⟩
  simp only [daysBeforeMonth, daysInMonth, Nat.add_sub_cancel, Nat.succ_ne_zero, if_false]
  rw [List.take_add_one, List.foldl_append]
  cases (monthLengths year)[n]? <;> simp

lemma daysBeforeMonth_mono (year : Int) {m n : Nat} (hm : 1 ≤ m) (h : m ≤ n) :
    daysBeforeMonth year m ≤ daysBeforeMonth year n := by
  induction n, h using Nat.le_induction with
  | base => exact Nat.le_refl _
  | succ n hn ih =>
      rw [daysBeforeMonth_add_one year (Nat.le_trans hm hn)]
      exact Nat.le_trans ih (Nat.le_add_right _ _)

/-- Behind the last month the year is over. -/
lemma daysBeforeMonth_thirteen (year : Int) : daysBeforeMonth year 13 = yearLength year := by
  cases h : isLeapYear year <;> simp [daysBeforeMonth, monthLengths, yearLength, h]

/-- Only the months from 1 to 12 have days. -/
lemma month_of_daysInMonth {year : Int} {month : Nat} (h : daysInMonth year month ≠ 0) :
    1 ≤ month ∧ month ≤ 12 := by
  have hlength : (monthLengths year).length = 12 := rfl
  unfold daysInMonth at h
  split at h
  · contradiction
  · by_cases hlast : month ≤ 12
    · omega
    · rw [List.getElem?_eq_none (by omega)] at h
      contradiction

lemma daysInMonth_le (year : Int) (month : Nat) : daysInMonth year month ≤ 31 := by
  by_cases h : daysInMonth year month = 0
  · omega
  · obtain ⟨hfirst, hlast⟩ := month_of_daysInMonth h
    cases hleap : isLeapYear year <;> interval_cases month <;>
      simp [daysInMonth, monthLengths, hleap]

/-- No month is longer than in a leap year. -/
lemma daysInMonth_le_of_isLeapYear {leap : Int} (hleap : isLeapYear leap = true) (year : Int)
    (month : Nat) : daysInMonth year month ≤ daysInMonth leap month := by
  by_cases h : daysInMonth year month = 0
  · omega
  · obtain ⟨hfirst, hlast⟩ := month_of_daysInMonth h
    cases hyear : isLeapYear year <;> interval_cases month <;>
      simp [daysInMonth, monthLengths, hyear, hleap]

/-! ### Dates in order -/

namespace Date

/-- The month of the date has its day. -/
structure Valid (d : Date) : Prop where
  one_le_day : 1 ≤ d.day
  day_le : d.day ≤ daysInMonth d.year d.month

variable {d e : Date}

lemma Valid.month (h : d.Valid) : 1 ≤ d.month ∧ d.month ≤ 12 := by
  have hday : 1 ≤ daysInMonth d.year d.month := Nat.le_trans h.one_le_day h.day_le
  exact month_of_daysInMonth (Nat.one_le_iff_ne_zero.mp hday)

/-- The months from the beginning of year 0 to the month of the date, that one included. -/
def monthNumber (d : Date) : Int := d.year * 12 + d.month

/-- The date lies in its month. -/
lemma Valid.toDays_mem (h : d.Valid) :
    toDays ⟨d.year, d.month, 1⟩ ≤ d.toDays ∧ d.toDays < toDays ⟨d.year, d.month + 1, 1⟩ := by
  have hone := h.one_le_day
  have hlast := h.day_le
  have hnext := daysBeforeMonth_add_one d.year h.month.1
  simp only [toDays]
  omega

/-- The date lies in its year. -/
lemma Valid.mem_year (h : d.Valid) :
    toDays ⟨d.year, 1, 1⟩ ≤ d.toDays ∧ d.toDays ≤ toDays ⟨d.year, 12, 31⟩ := by
  have hmem := h.toDays_mem
  have hfirst := daysBeforeMonth_mono d.year (Nat.le_refl 1) h.month.1
  have hlast : daysBeforeMonth d.year (d.month + 1) ≤ daysBeforeMonth d.year 13 :=
    daysBeforeMonth_mono d.year (Nat.le_add_left 1 d.month) (Nat.succ_le_succ h.month.2)
  have hend : daysBeforeMonth d.year 13 = daysBeforeMonth d.year 12 + daysInMonth d.year 12 :=
    daysBeforeMonth_add_one d.year (by decide)
  have hdecember : daysInMonth d.year 12 = 31 := rfl
  simp only [toDays] at *
  omega

/-- In a year, days ascend with months. -/
lemma toDays_lt_of_month_lt (hd : d.Valid) (he : e.Valid) (hyear : d.year = e.year)
    (h : d.month < e.month) : d.toDays < e.toDays := by
  have hd' := hd.toDays_mem
  have he' := he.toDays_mem
  have hmonths := daysBeforeMonth_mono e.year (Nat.le_add_left 1 d.month) h
  simp only [toDays, hyear] at *
  omega

/-- Days ascend with years. -/
lemma toDays_lt_of_year_lt (hd : d.Valid) (he : e.Valid) (h : d.year < e.year) :
    d.toDays < e.toDays := by
  have hyears := daysBeforeYear_add_yearLength_le h
  have hend : daysBeforeMonth d.year 12 + daysInMonth d.year 12 = yearLength d.year := by
    rw [← daysBeforeMonth_thirteen, ← daysBeforeMonth_add_one d.year (by decide)]
  have hdecember : daysInMonth d.year 12 = 31 := rfl
  have hjanuary : daysBeforeMonth e.year 1 = 0 := rfl
  have hd' := hd.mem_year
  have he' := he.mem_year
  simp only [toDays] at *
  omega

/-- Days ascend with the months of all years. -/
lemma toDays_lt_of_monthNumber_lt (hd : d.Valid) (he : e.Valid)
    (h : d.monthNumber < e.monthNumber) : d.toDays < e.toDays := by
  have hmonth := hd.month
  have hmonth' := he.month
  simp only [monthNumber] at h
  rcases Int.lt_trichotomy d.year e.year with hyear | hyear | hyear
  · exact toDays_lt_of_year_lt hd he hyear
  · exact toDays_lt_of_month_lt hd he hyear (by omega)
  · omega

/-- Two dates with the same number are the same. -/
lemma toDays_injOn (hd : d.Valid) (he : e.Valid) (h : d.toDays = e.toDays) : d = e := by
  have hnumber : d.monthNumber = e.monthNumber := by
    rcases Int.lt_trichotomy d.monthNumber e.monthNumber with hlt | heq | hlt
    · have := toDays_lt_of_monthNumber_lt hd he hlt
      omega
    · exact heq
    · have := toDays_lt_of_monthNumber_lt he hd hlt
      omega
  have hmonth := hd.month
  have hmonth' := he.month
  obtain ⟨year, month, day⟩ := d
  obtain ⟨year', month', day'⟩ := e
  simp only [monthNumber] at hnumber hmonth hmonth'
  obtain rfl : year = year' := by omega
  obtain rfl : month = month' := by omega
  simp only [toDays] at h
  obtain rfl : day = day' := by omega
  rfl

/-- A date that is not later than the end of the year of an earlier one lies in that year. -/
lemma year_eq_of_toDays_le (hd : d.Valid) (he : e.Valid) (h : d.toDays ≤ e.toDays)
    (hend : e.toDays ≤ toDays ⟨d.year, 12, 31⟩) : e.year = d.year := by
  have hdecember : Valid ⟨d.year, 12, 31⟩ := ⟨by simp, Nat.le_refl 31⟩
  rcases Int.lt_trichotomy d.year e.year with hlt | heq | hgt
  · have := toDays_lt_of_year_lt hdecember he hlt
    omega
  · exact heq.symm
  · have := toDays_lt_of_year_lt he hd hgt
    omega

/-- A week after a date it is still the same year, unless that is late in December. -/
lemma Valid.toDays_add_week_le (hd : d.Valid) (hend : d.month = 12 → d.day + 7 ≤ 31) :
    d.toDays + 7 ≤ toDays ⟨d.year, 12, 31⟩ := by
  by_cases htwelve : d.month = 12
  · have := hend htwelve
    simp only [toDays, htwelve]
    omega
  · have hmem := hd.toDays_mem
    have hlast := hd.month.2
    have hmonths := daysBeforeMonth_mono d.year (Nat.le_add_left 1 d.month)
      (show d.month + 1 ≤ 12 by omega)
    simp only [toDays] at hmem ⊢
    omega

/-! ### The date of a day -/

/-- The days before a year, by the periods of four hundred, a hundred, four and one year that are
over. -/
lemma daysBeforeYear_of_periods (cycles : Int) {centuries quads years : Nat}
    (hcenturies : centuries ≤ 3) (hquads : quads ≤ 24) (hyears : years ≤ 3) :
    daysBeforeYear (400 * cycles + 100 * centuries + 4 * quads + years + 1)
      = 146097 * cycles + 36524 * centuries + 1461 * quads + 365 * years := by
  simp only [daysBeforeYear]
  omega

/-- The year that holds a day, and the days of the year before it. -/
lemma yearAndDay_eq (days : Int) :
    daysBeforeYear (yearAndDay days).1 + (yearAndDay days).2 = days
      ∧ (yearAndDay days).2 < yearLength (yearAndDay days).1 := by
  obtain ⟨inCycle, hinCycle⟩ : ∃ n : Nat, days % 146097 = n :=
    Int.eq_ofNat_of_zero_le (Int.emod_nonneg days (by decide))
  have hcycle : days = 146097 * (days / 146097) + inCycle := by omega
  have hbound : inCycle < 146097 := by omega
  simp only [yearAndDay, hinCycle, Int.toNat_natCast]
  obtain ⟨centuries, hcenturies⟩ : ∃ n, n = min (inCycle / 36524) 3 := ⟨_, rfl⟩
  obtain ⟨inCentury, hinCentury⟩ : ∃ n, n = inCycle - centuries * 36524 := ⟨_, rfl⟩
  obtain ⟨years, hyears⟩ : ∃ n, n = min (inCentury % 1461 / 365) 3 := ⟨_, rfl⟩
  rw [← hcenturies, ← hinCentury, ← hyears,
    daysBeforeYear_of_periods _ (by omega) (by omega) (by omega)]
  refine ⟨by omega, ?_⟩
  -- Only the last year of a period is long, and not the last one of a hundred years.
  by_cases hshort : inCentury % 1461 - years * 365 < 365
  · unfold yearLength
    split <;> omega
  · have hleap : isLeapYear (400 * (days / 146097) + 100 * centuries
        + 4 * (inCentury / 1461 : Nat) + years + 1) = true := by
      rw [isLeapYear_iff]
      omega
    rw [yearLength, if_pos hleap]
    omega

/-- The month that holds a day of the year, and the days of the month before it. -/
lemma monthAndDay_eq {lengths : List Nat} {rest : Nat} (h : rest < lengths.foldl (· + ·) 0)
    (first : Nat) :
    ∃ k before, monthAndDay lengths first rest = (first + k, before + 1)
      ∧ (lengths.take k).foldl (· + ·) 0 + before = rest ∧ before < lengths[k]?.getD 0 := by
  have hfold (l : List Nat) (n : Nat) : l.foldl (· + ·) n = n + l.foldl (· + ·) 0 := by
    induction l generalizing n with
    | nil => rfl
    | cons length l ih =>
        rw [List.foldl_cons, List.foldl_cons, ih, ih (0 + length)]
        omega
  induction lengths generalizing first rest with
  | nil => contradiction
  | cons length lengths ih =>
      rw [List.foldl_cons, hfold] at h
      rw [monthAndDay]
      split
      · next hlt => exact ⟨0, rest, rfl, by simp, by simpa using hlt⟩
      · next hge =>
          obtain ⟨k, before, heq, hsum, hlt⟩ := ih (show rest - length < _ by omega) (first + 1)
          refine ⟨k + 1, before, by rw [heq, Nat.add_assoc, Nat.add_comm 1 k], ?_,
            by simpa using hlt⟩
          rw [List.take_succ_cons, List.foldl_cons, hfold]
          omega

/-- **Every day number is that of a date.** -/
theorem valid_ofDays (days : Int) : (ofDays days).Valid ∧ (ofDays days).toDays = days := by
  obtain ⟨hdays, hrest⟩ := yearAndDay_eq (days + epochDays)
  generalize hyear : yearAndDay (days + epochDays) = found at hdays hrest
  obtain ⟨year, rest⟩ := found
  have hlengths : rest < (monthLengths year).foldl (· + ·) 0 := by
    have := daysBeforeMonth_thirteen year
    simpa [this.symm, daysBeforeMonth, monthLengths] using hrest
  obtain ⟨k, before, hmonth, hsum, hlt⟩ := monthAndDay_eq hlengths 1
  have hdate : ofDays days = ⟨year, 1 + k, before + 1⟩ := by
    simp only [ofDays, hyear, hmonth]
  have hlength : before < daysInMonth year (1 + k) := by
    simpa [daysInMonth, Nat.add_comm 1 k] using hlt
  have hbefore : daysBeforeMonth year (1 + k) + before = rest := by
    simpa [daysBeforeMonth, Nat.add_comm 1 k] using hsum
  rw [hdate]
  refine ⟨⟨Nat.le_add_left 1 before, hlength⟩, ?_⟩
  simp only [toDays] at hdays ⊢
  omega

@[simp]
lemma toDays_ofDays (days : Int) : (ofDays days).toDays = days := (valid_ofDays days).2

/-- **Every date is that of its number.** -/
theorem ofDays_toDays (hd : d.Valid) : ofDays d.toDays = d :=
  toDays_injOn (valid_ofDays _).1 hd (toDays_ofDays _)

/-- Some days later, in the same month. -/
lemma ofDays_toDays_add {n : Nat} (hd : Valid ⟨d.year, d.month, d.day + n⟩) :
    ofDays (d.toDays + n) = ⟨d.year, d.month, d.day + n⟩ := by
  have hdays : d.toDays + n = toDays ⟨d.year, d.month, d.day + n⟩ := by
    simp only [toDays]
    omega
  rw [hdays, ofDays_toDays hd]

lemma Valid.year_ofDays_add_week (hd : d.Valid) (hend : d.month = 12 → d.day + 7 ≤ 31) :
    (ofDays (d.toDays + 7)).year = d.year := by
  obtain ⟨hlater, hdays⟩ := valid_ofDays (d.toDays + 7)
  have hyear := hd.toDays_add_week_le hend
  exact year_eq_of_toDays_le hd hlater (by omega) (by omega)

/-! ### Dates with a year in range -/

lemma ofYmd?_eq_some_iff {year : Int} {month day : Nat} :
    ofYmd? year month day = some d ↔
      d = ⟨year, month, day⟩ ∧ d.Valid ∧ firstYear ≤ year ∧ year ≤ lastYear := by
  simp only [ofYmd?, Option.ite_none_right_eq_some, Option.some.injEq]
  constructor
  · rintro ⟨⟨hfirst, hlast, hone, hday⟩, rfl⟩
    exact ⟨rfl, ⟨hone, hday⟩, hfirst, hlast⟩
  · rintro ⟨rfl, ⟨hone, hday⟩, hfirst, hlast⟩
    exact ⟨⟨hfirst, hlast, hone, hday⟩, rfl⟩

/-- A date of a year in range lies between the first and the last day. -/
lemma Valid.mem_days (hd : d.Valid) (hfirst : firstYear ≤ d.year) (hlast : d.year ≤ lastYear) :
    firstDay ≤ d.toDays ∧ d.toDays ≤ lastDay := by
  have hmem := hd.mem_year
  constructor
  · rcases Int.lt_or_eq_of_le hfirst with hlt | heq
    · exact Int.le_of_lt (toDays_lt_of_year_lt ⟨Nat.le_refl 1, by decide⟩ hd hlt)
    · rw [firstDay, heq]
      exact hmem.1
  · rcases Int.lt_or_eq_of_le hlast with hlt | heq
    · exact Int.le_of_lt (toDays_lt_of_year_lt hd ⟨by decide, by decide⟩ hlt)
    · rw [lastDay, ← heq]
      exact hmem.2

/-- A date some months on is one of the month with that number. -/
lemma exists_of_addMonths? {months : Int} (hd : d.Valid) (h : d.addMonths? months = some e) :
    e.Valid ∧ e.monthNumber = d.monthNumber + months := by
  obtain ⟨heq, he, -, -⟩ := ofYmd?_eq_some_iff.mp h
  refine ⟨he, ?_⟩
  have hmonth := hd.month
  rw [heq]
  simp only [monthNumber]
  omega

end Date

end ChatCommand
