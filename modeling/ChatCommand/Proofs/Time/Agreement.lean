/-
Moments that agree with the calendar fields they were asked by.

A place in the calendar that is over is moved on by days, by a month or by a year. A month that is
too short for the day of the month gives its last day instead, and the day asked for is lost.

* `Instant.hour`, `Instant.minute`, `Instant.second`, `Weekday.IsOn`: what a clock and a calendar
  show;
* `TimePattern.IsClockOf`, `TimePattern.Agrees`: a moment shows the fields of a pattern;
* `Date.day_eq_iff_of_month_later`, `Date.day_eq_iff_of_year_later`: when the day of the month is
  kept;
* `TimePattern.agrees_first`, `TimePattern.MovesOn.agrees_iff`: what agrees at first and after the
  move;
* `TimePattern.LosesDay`, `TimePattern.forall_agrees_iff`: **a moment that is found agrees with all
  fields exactly if no day is lost**.
-/
import ChatCommand.Proofs.Time.Ahead

namespace ChatCommand

/-! ### What clocks and calendars show -/

namespace Instant

/-- The hour that a clock shows. -/
def hour (i : Instant) : Int := i.nanosOfDay / nanosPerSecond / 3600

/-- The minute that a clock shows. -/
def minute (i : Instant) : Int := i.nanosOfDay / nanosPerSecond / 60 % 60

/-- The second that a clock shows. -/
def second (i : Instant) : Int := i.nanosOfDay / nanosPerSecond % 60

end Instant

/-- Day 0, the first of January 1970, was a Thursday. -/
def Weekday.IsOn (w : Weekday) (day : Int) : Prop := (day + 3) % 7 = w.index

/-- The weekday comes after the days until it. -/
lemma Weekday.isOn_add_daysUntil (w : Weekday) (day : Int) : w.IsOn (day + w.daysUntil day) := by
  have hindex : w.index < 7 := by cases w <;> decide
  simp only [IsOn, daysUntil]
  omega

namespace TimePattern

variable {p : TimePattern} {i j now first moment : Instant}

/-- A clock shows the time of day of the pattern, to the nanosecond. What is not mentioned is 0. -/
structure IsClockOf (p : TimePattern) (i : Instant) : Prop where
  hour : i.hour = amount p.hour
  minute : i.minute = amount p.minute
  second : i.second = amount p.second
  subsecond : i.subsecond = 0

/-- The moment has the time of day that was asked for. It has the weekday if one was asked for, and
else every part of the date that was. -/
structure Agrees (p : TimePattern) (i : Instant) : Prop where
  clock : p.IsClockOf i
  weekday : ∀ w, p.weekday = some w → w.IsOn i.day
  year : p.weekday = none → ∀ y, p.year = some y → i.date.year = y.toInt
  month : p.weekday = none → ∀ m, p.month = some m → (i.date.month : Int) = m.toInt
  day : p.weekday = none → ∀ d, p.day = some d → (i.date.day : Int) = d.toInt

/-- The time of day of a pattern is a number of nanoseconds. -/
lemma isClockOf_iff {nanos : Int}
    (h : nanosOfClock? (amount p.hour) (amount p.minute) (amount p.second) = some nanos) :
    p.IsClockOf i ↔ i.nanosOfDay = nanos := by
  simp only [nanosOfClock?, Option.ite_none_right_eq_some, Option.some.injEq] at h
  obtain ⟨hclock, rfl⟩ := h
  constructor
  · rintro ⟨hhour, hminute, hsecond, hsubsecond⟩
    simp only [Instant.hour, Instant.minute, Instant.second, Instant.subsecond, Instant.nanosOfDay,
      nanosPerDay, nanosPerSecond] at *
    omega
  · intro hnanos
    refine ⟨?_, ?_, ?_, ?_⟩ <;>
      simp only [Instant.hour, Instant.minute, Instant.second, Instant.subsecond,
        Instant.nanosOfDay, nanosPerDay, nanosPerSecond] at * <;>
      omega

end TimePattern

/-! ### Days of months -/

namespace Date

variable {d e : Date}

/-- Every month has 28 days. -/
lemma le_daysInMonth (year : Int) {month : Nat} (hfirst : 1 ≤ month) (hlast : month ≤ 12) :
    28 ≤ daysInMonth year month := by
  cases hleap : isLeapYear year <;> interval_cases month <;>
    simp [daysInMonth, monthLengths, hleap]

/-- Some months later it is the same day of the month, or the last one. -/
lemma day_of_addMonths? {months : Int} (h : d.addMonths? months = some e) :
    e.day = min d.day (daysInMonth e.year e.month) := by
  obtain ⟨rfl, -, -, -⟩ := ofYmd?_eq_some_iff.mp h
  rfl

/-- A month later the day of the month is the same unless the next month is too short, which is
never January. -/
lemma day_eq_iff_of_month_later (hd : d.Valid) (h : d.addMonths? 1 = some e) :
    e.day = d.day ↔ ¬(d.month < 12 ∧ daysInMonth d.year (d.month + 1) < d.day) := by
  obtain ⟨he, hnumber⟩ := exists_of_addMonths? hd h
  have hmonth := hd.month
  have hmonth' := he.month
  have hlength := hd.day_le
  simp only [monthNumber] at hnumber
  rw [day_of_addMonths? h]
  by_cases hlast : d.month < 12
  · obtain ⟨hyear, hnext⟩ : e.year = d.year ∧ e.month = d.month + 1 := by omega
    rw [hyear, hnext]
    omega
  · have hjanuary : daysInMonth e.year e.month = 31 := by
      rw [show e.month = 1 by omega]
      rfl
    have := daysInMonth_le d.year d.month
    omega

/-- The date some months later exists if its year is kept. -/
lemma Valid.exists_addMonths? (hd : d.Valid) (months : Int)
    (hfirst : firstYear * 12 < d.monthNumber + months)
    (hlast : d.monthNumber + months ≤ (lastYear + 1) * 12) : ∃ e, d.addMonths? months = some e := by
  have hone := hd.one_le_day
  have hmonth := hd.month
  simp only [monthNumber] at hfirst hlast
  obtain ⟨total, htotal⟩ : ∃ total, d.year * 12 + ((d.month : Int) - 1) + months = total := ⟨_, rfl⟩
  have hlength := le_daysInMonth (total / 12) (show 1 ≤ (total % 12).toNat + 1 by omega)
    (by omega)
  refine ⟨_, ofYmd?_eq_some_iff.mpr ⟨rfl, ⟨?_, ?_⟩, ?_⟩⟩
  · simp only [htotal]
    omega
  · exact Nat.min_le_right _ _
  · simp only [htotal]
    omega

/-- A moment of the date is moved on by months that keep its year in range. -/
lemma Valid.exists_addMonths?_ofDate {nanos : Int} (hd : d.Valid)
    (hnanos : 0 ≤ nanos ∧ nanos < nanosPerDay) (months : Int) (hmonths : months ≠ 0)
    (hfirst : firstYear * 12 < d.monthNumber + months)
    (hlast : d.monthNumber + months ≤ (lastYear + 1) * 12) :
    ∃ moment, (Instant.ofDate d nanos).addMonths? months = some moment := by
  have hdate : (Instant.ofDate d nanos).date = d := Instant.date_ofDay hnanos.1 hnanos.2 hd
  obtain ⟨later, hlater⟩ := hd.exists_addMonths? months hfirst hlast
  rw [Instant.addMonths?, if_neg hmonths, hdate, hlater]
  exact ⟨_, rfl⟩

/-- Only February has different lengths. -/
lemma daysInMonth_eq {month : Nat} (h : month ≠ 2) (year other : Int) :
    daysInMonth year month = daysInMonth other month := by
  by_cases hmonth : 1 ≤ month ∧ month ≤ 12
  · obtain ⟨hfirst, hlast⟩ := hmonth
    interval_cases month <;> first | rfl | contradiction
  · have hnone (y : Int) : daysInMonth y month = 0 := by
      by_contra hsome
      exact hmonth (month_of_daysInMonth hsome)
    rw [hnone, hnone]

lemma daysInMonth_february (year : Int) :
    daysInMonth year 2 = if isLeapYear year then 29 else 28 := rfl

/-- The last year has no 29 February. -/
lemma Valid.year_ne_lastYear (hd : d.Valid) (hfebruary : d.month = 2) (hday : d.day = 29) :
    d.year ≠ lastYear := by
  intro hyear
  have hlength := hd.day_le
  rw [hfebruary, hday, hyear] at hlength
  contradiction

/-- A year later the day of the month is the same, but for 29 February. -/
lemma day_eq_iff_of_year_later (hd : d.Valid) (h : d.addMonths? 12 = some e) :
    e.day = d.day ↔ ¬(d.month = 2 ∧ d.day = 29) := by
  obtain ⟨he, hnumber⟩ := exists_of_addMonths? hd h
  have hmonth := hd.month
  have hmonth' := he.month
  have hlength := hd.day_le
  simp only [monthNumber] at hnumber
  obtain ⟨hyear, hsame⟩ : e.year = d.year + 1 ∧ e.month = d.month := by omega
  rw [day_of_addMonths? h, hyear, hsame]
  by_cases hfebruary : d.month = 2
  · rw [hfebruary, daysInMonth_february] at hlength ⊢
    cases hleap : isLeapYear d.year with
    | true =>
        -- There are not two leap years in a row.
        have hnext : isLeapYear (d.year + 1) = false := by
          rw [isLeapYear_iff] at hleap
          rw [Bool.eq_false_iff, ne_eq, isLeapYear_iff]
          omega
        simp only [hleap, if_true] at hlength
        simp only [hnext, Bool.false_eq_true, if_false, true_and]
        omega
    | false =>
        simp only [hleap, Bool.false_eq_true, if_false] at hlength
        split <;> omega
  · rw [daysInMonth_eq hfebruary (d.year + 1) d.year]
    omega

end Date

/-! ### The first moment -/

namespace TimePattern

variable {p : TimePattern} {i now first moment : Instant} {today date : Date}

/-- The date of the calendar fields has those that are given. -/
lemma fields_of_calendarDate? (h : p.calendarDate? today = some date) :
    date.Valid ∧ (∀ y, p.year = some y → date.year = y.toInt)
      ∧ (∀ m, p.month = some m → (date.month : Int) = m.toInt)
      ∧ ∀ d, p.day = some d → (date.day : Int) = d.toInt := by
  simp only [calendarDate?, Option.ite_none_right_eq_some, Date.ofYmd?_eq_some_iff] at h
  obtain ⟨⟨hmonth, hday⟩, rfl, hvalid, -⟩ := h
  refine ⟨hvalid, ?_, ?_, ?_⟩
  · intro y hy
    simp [hy]
  · intro m hm
    simp only [hm, Option.map_some, Option.getD_some] at hmonth ⊢
    exact Int.toNat_of_nonneg hmonth
  · intro d hd
    simp only [hd] at hday ⊢
    exact Int.toNat_of_nonneg hday

/-- The first moment agrees with the pattern. -/
lemma agrees_first (h : p.candidate? now = some first) : p.Agrees first := by
  obtain ⟨nanos, start, date, hclock, -, hdate, rfl⟩ := exists_of_candidate? h
  obtain ⟨hvalid, hyear, hmonth, hday⟩ := fields_of_calendarDate? hdate
  have hnanos := nanosOfClock?_mem hclock
  have hfirst (hweekday : p.weekday = none) : (Instant.ofDay (date.toDays
      + (p.weekday.map (·.daysUntil date.toDays)).getD 0) nanos).date = date := by
    rw [hweekday, Option.map_none, Option.getD_none, Int.add_zero]
    exact Instant.date_ofDay hnanos.1 hnanos.2 hvalid
  constructor
  · exact (isClockOf_iff hclock).mpr (Instant.nanosOfDay_ofDay hnanos.1 hnanos.2 _)
  · intro w hw
    rw [Instant.day_ofDay hnanos.1 hnanos.2, hw, Option.map_some, Option.getD_some]
    exact w.isOn_add_daysUntil date.toDays
  · intro hweekday
    rwa [hfirst hweekday]
  · intro hweekday
    rwa [hfirst hweekday]
  · intro hweekday
    rwa [hfirst hweekday]

/-! ### Days that are lost -/

/-- At the same time of day a clock shows the same. -/
lemma IsClockOf.congr (h : p.IsClockOf first) (hnanos : moment.nanosOfDay = first.nanosOfDay) :
    p.IsClockOf moment := by
  obtain ⟨hhour, hminute, hsecond, hsubsecond⟩ := h
  refine ⟨?_, ?_, ?_, ?_⟩
  · rwa [Instant.hour, hnanos]
  · rwa [Instant.minute, hnanos]
  · rwa [Instant.second, hnanos]
  · simp only [Instant.subsecond, Instant.nanosOfDay, nanosPerDay, nanosPerSecond] at *
    omega

/-- The day of the date is not one of the next month, or it is 29 February where a month was asked
for and the next year is looked at. -/
def IsLost (p : TimePattern) (date : Date) : Prop :=
  match p.month with
  | none => date.month < 12 ∧ daysInMonth date.year (date.month + 1) < date.day
  | some _ => date.month = 2 ∧ date.day = 29

/-- Neither a year nor a weekday is asked for, but a day that was there this month, or in the given
month this year. Now it is over, and it is lost. -/
structure LosesDay (p : TimePattern) (now : Instant) : Prop where
  year : p.year = none
  weekday : p.weekday = none
  day : p.day.isSome
  late : ∃ date nanos, p.calendarDate? now.date = some date
    ∧ nanosOfClock? (amount p.hour) (amount p.minute) (amount p.second) = some nanos
    ∧ ¬now < .ofDate date nanos ∧ p.IsLost date

/-- After a move by months to the month asked for, what is asked for is there if the day is. -/
lemma Agrees.iff_of_months (h : p.Agrees first) (hyear : p.year = none)
    (hnanos : moment.nanosOfDay = first.nanosOfDay) (hweekday : p.weekday = none)
    (hmonth : p.month.isSome → moment.date.month = first.date.month) :
    p.Agrees moment ↔ (p.day.isSome → moment.date.day = first.date.day) := by
  constructor
  · intro hmoment hday
    obtain ⟨d, hd⟩ := Option.isSome_iff_exists.mp hday
    have hsame : (moment.date.day : Int) = first.date.day := by
      rw [hmoment.day hweekday d hd, h.day hweekday d hd]
    exact Int.ofNat.inj hsame
  · intro hday
    refine ⟨h.clock.congr hnanos, ?_, ?_, ?_, ?_⟩
    · intro w hw
      simp [hweekday] at hw
    · intro _ y hy
      simp [hyear] at hy
    · intro _ m hm
      rw [hmonth (by simp [hm])]
      exact h.month hweekday m hm
    · intro _ d hd
      rw [hday (by simp [hd])]
      exact h.day hweekday d hd

/-- After the move the moment still agrees with the pattern, unless the day is lost. -/
lemma MovesOn.agrees_iff (h : p.MovesOn first moment) (hfirst : p.Agrees first)
    (hyear : p.year = none) :
    p.Agrees moment ↔ ¬(p.weekday = none ∧ p.day.isSome ∧ p.IsLost first.date) := by
  have hdate : first.date.Valid := (Date.valid_ofDays first.day).1
  cases h with
  | week hweekday h =>
      obtain ⟨w, hw⟩ := Option.isSome_iff_exists.mp hweekday
      have hon := hfirst.weekday w hw
      refine iff_of_true ⟨hfirst.clock.congr (Instant.nanosOfDay_of_addSpan? 7 h), ?_, ?_, ?_, ?_⟩
        (by simp [hw])
      · intro w' hw'
        obtain rfl : w = w' := Option.some.inj (hw.symm.trans hw')
        rw [Weekday.IsOn] at hon ⊢
        have := Instant.day_of_addSpan? 7 h
        omega
      all_goals
        intro hnone
        simp [hw] at hnone
  | year hweekday hmonth h =>
      obtain ⟨hnanos, hlater⟩ := Instant.date_of_addMonths? (by decide) h
      obtain ⟨hvalid, hnumber⟩ := Date.exists_of_addMonths? hdate hlater
      have hthis := hdate.month
      have hthat := hvalid.month
      simp only [Date.monthNumber] at hnumber
      obtain ⟨m, hm⟩ := Option.isSome_iff_exists.mp hmonth
      rw [hfirst.iff_of_months hyear hnanos hweekday fun _ => by omega,
        Date.day_eq_iff_of_year_later hdate hlater]
      simp only [hweekday, IsLost, hm, true_and, not_and]
  | month hweekday hmonth hday h =>
      obtain ⟨hnanos, hlater⟩ := Instant.date_of_addMonths? (by decide) h
      rw [hfirst.iff_of_months hyear hnanos hweekday fun hsome => by simp [hmonth] at hsome,
        Date.day_eq_iff_of_month_later hdate hlater]
      simp only [hweekday, IsLost, hmonth, true_and, not_and]
  | day hweekday hmonth hday h =>
      have hnanos := Instant.nanosOfDay_of_addSpan? 1 h
      rw [hfirst.iff_of_months hyear hnanos hweekday fun hsome => by simp [hmonth] at hsome]
      simp [hday]

/-- Where a day is lost there is a moment to move on to. -/
lemma IsLost.exists_movesOn {nanos : Int} (h : p.IsLost date) (hvalid : date.Valid)
    (hrange : Date.firstYear ≤ date.year ∧ date.year ≤ Date.lastYear)
    (hnanos : 0 ≤ nanos ∧ nanos < nanosPerDay) (hweekday : p.weekday = none) (hday : p.day.isSome) :
    ∃ moment, p.MovesOn (.ofDate date nanos) moment := by
  have hmonth := hvalid.month
  rw [IsLost] at h
  cases hm : p.month with
  | none =>
      simp only [hm] at h
      obtain ⟨moment, hmoment⟩ := hvalid.exists_addMonths?_ofDate hnanos 1 (by decide)
        (by simp only [Date.monthNumber]; omega) (by simp only [Date.monthNumber]; omega)
      exact ⟨moment, .month hweekday hm hday hmoment⟩
  | some m =>
      simp only [hm] at h
      have hnotLast := hvalid.year_ne_lastYear h.1 h.2
      obtain ⟨moment, hmoment⟩ := hvalid.exists_addMonths?_ofDate hnanos 12 (by decide)
        (by simp only [Date.monthNumber]; omega) (by simp only [Date.monthNumber]; omega)
      exact ⟨moment, .year hweekday (by simp [hm]) hmoment⟩

/-- Where a day is lost, the first moment is over, and the one it is moved on to does not agree. -/
lemma LosesDay.exists_not_agrees (h : p.LosesDay now) (hoffset : p.dayOffset = none) :
    ∃ moment, p.resolveDefinitive? now = some moment ∧ ¬p.Agrees moment := by
  obtain ⟨hyear, hweekday, hday, date, nanos, hdate, hclock, hlate, hlost⟩ := h
  have hnanos := nanosOfClock?_mem hclock
  obtain ⟨hvalid, hrange, -⟩ := (calendarDate?_eq_some_iff hyear).mp hdate
  obtain ⟨moment, hmoves⟩ := hlost.exists_movesOn hvalid hrange hnanos hweekday hday
  have hfirst : p.candidate? now = some (.ofDate date nanos) := by
    have hlast := (hvalid.mem_days hrange.1 hrange.2).2
    have hdate : p.calendarDate? (Date.ofDays now.day) = some date := hdate
    simp [candidate?, startDay?, hclock, hoffset, hdate, hweekday, hlast, Instant.ofDate]
  refine ⟨moment, resolveDefinitive?_eq_some_iff.mpr
    ⟨_, hfirst, .inr ⟨hlate, hyear, hoffset, hmoves⟩⟩, ?_⟩
  rw [hmoves.agrees_iff (agrees_first hfirst) hyear, not_not]
  refine ⟨hweekday, hday, ?_⟩
  rwa [show (Instant.ofDate date nanos).date = date from
    Instant.date_ofDay hnanos.1 hnanos.2 hvalid]

/-- A moment that does not agree has been moved on, and the day was lost. -/
lemma losesDay_of_not_agrees (h : p.resolveDefinitive? now = some moment)
    (hoffset : p.dayOffset = none) (hnot : ¬p.Agrees moment) : p.LosesDay now := by
  obtain ⟨first, hfirst, hcases⟩ := resolveDefinitive?_eq_some_iff.mp h
  have hagrees := agrees_first hfirst
  rcases hcases with ⟨-, rfl⟩ | ⟨hlate, hyear, -, hmoves⟩
  · contradiction
  · rw [hmoves.agrees_iff hagrees hyear, not_not] at hnot
    obtain ⟨hweekday, hday, hlost⟩ := hnot
    obtain ⟨nanos, start, date, hclock, hstart, hdate, rfl⟩ := exists_of_candidate? hfirst
    have hnanos := nanosOfClock?_mem hclock
    obtain rfl : now.day = start := by simpa [startDay?, hoffset] using hstart
    obtain ⟨hvalid, -⟩ := fields_of_calendarDate? hdate
    simp only [hweekday, Option.map_none, Option.getD_none, Int.add_zero] at hlate hlost
    rw [Instant.date_ofDay hnanos.1 hnanos.2 hvalid] at hlost
    exact ⟨hyear, hweekday, hday, date, nanos, hdate, hclock, hlate, hlost⟩

/-- **A moment that is found agrees with all that was asked for exactly if no day is lost**, where
the day is not counted from today. -/
theorem forall_agrees_iff (hp : p.rule = .definitive) (hoffset : p.dayOffset = none) :
    (∀ moment, p.resolve? now = some moment → p.Agrees moment) ↔ ¬p.LosesDay now := by
  have hresolve : p.resolve? now = p.resolveDefinitive? now := by
    simp only [resolve?, hp]
  rw [hresolve]
  constructor
  · intro h hloses
    obtain ⟨moment, hmoment, hnot⟩ := hloses.exists_not_agrees hoffset
    exact hnot (h moment hmoment)
  · intro h moment hmoment
    by_contra hnot
    exact h (losesDay_of_not_agrees hmoment hoffset hnot)

/-- "On the 31st at noon", seen on 31 December 2024 at noon: it is 31 January then. -/
theorem exists_agrees_january :
    ∃ p : TimePattern, p.rule = .definitive ∧ p.dayOffset = none ∧ p.day = some 31
      ∧ p.resolve? ⟨1735646400 * nanosPerSecond⟩ = some ⟨1738324800 * nanosPerSecond⟩
      ∧ p.Agrees ⟨1738324800 * nanosPerSecond⟩ := by
  let p : TimePattern := { rule := .definitive, day := some 31, hour := some 12 }
  have hresolve : p.resolve? ⟨1735646400 * nanosPerSecond⟩
      = some ⟨1738324800 * nanosPerSecond⟩ := by
    decide +kernel
  have hkept : ¬p.LosesDay ⟨1735646400 * nanosPerSecond⟩ := by
    intro h
    obtain ⟨date, nanos, hdate, -, -, hlost⟩ := h.late
    have hdecember : p.calendarDate? (Instant.date ⟨1735646400 * nanosPerSecond⟩)
        = some ⟨2024, 12, 31⟩ := by
      decide +kernel
    obtain rfl := Option.some.inj (hdate.symm.trans hdecember)
    exact Nat.lt_irrefl 12 hlost.1
  exact ⟨p, rfl, rfl, rfl, hresolve, (forall_agrees_iff rfl rfl).mpr hkept _ hresolve⟩

/-- The 31st, seen on 31 January 2024 at noon, is found to be 29 February. -/
theorem not_agrees_february :
    resolve? { rule := .definitive, day := some 31 } ⟨1706702400 * nanosPerSecond⟩
        = some ⟨1709164800 * nanosPerSecond⟩
      ∧ Instant.date ⟨1709164800 * nanosPerSecond⟩ = ⟨2024, 2, 29⟩
      ∧ ¬Agrees { rule := .definitive, day := some 31 } ⟨1709164800 * nanosPerSecond⟩ := by
  have hdate : Instant.date ⟨1709164800 * nanosPerSecond⟩ = ⟨2024, 2, 29⟩ := by decide +kernel
  refine ⟨by decide +kernel, hdate, fun h => ?_⟩
  have hday := h.day rfl 31 rfl
  rw [hdate] at hday
  exact absurd hday (by decide)

end TimePattern

end ChatCommand
