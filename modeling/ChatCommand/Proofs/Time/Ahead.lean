/-
Places in the calendar, seen from now.

A place in the calendar is looked for from today's year, month and day on as far as these are left
open, and moved on once if it is not later than now. Where a weekday is looked for from a day of
the month, it is moved on by one week, which need not be enough.

* `Instant.toDays_lt_of_addMonths?`: months that lead ahead of a date;
* `TimePattern.calendarDate?_eq_some_iff`: where the search begins;
* `TimePattern.SeeksWeekdayEarly`: it begins with a weekday so early that there is another week;
* `TimePattern.lt_of_resolveDefinitive?`: other patterns point ahead of now;
* `TimePattern.exists_leapYear`, `TimePattern.SeeksWeekdayEarly.exists_late`: these do not always;
* `TimePattern.forall_lt_iff`: **a place in the calendar is always later than now exactly if no
  weekday is looked for that early**.
-/
import ChatCommand.Proofs.Time.Moving

namespace ChatCommand

/-- Some months later it is later than any date of a month with a smaller number. -/
lemma Instant.toDays_lt_of_addMonths? {i j : Instant} {months : Int} (hmonths : months ≠ 0)
    {today : Date} (htoday : today.Valid) (hahead : today.monthNumber < i.date.monthNumber + months)
    (h : i.addMonths? months = some j) : today.toDays < j.day := by
  obtain ⟨-, hlater⟩ := date_of_addMonths? hmonths h
  obtain ⟨hvalid, hnumber⟩ := Date.exists_of_addMonths? (Date.valid_ofDays i.day).1 hlater
  rw [← Date.toDays_ofDays j.day]
  exact Date.toDays_lt_of_monthNumber_lt htoday hvalid (hnumber ▸ hahead)

namespace TimePattern

variable {p : TimePattern} {now first moment : Instant}

/-! ### Where the search begins -/

/-- The day of the month that a month or a day in the pattern stands for. -/
def dayOfMonth (p : TimePattern) : Int := (p.day.map Int64.toInt).getD 1

/-- The day of the month from which the search begins: today's if month and day are left open. -/
def dayFrom (p : TimePattern) (today : Date) : Int :=
  if p.month = none ∧ p.day = none then today.day else p.dayOfMonth

/-- Without a year, the date of the calendar fields lies in this year, and without a month in this
month. -/
lemma calendarDate?_eq_some_iff {today date : Date} (hyear : p.year = none) :
    p.calendarDate? today = some date ↔
      date.Valid ∧ (Date.firstYear ≤ date.year ∧ date.year ≤ Date.lastYear)
        ∧ date.year = today.year
        ∧ (date.month : Int) = (p.month.map Int64.toInt).getD today.month
        ∧ (date.day : Int) = p.dayFrom today := by
  have hfields : p.calendarDate? today =
      let month := (p.month.map Int64.toInt).getD today.month
      if 0 ≤ month ∧ 0 ≤ p.dayFrom today then
        Date.ofYmd? today.year month.toNat (p.dayFrom today).toNat
      else none := by
    obtain ⟨_, _, year, month, day⟩ := p
    obtain rfl : year = none := hyear
    cases month <;> cases day <;> rfl
  simp only [hfields, Option.ite_none_right_eq_some, Date.ofYmd?_eq_some_iff]
  constructor
  · rintro ⟨⟨hmonth, hday⟩, rfl, hvalid, hrange⟩
    exact ⟨hvalid, hrange, rfl, Int.toNat_of_nonneg hmonth, Int.toNat_of_nonneg hday⟩
  · rintro ⟨hvalid, hrange, hsame, hmonth, hday⟩
    rw [← hmonth, ← hday, ← hsame, Int.toNat_natCast, Int.toNat_natCast]
    exact ⟨⟨Int.natCast_nonneg _, Int.natCast_nonneg _⟩, rfl, hvalid, hrange⟩

/-- Where month and day are left open too, the search begins today. -/
lemma eq_of_calendarDate? {today date : Date} (hyear : p.year = none) (hmonth : p.month = none)
    (hday : p.day = none) (h : p.calendarDate? today = some date) : date = today := by
  obtain ⟨-, -, hsame, hthis, hfrom⟩ := (calendarDate?_eq_some_iff hyear).mp h
  have hthis : date.month = today.month := by simpa [hmonth] using hthis
  have hfrom : date.day = today.day := by simpa [dayFrom, hmonth, hday] using hfrom
  obtain ⟨year, month, day⟩ := date
  obtain rfl : year = today.year := hsame
  obtain rfl : month = today.month := hthis
  obtain rfl : day = today.day := hfrom
  rfl

/-! ### Weekdays that are looked for early -/

/-- The month and the day name a date that lies a week or more before the end of the year, or the
day alone lies a week or more before the end of a long month. -/
def StartsEarly (p : TimePattern) : Prop :=
  match p.month with
  | none => p.day.isSome ∧ 1 ≤ p.dayOfMonth ∧ p.dayOfMonth + 7 ≤ 31
  | some m =>
    0 ≤ m.toInt ∧ 1 ≤ p.dayOfMonth ∧ p.dayOfMonth ≤ daysInMonth 2000 m.toInt.toNat
      ∧ (m.toInt = 12 → p.dayOfMonth + 7 ≤ 31)

/-- A weekday is looked for from some day of this month, or of some month of this year, and there is
another week after that day. -/
structure SeeksWeekdayEarly (p : TimePattern) : Prop where
  year : p.year = none
  dayOffset : p.dayOffset = none
  weekday : p.weekday.isSome
  clock : (nanosOfClock? (amount p.hour) (amount p.minute) (amount p.second)).isSome
  start : p.StartsEarly

/-- Where a weekday is looked for late, another week leaves the year, or this month if no month is
given. -/
lemma lt_of_not_startsEarly {today date : Date} (htoday : today.Valid) (hyear : p.year = none)
    (h : p.calendarDate? today = some date) (hnamed : ¬(p.month = none ∧ p.day = none))
    (hlate : ¬p.StartsEarly) : today.toDays < date.toDays + 7 := by
  obtain ⟨hvalid, -, hsame, hmonth, hday⟩ := (calendarDate?_eq_some_iff hyear).mp h
  rw [dayFrom, if_neg hnamed] at hday
  have hone := hvalid.one_le_day
  have hlength := hvalid.day_le
  cases hm : p.month with
  | none =>
      have hsome : p.day.isSome := by
        rw [Option.isSome_iff_ne_none]
        exact fun hd => hnamed ⟨hm, hd⟩
      have hend : 31 < p.dayOfMonth + 7 := by
        simp only [StartsEarly, hm] at hlate
        by_contra hle
        exact hlate ⟨hsome, by omega, by omega⟩
      have hthis : date.month = today.month := by simpa [hm] using hmonth
      have htodayLength := Nat.le_trans htoday.day_le (daysInMonth_le today.year today.month)
      simp only [Date.toDays, hsame, hthis]
      omega
  | some m =>
      have hgiven : (date.month : Int) = m.toInt := by simpa [hm] using hmonth
      have hleap : daysInMonth date.year date.month ≤ daysInMonth 2000 date.month :=
        daysInMonth_le_of_isLeapYear (by decide) _ _
      have hend : date.month = 12 ∧ 31 < p.dayOfMonth + 7 := by
        simp only [StartsEarly, hm, ← hgiven, Int.toNat_natCast] at hlate
        by_contra hle
        exact hlate ⟨by omega, by omega, by omega, fun h12 => by omega⟩
      have hyearEnd := htoday.mem_year.2
      simp only [Date.toDays, hsame, hend.1] at hyearEnd ⊢
      omega

/-! ### Ahead of now -/

/-- **A pattern that looks for no weekday early points ahead of now**, whatever else it says. -/
theorem lt_of_resolveDefinitive? (hp : ¬p.SeeksWeekdayEarly)
    (h : p.resolveDefinitive? now = some moment) : now < moment := by
  obtain ⟨first, hfirst, ⟨hlt, rfl⟩ | ⟨-, hyear, hoffset, hmoves⟩⟩ :=
    resolveDefinitive?_eq_some_iff.mp h
  · exact hlt
  obtain ⟨nanos, start, date, hclock, hstart, hdate, rfl⟩ := exists_of_candidate? hfirst
  obtain rfl : now.day = start := by simpa [startDay?, hoffset] using hstart
  have hnanos := nanosOfClock?_mem hclock
  obtain ⟨htoday, htodayDays⟩ := Date.valid_ofDays now.day
  obtain ⟨hvalid, -, hsame, hmonth, -⟩ := (calendarDate?_eq_some_iff hyear).mp hdate
  have hfirstDay := Instant.day_ofDay hnanos.1 hnanos.2 date.toDays
  have hfirstDate := Instant.date_ofDay hnanos.1 hnanos.2 hvalid
  have hopenDay (hm : p.month = none) (hd : p.day = none) : date.toDays = now.day := by
    rw [eq_of_calendarDate? hyear hm hd hdate, htodayDays]
  refine Instant.lt_of_day_lt ?_
  cases hmoves with
  | week hweekday h =>
      obtain ⟨w, hw⟩ := Option.isSome_iff_exists.mp hweekday
      have hweek := w.daysUntil_mem date.toDays
      have hafter := Instant.day_of_addSpan? 7 h
      rw [Instant.day_ofDay hnanos.1 hnanos.2, hw, Option.map_some, Option.getD_some] at hafter
      by_cases hnamed : p.month = none ∧ p.day = none
      · have := hopenDay hnamed.1 hnamed.2
        omega
      · have hstarts : ¬p.StartsEarly := fun hstarts =>
          hp ⟨hyear, hoffset, hweekday, by simp [hclock], hstarts⟩
        have := lt_of_not_startsEarly htoday hyear hdate hnamed hstarts
        omega
  | year hw hm h =>
      rw [hw, Option.map_none, Option.getD_none, Int.add_zero] at h
      rw [← htodayDays]
      refine Instant.toDays_lt_of_addMonths? (by decide) htoday ?_ h
      have hmonthDate := hvalid.month
      have hmonthToday := htoday.month
      simp only [hfirstDate, Date.monthNumber]
      omega
  | month hw hm hd h =>
      rw [hw, Option.map_none, Option.getD_none, Int.add_zero] at h
      rw [← htodayDays]
      refine Instant.toDays_lt_of_addMonths? (by decide) htoday ?_ h
      have hthis : date.month = (Date.ofDays now.day).month := by simpa [hm] using hmonth
      simp only [hfirstDate, Date.monthNumber, hsame, hthis]
      omega
  | day hw hm hd h =>
      rw [hw, Option.map_none, Option.getD_none, Int.add_zero] at h
      have hafter := Instant.day_of_addSpan? 1 h
      have := hopenDay hm hd
      omega

/-! ### Not ahead of now -/

/-- Leap years have the same months. -/
lemma monthLengths_of_isLeapYear {year : Int} (h : isLeapYear year = true) :
    monthLengths year = monthLengths 2000 := by
  simp only [monthLengths, h]
  rfl

/-- Some leap year begins on each day of the week. -/
lemma exists_leapYear (n : Int) :
    ∃ year, isLeapYear year = true ∧ (Date.firstYear ≤ year ∧ year ≤ Date.lastYear)
      ∧ (n - daysBeforeYear year) % 7 = 0 := by
  obtain ⟨k, hk⟩ : ∃ k, k = (3 * n + 6) % 7 := ⟨_, rfl⟩
  have hk0 : 0 ≤ k := by omega
  have hk6 : k ≤ 6 := by omega
  have hdays : daysBeforeYear (2000 + 4 * k) = 730119 + 1461 * k := by
    clear hk
    interval_cases k <;> rfl
  refine ⟨2000 + 4 * k, ?_, ?_, ?_⟩
  · rw [isLeapYear_iff]
    omega
  · simp only [Date.firstYear, Date.lastYear]
    omega
  · omega

/-- The month and the day of the date that the search begins with, in January if no month is
given. -/
lemma StartsEarly.exists_place (hp : p.StartsEarly) :
    ∃ month day : Nat, (month : Int) = (p.month.map Int64.toInt).getD 1
      ∧ (day : Int) = p.dayOfMonth ∧ 1 ≤ day ∧ day ≤ daysInMonth 2000 month
      ∧ (p.month = none ∨ month = 12 → day + 7 ≤ 31) ∧ ¬(p.month = none ∧ p.day = none) := by
  unfold StartsEarly at hp
  cases hm : p.month with
  | none =>
      simp only [hm] at hp
      obtain ⟨hsome, hone, hend⟩ := hp
      have hday : (p.dayOfMonth.toNat : Int) = p.dayOfMonth := Int.toNat_of_nonneg (by omega)
      have hjanuary : daysInMonth 2000 1 = 31 := rfl
      exact ⟨1, p.dayOfMonth.toNat, rfl, hday, by omega, by omega, fun _ => by omega,
        fun hnone => Option.isSome_iff_ne_none.mp hsome hnone.2⟩
  | some m =>
      simp only [hm] at hp
      obtain ⟨hmonth, hone, hlength, hend⟩ := hp
      have hday : (p.dayOfMonth.toNat : Int) = p.dayOfMonth := Int.toNat_of_nonneg (by omega)
      refine ⟨m.toInt.toNat, p.dayOfMonth.toNat, Int.toNat_of_nonneg hmonth, hday, by omega,
        by omega, ?_, by simp⟩
      rintro (hnone | htwelve)
      · contradiction
      · have := hend (by omega)
        omega

/-- A week later it is still the same year, and without a month still January, so the search begins
with the same date again. -/
lemma calendarDate?_add_week {date : Date} (hyear : p.year = none) (hvalid : date.Valid)
    (hrange : Date.firstYear ≤ date.year ∧ date.year ≤ Date.lastYear)
    (hmonth : (date.month : Int) = (p.month.map Int64.toInt).getD 1)
    (hday : (date.day : Int) = p.dayOfMonth) (hnamed : ¬(p.month = none ∧ p.day = none))
    (hend : p.month = none ∨ date.month = 12 → date.day + 7 ≤ 31) :
    p.calendarDate? (Date.ofDays (date.toDays + 7)) = some date := by
  have hsame := hvalid.year_ofDays_add_week fun htwelve => hend (.inr htwelve)
  refine (calendarDate?_eq_some_iff hyear).mpr ⟨hvalid, hrange, hsame.symm, ?_, ?_⟩
  · cases hm : p.month with
    | none =>
        have hjanuary : date.month = 1 := by simpa [hm] using hmonth
        have hlater : Date.Valid ⟨date.year, date.month, date.day + 7⟩ := by
          rw [hjanuary]
          exact ⟨Nat.le_add_left 1 _, hend (.inl hm)⟩
        have hweek := Date.ofDays_toDays_add hlater
        rw [Nat.cast_ofNat] at hweek
        simp [hweek]
    | some m => simpa [hm] using hmonth
  · rw [dayFrom, if_neg hnamed]
    exact hday

/-- The date that the search begins with falls on the weekday in some year, and a week later the
search begins with the same date. -/
lemma StartsEarly.exists_date (hp : p.StartsEarly) (hyear : p.year = none) (w : Weekday) :
    ∃ date : Date, date.Valid ∧ (Date.firstYear ≤ date.year ∧ date.year ≤ Date.lastYear)
      ∧ w.daysUntil date.toDays = 0 ∧ date.toDays + 7 ≤ Date.lastDay
      ∧ p.calendarDate? (Date.ofDays (date.toDays + 7)) = some date := by
  obtain ⟨month, day, hmonth, hday, hone, hlength, hend, hnamed⟩ := hp.exists_place
  obtain ⟨year, hleap, hrange, hweek⟩ := exists_leapYear
    (w.index - 3 + epochDays - daysBeforeMonth 2000 month - (day - 1))
  have hlengths := monthLengths_of_isLeapYear hleap
  have hbefore : daysBeforeMonth year month = daysBeforeMonth 2000 month := by
    simp only [daysBeforeMonth, hlengths]
  have hvalid : Date.Valid ⟨year, month, day⟩ :=
    ⟨hone, by simpa only [daysInMonth, hlengths] using hlength⟩
  refine ⟨⟨year, month, day⟩, hvalid, hrange, ?_, ?_,
    calendarDate?_add_week hyear hvalid hrange hmonth hday hnamed hend⟩
  · simp only [Weekday.daysUntil, Date.toDays, hbefore]
    omega
  · have hdecember : Date.Valid ⟨year, 12, 31⟩ := ⟨by simp, Nat.le_refl 31⟩
    exact Int.le_trans (hvalid.toDays_add_week_le fun htwelve => hend (.inr htwelve))
      (hdecember.mem_days hrange.1 hrange.2).2

/-- **A pattern that looks for a weekday early sometimes points at now itself**, where a week has
gone by since the first one. -/
theorem SeeksWeekdayEarly.exists_late (hp : p.SeeksWeekdayEarly) :
    ∃ now : Instant, now.HasDate ∧ p.resolveDefinitive? now = some now := by
  obtain ⟨w, hw⟩ := Option.isSome_iff_exists.mp hp.weekday
  obtain ⟨nanos, hclock⟩ := Option.isSome_iff_exists.mp hp.clock
  obtain ⟨date, hvalid, hrange, hweek, hlast, hdate⟩ := hp.start.exists_date hp.year w
  have hdays := hvalid.mem_days hrange.1 hrange.2
  have hnanos := nanosOfClock?_mem hclock
  have hnow := Instant.day_ofDay hnanos.1 hnanos.2 (date.toDays + 7)
  have hfirst : p.candidate? (.ofDay (date.toDays + 7) nanos)
      = some (.ofDay date.toDays nanos) := by
    simp [candidate?, hclock, startDay?, hp.dayOffset, hnow, hdate, hw, hweek, hdays.2]
  have hlate : ¬(Instant.ofDay (date.toDays + 7) nanos < .ofDay date.toDays nanos) := by
    show ¬(date.toDays + 7) * nanosPerDay + nanos < date.toDays * nanosPerDay + nanos
    simp only [nanosPerDay, nanosPerSecond]
    omega
  have hdate : (Instant.ofDay (date.toDays + 7) nanos).HasDate := by
    rw [Instant.HasDate, hnow]
    exact ⟨by omega, hlast⟩
  have hweekLater : (Instant.ofDay date.toDays nanos).addSpan? (.ofSeconds (7 * 86400))
      = some (.ofDay (date.toDays + 7) nanos) := Instant.addSpan?_ofDay 7 hdate
  refine ⟨_, hdate, ?_⟩
  simpa [resolveDefinitive?, hfirst, hlate, hp.year, hp.dayOffset, hw] using hweekLater

/-! ### When a place in the calendar is ahead -/

/-- **A place in the calendar is later than every now it is seen from exactly if no weekday is
looked for that early.** -/
theorem forall_lt_iff (hp : p.rule = .definitive) :
    (∀ now moment : Instant, now.HasDate → p.resolve? now = some moment → now < moment)
      ↔ ¬p.SeeksWeekdayEarly := by
  have hresolve (now : Instant) : p.resolve? now = p.resolveDefinitive? now := by
    simp only [resolve?, hp]
  constructor
  · intro h hearly
    obtain ⟨now, hnow, hlate⟩ := hearly.exists_late
    exact Int.lt_irrefl _ (h now now hnow (hresolve now ▸ hlate))
  · intro hearly now moment _ h
    exact lt_of_resolveDefinitive? hearly (hresolve now ▸ h)

/-- "On Monday at 8", seen in the middle of May 2024: a weekday alone is always ahead. -/
theorem exists_forall_lt :
    ∃ p : TimePattern, p.rule = .definitive ∧ p.weekday = some .mon ∧ p.hour = some 8
      ∧ p.resolve? ⟨1715774400 * nanosPerSecond⟩ = some ⟨1716192000 * nanosPerSecond⟩
      ∧ ∀ now moment : Instant, now.HasDate → p.resolve? now = some moment → now < moment := by
  let p : TimePattern := { rule := .definitive, weekday := some .mon, hour := some 8 }
  have hlate : ¬p.SeeksWeekdayEarly := fun h => by simpa [p, StartsEarly] using h.start
  exact ⟨p, rfl, rfl, rfl, by decide +kernel, (forall_lt_iff rfl).mpr hlate⟩

/-- The Monday that is looked for from the first of the month, seen in the middle of May 2024, is
the 13th, which is over. -/
theorem resolve?_monday_from_first :
    (Instant.HasDate ⟨1715774400 * nanosPerSecond⟩)
      ∧ resolve? { rule := .definitive, weekday := some .mon, day := some 1 }
          ⟨1715774400 * nanosPerSecond⟩ = some ⟨1715558400 * nanosPerSecond⟩
      ∧ ¬((⟨1715774400 * nanosPerSecond⟩ : Instant) < ⟨1715558400 * nanosPerSecond⟩) := by
  decide +kernel

end TimePattern

end ChatCommand
