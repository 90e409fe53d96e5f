/-
How the next place in the calendar is looked for.

* `Instant.hasDate_iff`, `Instant.day_of_addSpan?`, `Instant.date_of_addMonths?`: days and months
  added to an instant;
* `TimePattern.exists_of_candidate?`: the first moment that is looked at;
* `TimePattern.MovesOn`, `TimePattern.resolveDefinitive?_eq_some_iff`: the moment that is found is
  the first one, or **where that is over, it is moved on by days, by a month or by a year**.
-/
import ChatCommand.Proofs.Time.Calendar
import ChatCommand.Time.Resolution

namespace ChatCommand

/-! ### Instants -/

namespace Instant

variable {i j : Instant} {d : Date} {nanos months : Int}

/-- An instant has a date if its year is among those kept. -/
lemma hasDate_iff :
    i.HasDate ↔ Date.firstYear ≤ i.date.year ∧ i.date.year ≤ Date.lastYear := by
  have hdate : i.date.Valid := (Date.valid_ofDays i.day).1
  have hday : i.date.toDays = i.day := Date.toDays_ofDays i.day
  refine ⟨fun h => ⟨?_, ?_⟩, fun ⟨hfirst, hlast⟩ => ?_⟩
  · by_contra hyear
    have hless := Date.toDays_lt_of_year_lt (e := ⟨Date.firstYear, 1, 1⟩) hdate
      ⟨Nat.le_refl 1, by decide⟩ (Int.not_le.mp hyear)
    rw [hday] at hless
    exact absurd h.1 (Int.not_le.mpr hless)
  · by_contra hyear
    have hless := Date.toDays_lt_of_year_lt (d := ⟨Date.lastYear, 12, 31⟩)
      ⟨by decide, by decide⟩ hdate (Int.not_le.mp hyear)
    rw [hday] at hless
    exact absurd h.2 (Int.not_le.mpr hless)
  · rw [HasDate, ← hday]
    exact hdate.mem_days hfirst hlast

lemma lt_of_day_lt (h : i.day < j.day) : i < j := by
  show i.total < j.total
  simp only [Instant.day, nanosPerDay, nanosPerSecond] at h
  omega

lemma nanosOfDay_mem (i : Instant) : 0 ≤ i.nanosOfDay ∧ i.nanosOfDay < nanosPerDay := by
  simp only [Instant.nanosOfDay, nanosPerDay, nanosPerSecond]
  omega

/-- The same time of day some days later, if that day has a date. -/
lemma addSpan?_ofDay {day : Int} (days : Int) (h : (ofDay (day + days) nanos).HasDate) :
    (ofDay day nanos).addSpan? (.ofSeconds (days * 86400)) = some (ofDay (day + days) nanos) := by
  have htotal : (⟨(ofDay day nanos).total + (Span.ofSeconds (days * 86400)).total⟩ : Instant)
      = ofDay (day + days) nanos := by
    simp only [ofDay, Span.ofSeconds, nanosPerDay, nanosPerSecond, Instant.mk.injEq]
    omega
  simp only [addSpan?, htotal, if_pos h]

/-- Some days later the day is that many days later. -/
lemma day_of_addSpan? (days : Int) (h : i.addSpan? (.ofSeconds (days * 86400)) = some j) :
    j.day = i.day + days := by
  simp only [addSpan?, Option.ite_none_right_eq_some, Option.some.injEq] at h
  obtain ⟨-, rfl⟩ := h
  simp only [Instant.day, Span.ofSeconds, nanosPerDay, nanosPerSecond]
  omega

lemma date_ofDay (h₀ : 0 ≤ nanos) (h₁ : nanos < nanosPerDay) (hd : d.Valid) :
    (ofDay d.toDays nanos).date = d := by
  rw [Instant.date, day_ofDay h₀ h₁, Date.ofDays_toDays hd]

/-- Some days later it is the same time of day. -/
lemma nanosOfDay_of_addSpan? (days : Int) (h : i.addSpan? (.ofSeconds (days * 86400)) = some j) :
    j.nanosOfDay = i.nanosOfDay := by
  simp only [addSpan?, Option.ite_none_right_eq_some, Option.some.injEq] at h
  obtain ⟨-, rfl⟩ := h
  simp only [Instant.nanosOfDay, Span.ofSeconds, nanosPerDay, nanosPerSecond]
  omega

/-- Some months later it is the same time of day, on the date that many months later. -/
lemma date_of_addMonths? (hmonths : months ≠ 0) (h : i.addMonths? months = some j) :
    j.nanosOfDay = i.nanosOfDay ∧ i.date.addMonths? months = some j.date := by
  rw [addMonths?, if_neg hmonths] at h
  obtain ⟨d, hd, rfl⟩ := Option.map_eq_some_iff.mp h
  obtain ⟨hvalid, -⟩ := Date.exists_of_addMonths? (Date.valid_ofDays i.day).1 hd
  have hnanos := i.nanosOfDay_mem
  rw [ofDate, date_ofDay hnanos.1 hnanos.2 hvalid, nanosOfDay_ofDay hnanos.1 hnanos.2]
  exact ⟨rfl, hd⟩

end Instant

lemma Weekday.daysUntil_mem (w : Weekday) (day : Int) :
    0 ≤ w.daysUntil day ∧ w.daysUntil day < 7 := by
  unfold Weekday.daysUntil
  omega

namespace TimePattern

variable {p : TimePattern} {now first moment : Instant}

/-! ### The first moment -/

lemma nanosOfClock?_mem {hour minute second nanos : Int}
    (h : nanosOfClock? hour minute second = some nanos) : 0 ≤ nanos ∧ nanos < nanosPerDay := by
  simp only [nanosOfClock?, Option.ite_none_right_eq_some, Option.some.injEq] at h
  obtain ⟨hclock, rfl⟩ := h
  simp only [nanosPerDay, nanosPerSecond]
  omega

/-- The first matching moment is at the time of day, on the first given weekday from the date of the
calendar fields on. -/
lemma exists_of_candidate? (h : p.candidate? now = some first) :
    ∃ nanos start date,
      nanosOfClock? (amount p.hour) (amount p.minute) (amount p.second) = some nanos
      ∧ p.startDay? now = some start ∧ p.calendarDate? (Date.ofDays start) = some date
      ∧ first = .ofDay (date.toDays + (p.weekday.map (·.daysUntil date.toDays)).getD 0) nanos := by
  simp only [candidate?, Option.bind_eq_bind, Option.bind_eq_some_iff,
    Option.ite_none_right_eq_some, Option.some.injEq] at h
  obtain ⟨nanos, hnanos, start, hstart, date, hdate, -, rfl⟩ := h
  exact ⟨nanos, start, date, hnanos, hstart, hdate, rfl⟩

/-! ### The move -/

/-- A first moment that is over is moved on by a week if a weekday is asked for, else by a year if a
month is, else by a month if a day is, and else by a day. -/
inductive MovesOn (p : TimePattern) (first : Instant) : Instant → Prop
  | week {moment : Instant} (hweekday : p.weekday.isSome)
      (h : first.addSpan? (.ofSeconds (7 * 86400)) = some moment) : MovesOn p first moment
  | year {moment : Instant} (hweekday : p.weekday = none) (hmonth : p.month.isSome)
      (h : first.addMonths? 12 = some moment) : MovesOn p first moment
  | month {moment : Instant} (hweekday : p.weekday = none) (hmonth : p.month = none)
      (hday : p.day.isSome) (h : first.addMonths? 1 = some moment) : MovesOn p first moment
  | day {moment : Instant} (hweekday : p.weekday = none) (hmonth : p.month = none)
      (hday : p.day = none) (h : first.addSpan? (.ofSeconds (1 * 86400)) = some moment) :
      MovesOn p first moment

/-- The moment is the first one if that is later than now. Else it is moved on, unless the year is
given or the day is counted from today. -/
lemma resolveDefinitive?_eq_some_iff :
    p.resolveDefinitive? now = some moment ↔
      ∃ first, p.candidate? now = some first
        ∧ (now < first ∧ moment = first
          ∨ ¬now < first ∧ p.year = none ∧ p.dayOffset = none ∧ p.MovesOn first moment) := by
  simp only [resolveDefinitive?, Option.bind_eq_bind, Option.bind_eq_some_iff]
  refine exists_congr fun first => and_congr_right fun _ => ?_
  by_cases hfirst : now < first
  · simp [hfirst, eq_comm]
  rw [if_neg hfirst]
  by_cases hclosed : p.year.isSome ∨ p.dayOffset.isSome
  · rw [if_pos hclosed]
    simp only [hfirst, reduceCtorEq, false_and, not_false_eq_true, true_and, false_or, false_iff]
    rintro ⟨hyear, hoffset, -⟩
    simp [hyear, hoffset] at hclosed
  rw [if_neg hclosed]
  obtain ⟨hyear, hoffset⟩ : p.year = none ∧ p.dayOffset = none := by simpa using hclosed
  simp only [hfirst, hyear, hoffset, false_and, not_false_eq_true, true_and, false_or]
  constructor
  · intro h
    split at h
    · next hweekday => exact .week hweekday h
    next hweekday =>
    have hweekday : p.weekday = none := by simpa using hweekday
    split at h
    · next hmonth => exact .year hweekday hmonth h
    next hmonth =>
    have hmonth : p.month = none := by simpa using hmonth
    split at h
    · next hday => exact .month hweekday hmonth hday h
    · next hday => exact .day hweekday hmonth (by simpa using hday) h
  · intro h
    cases h with
    | week hweekday h => rwa [if_pos hweekday]
    | year hweekday hmonth h => simpa [hweekday, hmonth] using h
    | month hweekday hmonth hday h => simpa [hweekday, hmonth, hday] using h
    | day hweekday hmonth hday h => simpa [hweekday, hmonth, hday] using h

end TimePattern

end ChatCommand
