/-
Times of day and weekdays point at the next moment that shows them.

* `TimePattern.IsClockTime`: a time of day, perhaps with a weekday, and nothing else;
* `TimePattern.IsEarliest`: the earliest moment after now that agrees with a pattern;
* `Instant.day_le_of_lt`, `Instant.not_lt_of_day_le`: the order of instants by their days;
* `TimePattern.wait`, `TimePattern.period`: the days to the first day that may agree, and from one
  such day to the next;
* `TimePattern.Agrees.wait_le`, `TimePattern.Agrees.period_le`: no day between these agrees;
* `TimePattern.isEarliest_first`, `TimePattern.isEarliest_next`: the earliest moment is the first
  one, or where that is over, the next one;
* `TimePattern.IsClockTime.exists_isEarliest`: **a time of day points at the earliest moment after
  now that agrees with it**.
-/
import ChatCommand.Proofs.Time.Agreement

namespace ChatCommand

namespace Instant

variable {i j : Instant}

/-- An instant that is later than another is not on a day before. -/
lemma day_le_of_lt (h : i < j) : i.day ≤ j.day := by
  have htotal : i.total < j.total := h
  simp only [Instant.day, nanosPerDay, nanosPerSecond]
  omega

/-- Of two instants at one time of day, the one on the later day is not earlier. -/
lemma not_lt_of_day_le (hnanos : i.nanosOfDay = j.nanosOfDay) (h : i.day ≤ j.day) : ¬j < i := by
  intro hlt
  have htotal : j.total < i.total := hlt
  simp only [Instant.day, Instant.nanosOfDay, nanosPerDay, nanosPerSecond] at *
  omega

end Instant

namespace TimePattern

variable {p : TimePattern} {now first moment later : Instant} {nanos day : Int}

/-- A time of day, perhaps with a weekday. What is not mentioned of the time is 0. -/
structure IsClockTime (p : TimePattern) : Prop where
  rule : p.rule = .definitive
  year : p.year = none
  month : p.month = none
  day : p.day = none
  dayOffset : p.dayOffset = none
  hour : 0 ≤ amount p.hour ∧ amount p.hour < 24
  minute : 0 ≤ amount p.minute ∧ amount p.minute < 60
  second : 0 ≤ amount p.second ∧ amount p.second < 60

/-- The moment is later than now and agrees with the pattern, and no earlier one does. -/
structure IsEarliest (p : TimePattern) (now moment : Instant) : Prop where
  after : now < moment
  agrees : p.Agrees moment
  least : ∀ later, now < later → p.Agrees later → ¬later < moment

/-! ### Days that may agree -/

/-- The days from a day to the first one with the weekday, which may be that day itself. -/
def wait (p : TimePattern) (day : Int) : Int := (p.weekday.map (·.daysUntil day)).getD 0

/-- The days from one day with the weekday to the next. -/
def period (p : TimePattern) : Int := if p.weekday.isSome then 7 else 1

lemma period_mem (p : TimePattern) : 1 ≤ p.period ∧ p.period ≤ 7 := by
  rw [period]
  split <;> omega

lemma wait_nonneg (p : TimePattern) (day : Int) : 0 ≤ p.wait day := by
  rw [wait]
  cases p.weekday with
  | none => exact Int.le_refl 0
  | some w => exact (w.daysUntil_mem day).1

/-- A moment that agrees with the pattern is not on a day before the first one that may. -/
lemma Agrees.wait_le (h : p.Agrees later) (hday : day ≤ later.day) : day + p.wait day ≤ later.day := by
  rw [wait]
  cases hw : p.weekday with
  | none =>
      rw [Option.map_none, Option.getD_none]
      omega
  | some w =>
      have hon := h.weekday w hw
      rw [Weekday.IsOn] at hon
      rw [Option.map_some, Option.getD_some, Weekday.daysUntil]
      omega

/-- Behind a day that may agree, a moment that agrees with the pattern is not on a day before the
next one that may. -/
lemma Agrees.period_le (h : p.Agrees later) (hwait : p.wait day = 0) (hday : day < later.day) :
    day + p.period ≤ later.day := by
  rw [period]
  cases hw : p.weekday with
  | none =>
      rw [Option.isSome_none, if_neg Bool.false_ne_true]
      omega
  | some w =>
      have hon := h.weekday w hw
      rw [Weekday.IsOn] at hon
      rw [wait, hw, Option.map_some, Option.getD_some, Weekday.daysUntil] at hwait
      rw [Option.isSome_some, if_pos rfl]
      omega

/-! ### The moment that is found -/

namespace IsClockTime

/-- The time of day is a number of nanoseconds. -/
lemma exists_nanos (hp : p.IsClockTime) :
    ∃ nanos, nanosOfClock? (amount p.hour) (amount p.minute) (amount p.second) = some nanos :=
  ⟨_, if_pos ⟨hp.hour.1, hp.hour.2, hp.minute.1, hp.minute.2, hp.second.1, hp.second.2⟩⟩

/-- The first moment is today or on the next day with the weekday. -/
lemma candidate?_eq (hp : p.IsClockTime) (hnow : now.HasDate) (hweek : now.day + 7 ≤ Date.lastDay)
    (hnanos : nanosOfClock? (amount p.hour) (amount p.minute) (amount p.second) = some nanos) :
    p.candidate? now = some (.ofDay (now.day + p.wait now.day) nanos) := by
  obtain ⟨hvalid, htoday⟩ := Date.valid_ofDays now.day
  have hdate : p.calendarDate? (Date.ofDays now.day) = some (Date.ofDays now.day) := by
    refine (calendarDate?_eq_some_iff hp.year).mpr
      ⟨hvalid, Instant.hasDate_iff.mp hnow, rfl, ?_, ?_⟩
    · simp [hp.month]
    · simp [dayFrom, hp.month, hp.day]
  have hlast : now.day + p.wait now.day ≤ Date.lastDay := by
    cases hw : p.weekday with
    | none =>
        simp only [wait, hw, Option.map_none, Option.getD_none]
        omega
    | some w =>
        have := w.daysUntil_mem now.day
        simp only [wait, hw, Option.map_some, Option.getD_some]
        omega
  simp only [wait] at hlast
  simp [candidate?, hnanos, startDay?, hp.dayOffset, hdate, htoday, hlast, wait]

/-- A first moment that is over is moved on to the next day that may agree. -/
lemma movesOn (hp : p.IsClockTime) (h : (Instant.ofDay (day + p.period) nanos).HasDate) :
    p.MovesOn (.ofDay day nanos) (.ofDay (day + p.period) nanos) := by
  have hmoment := Instant.addSpan?_ofDay p.period h
  cases hw : p.weekday with
  | none =>
      have hone : p.period = 1 := by rw [period, hw, Option.isSome_none, if_neg Bool.false_ne_true]
      rw [hone] at hmoment ⊢
      exact .day hw hp.month hp.day hmoment
  | some w =>
      have hsome : p.weekday.isSome := by simp [hw]
      have hseven : p.period = 7 := by rw [period, if_pos hsome]
      rw [hseven] at hmoment ⊢
      exact .week hsome hmoment

end IsClockTime

/-! ### The earliest moment -/

/-- All moments that agree with a pattern are at one time of day. -/
lemma Agrees.nanosOfDay_eq (h : p.Agrees later)
    (hclock : nanosOfClock? (amount p.hour) (amount p.minute) (amount p.second) = some nanos) :
    later.nanosOfDay = nanos :=
  (isClockOf_iff hclock).mp h.clock

/-- The first moment is the earliest one if it is later than now. -/
lemma isEarliest_first
    (hclock : nanosOfClock? (amount p.hour) (amount p.minute) (amount p.second) = some nanos)
    (hagrees : p.Agrees (.ofDay (now.day + p.wait now.day) nanos))
    (hafter : now < .ofDay (now.day + p.wait now.day) nanos) :
    p.IsEarliest now (.ofDay (now.day + p.wait now.day) nanos) := by
  have hnanos := nanosOfClock?_mem hclock
  refine ⟨hafter, hagrees, fun later hlate hlater => ?_⟩
  refine Instant.not_lt_of_day_le ?_ ?_
  · rw [hagrees.nanosOfDay_eq hclock, hlater.nanosOfDay_eq hclock]
  · rw [Instant.day_ofDay hnanos.1 hnanos.2]
    exact hlater.wait_le (Instant.day_le_of_lt hlate)

/-- If the first moment is today and over, the earliest one is on the next day that may agree. -/
lemma isEarliest_next
    (hclock : nanosOfClock? (amount p.hour) (amount p.minute) (amount p.second) = some nanos)
    (hwait : p.wait now.day = 0) (hover : ¬now < .ofDay now.day nanos)
    (hagrees : p.Agrees (.ofDay (now.day + p.period) nanos)) :
    p.IsEarliest now (.ofDay (now.day + p.period) nanos) := by
  have hnanos := nanosOfClock?_mem hclock
  have hday := Instant.day_ofDay hnanos.1 hnanos.2 (now.day + p.period)
  constructor
  · refine Instant.lt_of_day_lt ?_
    rw [hday]
    have := p.period_mem
    omega
  · exact hagrees
  · intro later hlate hlater
    refine Instant.not_lt_of_day_le ?_ ?_
    · rw [hagrees.nanosOfDay_eq hclock, hlater.nanosOfDay_eq hclock]
    · rw [hday]
      refine hlater.period_le hwait ?_
      -- On the same day it would be the first moment, which is over.
      by_contra hle
      have hsame : (Instant.ofDay now.day nanos).nanosOfDay = later.nanosOfDay := by
        rw [Instant.nanosOfDay_ofDay hnanos.1 hnanos.2, hlater.nanosOfDay_eq hclock]
      have hnotLater : ¬Instant.ofDay now.day nanos < later :=
        Instant.not_lt_of_day_le hsame.symm (by
          rw [Instant.day_ofDay hnanos.1 hnanos.2]
          omega)
      have hnow : now.total < later.total := hlate
      have hfirst : ¬now.total < (Instant.ofDay now.day nanos).total := hover
      have hnotLater : ¬(Instant.ofDay now.day nanos).total < later.total := hnotLater
      omega

namespace IsClockTime

/-- **A time of day, perhaps with a weekday, points at the earliest moment after now that shows
it**, wherever a week from now still has a date. -/
theorem exists_isEarliest (hp : p.IsClockTime) (hnow : now.HasDate)
    (hweek : now.day + 7 ≤ Date.lastDay) :
    ∃ moment, p.resolve? now = some moment ∧ p.IsEarliest now moment := by
  obtain ⟨nanos, hclock⟩ := hp.exists_nanos
  have hnanos := nanosOfClock?_mem hclock
  have hfirst := hp.candidate?_eq hnow hweek hclock
  have hagrees := agrees_first hfirst
  have hresolve : p.resolve? now = p.resolveDefinitive? now := by
    simp only [resolve?, hp.rule]
  rw [hresolve]
  by_cases hafter : now < .ofDay (now.day + p.wait now.day) nanos
  · exact ⟨_, resolveDefinitive?_eq_some_iff.mpr ⟨_, hfirst, .inl ⟨hafter, rfl⟩⟩,
      isEarliest_first hclock hagrees hafter⟩
  · have hwait : p.wait now.day = 0 := by
      have hnonneg := p.wait_nonneg now.day
      by_contra hne
      refine hafter (Instant.lt_of_day_lt ?_)
      rw [Instant.day_ofDay hnanos.1 hnanos.2]
      omega
    rw [hwait, Int.add_zero] at hfirst hagrees hafter
    have hdate : (Instant.ofDay (now.day + p.period) nanos).HasDate := by
      have hperiod := p.period_mem
      have hearlier := hnow.1
      rw [Instant.HasDate, Instant.day_ofDay hnanos.1 hnanos.2]
      omega
    have hmoves := hp.movesOn hdate
    have hnext : p.Agrees (.ofDay (now.day + p.period) nanos) :=
      (hmoves.agrees_iff hagrees hp.year).mpr fun h => by simp [hp.day] at h
    exact ⟨_, resolveDefinitive?_eq_some_iff.mpr
      ⟨_, hfirst, .inr ⟨hafter, hp.year, hp.dayOffset, hmoves⟩⟩,
      isEarliest_next hclock hwait hafter hnext⟩

/-- "On Monday at 8", seen on a Monday at 8: the next one is the Monday after that. -/
theorem isEarliest_next_monday :
    ∃ p : TimePattern, p.IsClockTime ∧ p.weekday = some .mon ∧ p.hour = some 8
      ∧ p.resolve? ⟨1716192000 * nanosPerSecond⟩ = some ⟨1716796800 * nanosPerSecond⟩
      ∧ p.IsEarliest ⟨1716192000 * nanosPerSecond⟩ ⟨1716796800 * nanosPerSecond⟩ := by
  let p : TimePattern := { rule := .definitive, weekday := some .mon, hour := some 8 }
  have hp : p.IsClockTime := by
    refine ⟨rfl, rfl, rfl, rfl, rfl, ?_, ?_, ?_⟩ <;> decide
  have hnow : Instant.HasDate ⟨1716192000 * nanosPerSecond⟩ := by decide +kernel
  obtain ⟨moment, hmoment, hearliest⟩ := hp.exists_isEarliest hnow (by decide +kernel)
  have hmonday : p.resolve? ⟨1716192000 * nanosPerSecond⟩
      = some ⟨1716796800 * nanosPerSecond⟩ := by
    decide +kernel
  obtain rfl := Option.some.inj (hmoment.symm.trans hmonday)
  exact ⟨p, hp, rfl, rfl, hmonday, hearliest⟩

end IsClockTime

end TimePattern

end ChatCommand
