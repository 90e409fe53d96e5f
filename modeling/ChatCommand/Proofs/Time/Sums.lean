/-
Amounts of time and their sums.

* `wrap`: the integer of 64 bits that an integer is kept as;
* `Amounts`: years to seconds as unbounded integers, with the months and the seconds they come to;
* `TimeSum`: amounts of units and patterns put together, with the pattern and the true sums;
* `TimeSum.amounts_of_pattern?`: the pattern has the true sums as they are kept;
* `Instant.advance?`: an instant moved on by months and then by seconds;
* `TimePattern.exists_of_resolve?`: where a relative pattern points;
* `Instant.wrap_eq_of_addMonths?`: months that are kept as other ones lead to no date;
* `TimeSum.exact_iff`: **a moment that is found is the one of the true sums exactly if the months
  fit into 64 bits and the smaller amounts come to the same seconds there**.
-/
import ChatCommand.Proofs.Time.Ahead

namespace ChatCommand

/-! ### Integers of 64 bits -/

/-- The integer of 64 bits that an integer is kept as. -/
def wrap (n : Int) : Int := n.bmod (2 ^ 64)

/-- What is kept has 64 bits and differs by a multiple of their range. -/
lemma wrap_spec (n : Int) :
    (-2 ^ 63 ≤ wrap n ∧ wrap n < 2 ^ 63) ∧ ∃ k, n = wrap n + 2 ^ 64 * k := by
  have hleast := Int.le_bmod (x := n) (m := 2 ^ 64) (by decide)
  have hgreatest := Int.bmod_lt (x := n) (m := 2 ^ 64) (by decide)
  refine ⟨⟨hleast, hgreatest⟩, n.bdiv (2 ^ 64), ?_⟩
  exact (Int.bmod_add_bdiv n (2 ^ 64)).symm

/-- What fits into 64 bits is kept, and nothing else. -/
lemma wrap_eq_self_iff {n : Int} : wrap n = n ↔ -2 ^ 63 ≤ n ∧ n < 2 ^ 63 := by
  obtain ⟨hbounds, k, hk⟩ := wrap_spec n
  constructor
  · intro h
    rwa [h] at hbounds
  · intro hn
    omega

lemma wrap_toInt (x : Int64) : wrap x.toInt = x.toInt :=
  wrap_eq_self_iff.mpr ⟨x.le_toInt, x.toInt_lt⟩

/-- It does not matter which summands of a sum were kept before. -/
lemma wrap_wrap_add (m n : Int) : wrap (wrap m + n) = wrap (m + n) := by
  obtain ⟨-, k, hk⟩ := wrap_spec m
  obtain ⟨hbounds, l, hl⟩ := wrap_spec (wrap m + n)
  obtain ⟨hbounds', l', hl'⟩ := wrap_spec (m + n)
  omega

lemma wrap_add_wrap (m n : Int) : wrap (m + wrap n) = wrap (m + n) := by
  rw [Int.add_comm, wrap_wrap_add, Int.add_comm]

/-! ### Amounts -/

/-- Amounts of the units that patterns have, as large as they may be. -/
@[ext]
structure Amounts where
  year : Int := 0
  month : Int := 0
  day : Int := 0
  hour : Int := 0
  minute : Int := 0
  second : Int := 0

namespace Amounts

/-- So many of a unit, where a week is seven days. -/
def ofUnit : TimeUnit → Int → Amounts
  | .second, n => { second := n }
  | .minute, n => { minute := n }
  | .hour, n => { hour := n }
  | .day, n => { day := n }
  | .week, n => { day := n * 7 }
  | .month, n => { month := n }
  | .year, n => { year := n }

instance : Add Amounts where
  add a b :=
    { year := a.year + b.year, month := a.month + b.month, day := a.day + b.day
      hour := a.hour + b.hour, minute := a.minute + b.minute, second := a.second + b.second }

/-- The months of the years and months. -/
def months (a : Amounts) : Int := a.year * 12 + a.month

/-- The seconds of the days and smaller units. -/
def seconds (a : Amounts) : Int := a.day * 86400 + a.hour * 3600 + a.minute * 60 + a.second

/-- The amounts as they are kept. -/
def wrapped (a : Amounts) : Amounts where
  year := wrap a.year
  month := wrap a.month
  day := wrap a.day
  hour := wrap a.hour
  minute := wrap a.minute
  second := wrap a.second

lemma wrapped_wrapped_add (a b : Amounts) : (a.wrapped + b).wrapped = (a + b).wrapped := by
  ext <;> exact wrap_wrap_add _ _

lemma wrapped_add_wrapped (a b : Amounts) : (a + b.wrapped).wrapped = (a + b).wrapped := by
  ext <;> exact wrap_add_wrap _ _

lemma zero_add (a : Amounts) : {} + a = a := by
  ext <;> exact Int.zero_add _

/-- What is kept of the months depends on what is kept of the years and months. -/
lemma wrap_months_wrapped (a : Amounts) : wrap a.wrapped.months = wrap a.months := by
  have hyears : wrap (wrap a.year * 12) = wrap (a.year * 12) := by
    rw [wrap, wrap, wrap, Int.bmod_mul_bmod]
  calc wrap (wrap a.year * 12 + wrap a.month)
      = wrap (wrap (wrap a.year * 12) + wrap a.month) := (wrap_wrap_add _ _).symm
    _ = wrap (a.year * 12 + a.month) := by rw [hyears, wrap_wrap_add, wrap_add_wrap]

end Amounts

/-- The amounts in a relative pattern. -/
def TimePattern.amounts (p : TimePattern) : Amounts where
  year := amount p.year
  month := amount p.month
  day := amount p.day
  hour := amount p.hour
  minute := amount p.minute
  second := amount p.second

/-! ### Sums -/

/-- Patterns and amounts of units that are put together to one time. -/
inductive TimeSum where
  /-- A relative pattern. -/
  | pattern (p : TimePattern) (hrule : p.rule = .relative)
  /-- So many of a unit. -/
  | amount (unit : TimeUnit) (x : Float)
  /-- A time with another use. -/
  | withUse (e : TimeSum) (use : TimeUse)
  /-- Two times as one. -/
  | merge (e f : TimeSum)

namespace TimeSum

/-- The pattern that the times come to. `none` if two uses or weekdays differ. -/
def pattern? : TimeSum → Option TimePattern
  | pattern p _ => some p
  | amount unit x => some (.relative unit x)
  | withUse e use => e.pattern?.map fun p => { p with use }
  | merge e f => do (← e.pattern?).merge? (← f.pattern?)

/-- The amount of the next smaller unit that a fraction of a unit is rounded to. -/
def spill (unit : TimeUnit) (x : Float) : Amounts :=
  if TimePattern.smallestStep < (fractionOf x).abs then
    match unit.smaller? with
    | none => {}
    | some (smaller, count) =>
      .ofUnit smaller (roundToInt64 (fractionOf x * Float.ofNat count)).toInt
  else {}

/-- The true sums. -/
def amounts : TimeSum → Amounts
  | pattern p _ => p.amounts
  | amount unit x => .ofUnit unit (truncateToInt64 x).toInt + spill unit x
  | withUse e _ => e.amounts
  | merge e f => e.amounts + f.amounts

end TimeSum

namespace TimePattern

lemma amount_plus (field : Option Int64) (n : Int64) :
    amount (plus field n) = wrap (amount field + n.toInt) := Int64.toInt_add _ n

/-- What a field holds is kept as it is. -/
lemma wrapped_amounts (p : TimePattern) : p.amounts.wrapped = p.amounts := by
  ext <;> exact wrap_toInt _

/-- So many more of a unit, as far as they are kept. -/
lemma amounts_addUnit (p : TimePattern) (unit : TimeUnit) (n : Int64) :
    (p.addUnit unit n).amounts = (p.amounts + .ofUnit unit n.toInt).wrapped := by
  have hkeep (field : Option Int64) : amount field = wrap (amount field + 0) := by
    rw [Int.add_zero]
    exact (wrap_toInt _).symm
  have hweek : wrap (amount p.day + (n * 7).toInt) = wrap (amount p.day + n.toInt * 7) := by
    rw [Int64.toInt_mul]
    exact wrap_add_wrap _ _
  have hplus (field : Option Int64) := amount_plus field n
  cases unit with
  | second =>
      exact Amounts.ext (hkeep p.year) (hkeep p.month) (hkeep p.day) (hkeep p.hour)
        (hkeep p.minute) (hplus p.second)
  | minute =>
      exact Amounts.ext (hkeep p.year) (hkeep p.month) (hkeep p.day) (hkeep p.hour)
        (hplus p.minute) (hkeep p.second)
  | hour =>
      exact Amounts.ext (hkeep p.year) (hkeep p.month) (hkeep p.day) (hplus p.hour)
        (hkeep p.minute) (hkeep p.second)
  | day =>
      exact Amounts.ext (hkeep p.year) (hkeep p.month) (hplus p.day) (hkeep p.hour)
        (hkeep p.minute) (hkeep p.second)
  | week =>
      exact Amounts.ext (hkeep p.year) (hkeep p.month) ((amount_plus p.day (n * 7)).trans hweek)
        (hkeep p.hour) (hkeep p.minute) (hkeep p.second)
  | month =>
      exact Amounts.ext (hkeep p.year) (hplus p.month) (hkeep p.day) (hkeep p.hour)
        (hkeep p.minute) (hkeep p.second)
  | year =>
      exact Amounts.ext (hplus p.year) (hkeep p.month) (hkeep p.day) (hkeep p.hour)
        (hkeep p.minute) (hkeep p.second)

lemma amounts_relative (unit : TimeUnit) (x : Float) :
    (relative unit x).amounts = (TimeSum.amount unit x).amounts.wrapped := by
  have hwhole (n : Int64) :
      (({} : TimePattern).addUnit unit n).amounts = (Amounts.ofUnit unit n.toInt).wrapped := by
    rw [amounts_addUnit]
    exact congrArg Amounts.wrapped (Amounts.zero_add _)
  have hnothing (a : Amounts) : (a + {}).wrapped = a.wrapped :=
    congrArg Amounts.wrapped (Amounts.ext (Int.add_zero _) (Int.add_zero _) (Int.add_zero _)
      (Int.add_zero _) (Int.add_zero _) (Int.add_zero _))
  rw [relative, TimeSum.amounts, TimeSum.spill]
  split
  · cases unit.smaller? with
    | none => exact (hwhole _).trans (hnothing _).symm
    | some next => exact (amounts_addUnit _ _ _).trans (by rw [hwhole, Amounts.wrapped_wrapped_add])
  · rw [hwhole, hnothing]

lemma rule_relative (unit : TimeUnit) (x : Float) : (relative unit x).rule = .relative := by
  have hadd (p : TimePattern) (unit : TimeUnit) (n : Int64) :
      (p.addUnit unit n).rule = p.rule := by
    cases unit <;> rfl
  rw [relative]
  split
  · cases unit.smaller? with
    | none => exact hadd _ _ _
    | some next => exact (hadd _ _ _).trans (hadd _ _ _)
  · exact hadd _ _ _

lemma amount_of_mergeField? {x y z : Option Int64} (h : mergeField? .relative x y = some z) :
    amount z = wrap (amount x + amount y) := by
  have hleft (x : Int64) : x.toInt = wrap (x.toInt + 0) := by
    rw [Int.add_zero, wrap_toInt]
  have hright (y : Int64) : y.toInt = wrap (0 + y.toInt) := by
    rw [Int.zero_add, wrap_toInt]
  cases x <;> cases y <;> obtain rfl := Option.some.inj h
  · rfl
  · exact hright _
  · exact hleft _
  · exact Int64.toInt_add _ _

/-- Two relative patterns have the sums of their amounts, as far as they are kept. -/
lemma amounts_merge? {p q r : TimePattern} (hp : p.rule = .relative) (hq : q.rule = .relative)
    (h : p.merge? q = some r) :
    r.rule = .relative ∧ r.amounts = (p.amounts + q.amounts).wrapped := by
  unfold merge? at h
  split at h
  · contradiction
  · rw [if_pos (hp.trans hq.symm), hp] at h
    simp only [Option.bind_eq_bind, Option.bind_eq_some_iff, Option.some.injEq] at h
    obtain ⟨weekday, -, year, hyear, month, hmonth, day, hday, hour, hhour, minute, hminute,
      second, hsecond, dayOffset, -, rfl⟩ := h
    exact ⟨rfl, Amounts.ext (amount_of_mergeField? hyear) (amount_of_mergeField? hmonth)
      (amount_of_mergeField? hday) (amount_of_mergeField? hhour) (amount_of_mergeField? hminute)
      (amount_of_mergeField? hsecond)⟩

end TimePattern

/-- **A pattern holds the true sums as they are kept.** -/
theorem TimeSum.amounts_of_pattern? {e : TimeSum} {p : TimePattern} (h : e.pattern? = some p) :
    p.rule = .relative ∧ p.amounts = e.amounts.wrapped := by
  induction e generalizing p with
  | pattern q hrule =>
      obtain rfl := Option.some.inj h
      exact ⟨hrule, q.wrapped_amounts.symm⟩
  | amount unit x =>
      obtain rfl := Option.some.inj h
      exact ⟨TimePattern.rule_relative unit x, TimePattern.amounts_relative unit x⟩
  | withUse e use ih =>
      obtain ⟨q, hq, rfl⟩ := Option.map_eq_some_iff.mp h
      have hsame : q.rule = .relative ∧ q.amounts = e.amounts.wrapped := ih hq
      exact hsame
  | merge e f ihe ihf =>
      simp only [pattern?, Option.bind_eq_bind, Option.bind_eq_some_iff] at h
      obtain ⟨q, hq, r, hr, h⟩ := h
      obtain ⟨hqrule, hqamounts⟩ := ihe hq
      obtain ⟨hrrule, hramounts⟩ := ihf hr
      obtain ⟨hrule, hamounts⟩ := TimePattern.amounts_merge? hqrule hrrule h
      refine ⟨hrule, ?_⟩
      rw [hamounts, hqamounts, hramounts, Amounts.wrapped_wrapped_add,
        Amounts.wrapped_add_wrapped]
      rfl

/-! ### Moments -/

/-- The instant some months and then some seconds later, with amounts as large as they may be. -/
def Instant.advance? (now : Instant) (a : Amounts) : Option Instant := do
  (← now.addMonths? a.months).addSpan? (.ofSeconds a.seconds)

namespace TimePattern

variable {p : TimePattern}

/-- The months of a pattern are kept in 64 bits. -/
lemma months_eq (p : TimePattern) : p.months = wrap p.amounts.months := by
  rw [months, Int64.toInt_add, Int64.toInt_mul]
  exact wrap_wrap_add _ _

lemma eq_of_boundedSeconds? {m k : Int} (h : boundedSeconds? m = some k) :
    m = k ∧ -longestSpan ≤ k ∧ k ≤ longestSpan := by
  simp only [boundedSeconds?, Option.ite_none_right_eq_some, Option.some.injEq] at h
  obtain ⟨hbounds, rfl⟩ := h
  exact ⟨rfl, hbounds⟩

/-- The seconds of a pattern are those of its amounts, unless they are too many. -/
lemma seconds?_eq_some {n : Int} (h : p.seconds? = some n) :
    n = p.amounts.seconds ∧ -longestSpan ≤ n ∧ n ≤ longestSpan := by
  simp only [seconds?, Option.bind_eq_bind, Option.bind_eq_some_iff] at h
  obtain ⟨days, hdays, hours, hhours, upToHours, hupToHours, minutes, hminutes, upToMinutes,
    hupToMinutes, seconds, hseconds, h⟩ := h
  obtain ⟨hn, hbounds⟩ := eq_of_boundedSeconds? h
  refine ⟨?_, hbounds⟩
  rw [← hn, ← (eq_of_boundedSeconds? hseconds).1, ← (eq_of_boundedSeconds? hupToMinutes).1,
    ← (eq_of_boundedSeconds? hminutes).1, ← (eq_of_boundedSeconds? hupToHours).1,
    ← (eq_of_boundedSeconds? hhours).1, ← (eq_of_boundedSeconds? hdays).1]
  rfl

/-- No amount that comes to seconds is more than the longest span has. -/
lemma amounts_mem_of_seconds? {n : Int} (h : p.seconds? = some n) :
    (-longestSpan ≤ p.amounts.day ∧ p.amounts.day ≤ longestSpan)
      ∧ (-longestSpan ≤ p.amounts.hour ∧ p.amounts.hour ≤ longestSpan)
      ∧ (-longestSpan ≤ p.amounts.minute ∧ p.amounts.minute ≤ longestSpan)
      ∧ -longestSpan ≤ p.amounts.second ∧ p.amounts.second ≤ longestSpan := by
  simp only [seconds?, Option.bind_eq_bind, Option.bind_eq_some_iff] at h
  obtain ⟨days, hdays, hours, hhours, -, -, minutes, hminutes, -, -, seconds, hseconds, -⟩ := h
  have hday := eq_of_boundedSeconds? hdays
  have hhour := eq_of_boundedSeconds? hhours
  have hminute := eq_of_boundedSeconds? hminutes
  have hsecond := eq_of_boundedSeconds? hseconds
  simp only [amounts, longestSpan] at *
  omega

/-- Where a relative pattern points. -/
lemma exists_of_resolve? (hrule : p.rule = .relative) {now moment : Instant}
    (h : p.resolve? now = some moment) :
    ∃ inMonths, now.addMonths? (wrap p.amounts.months) = some inMonths
      ∧ inMonths.addSpan? (.ofSeconds p.amounts.seconds) = some moment
      ∧ -longestSpan ≤ p.amounts.seconds ∧ p.amounts.seconds ≤ longestSpan := by
  simp only [resolve?, hrule, resolveRelative?, Option.bind_eq_bind, Option.bind_eq_some_iff] at h
  obtain ⟨inMonths, hmonths, n, hn, hspan⟩ := h
  obtain ⟨rfl, hbounds⟩ := seconds?_eq_some hn
  rw [months_eq] at hmonths
  exact ⟨inMonths, hmonths, hspan, hbounds⟩

end TimePattern

namespace Instant

variable {now moment : Instant}

/-- Some months on there are only the months of the years that have dates. -/
lemma monthNumber_of_addMonths? {n : Int} (hn : n ≠ 0) (h : now.addMonths? n = some moment) :
    Date.firstYear * 12 ≤ now.date.monthNumber + n
      ∧ now.date.monthNumber + n ≤ Date.lastYear * 12 + 12 := by
  obtain ⟨-, hlater⟩ := date_of_addMonths? hn h
  obtain ⟨hvalid, hnumber⟩ := Date.exists_of_addMonths? (Date.valid_ofDays now.day).1 hlater
  obtain ⟨heq, -, hfirst, hlast⟩ := Date.ofYmd?_eq_some_iff.mp hlater
  have hyear : Date.firstYear ≤ moment.date.year ∧ moment.date.year ≤ Date.lastYear := by
    rw [heq]
    exact ⟨hfirst, hlast⟩
  have hmonth := hvalid.month
  have hnumber : now.date.monthNumber + n = moment.date.year * 12 + moment.date.month :=
    hnumber.symm
  omega

/-- Spans that lead to the same instant are equal. -/
lemma eq_of_addSpan? {m n : Int} (hm : now.addSpan? (.ofSeconds m) = some moment)
    (hn : now.addSpan? (.ofSeconds n) = some moment) : m = n := by
  simp only [addSpan?, Option.ite_none_right_eq_some, Option.some.injEq] at hm hn
  have htotal : now.total + (Span.ofSeconds m).total = now.total + (Span.ofSeconds n).total :=
    congrArg Instant.total (hm.2.trans hn.2.symm)
  simp only [Span.ofSeconds, nanosPerSecond] at htotal
  omega

/-- The months from which a span can lead to a date. -/
lemma monthNumber_of_addSpan? {n : Int} (h : now.addSpan? (.ofSeconds n) = some moment)
    (hleast : -TimePattern.longestSpan ≤ n) (hgreatest : n ≤ TimePattern.longestSpan) :
    -10 ^ 10 ≤ now.date.monthNumber ∧ now.date.monthNumber ≤ 10 ^ 10 := by
  simp only [addSpan?, Option.ite_none_right_eq_some, Option.some.injEq] at h
  obtain ⟨⟨hfirst, hlast⟩, -⟩ := h
  have hday : -10 ^ 11 - 10 ^ 10 ≤ now.day ∧ now.day ≤ 10 ^ 11 + 10 ^ 10 := by
    have hfirstDay : Date.firstDay = -96465292 := by decide +kernel
    have hlastDay : Date.lastDay = 95026236 := by decide +kernel
    simp only [Instant.day, Span.ofSeconds, nanosPerDay, nanosPerSecond, hfirstDay, hlastDay,
      TimePattern.longestSpan] at *
    omega
  obtain ⟨hvalid, hdays⟩ := Date.valid_ofDays now.day
  -- The days of these two dates lie even further from 1970.
  let before : Date := ⟨-833333333, 1, 1⟩
  let behind : Date := ⟨833333333, 1, 1⟩
  have hbefore : before.Valid ∧ before.toDays < -2 * 10 ^ 11 := ⟨⟨by decide, by decide⟩, by decide⟩
  have hbehind : behind.Valid ∧ 2 * 10 ^ 11 < behind.toDays := ⟨⟨by decide, by decide⟩, by decide⟩
  constructor <;> by_contra hfar
  · have hless : now.date.monthNumber < before.monthNumber := by
      simp only [before, Date.monthNumber] at *
      omega
    have := Date.toDays_lt_of_monthNumber_lt hvalid hbefore.1 hless
    omega
  · have hless : behind.monthNumber < now.date.monthNumber := by
      simp only [behind, Date.monthNumber] at *
      omega
    have := Date.toDays_lt_of_monthNumber_lt hbehind.1 hvalid hless
    omega

/-- Where the months as they are kept lead near a date, the true ones lead to a date only if they
are the same. -/
lemma wrap_eq_of_addMonths? {n s : Int} {inMonths other : Instant}
    (h : now.addMonths? (wrap n) = some inMonths)
    (hspan : inMonths.addSpan? (.ofSeconds s) = some moment)
    (hleast : -TimePattern.longestSpan ≤ s) (hgreatest : s ≤ TimePattern.longestSpan)
    (hother : now.addMonths? n = some other) : wrap n = n := by
  obtain ⟨-, k, hk⟩ := wrap_spec n
  by_contra hne
  have hn : n ≠ 0 := by
    rintro rfl
    exact hne rfl
  have htrue := monthNumber_of_addMonths? hn hother
  simp only [Date.firstYear, Date.lastYear] at htrue
  by_cases hzero : wrap n = 0
  · rw [hzero, addMonths?, if_pos rfl] at h
    obtain rfl := Option.some.inj h
    have hnear := monthNumber_of_addSpan? hspan hleast hgreatest
    omega
  · have hkept := monthNumber_of_addMonths? hzero h
    simp only [Date.firstYear, Date.lastYear] at hkept
    omega

end Instant

namespace TimeSum

variable {e : TimeSum} {p : TimePattern} {now moment : Instant}

/-- Where a pattern points, by the true sums. -/
lemma exists_of_resolve? (h : e.pattern? = some p) (hresolve : p.resolve? now = some moment) :
    ∃ inMonths, now.addMonths? (wrap e.amounts.months) = some inMonths
      ∧ inMonths.addSpan? (.ofSeconds e.amounts.wrapped.seconds) = some moment
      ∧ -TimePattern.longestSpan ≤ e.amounts.wrapped.seconds
      ∧ e.amounts.wrapped.seconds ≤ TimePattern.longestSpan := by
  obtain ⟨hrule, hamounts⟩ := amounts_of_pattern? h
  have hpoints := TimePattern.exists_of_resolve? hrule hresolve
  rwa [hamounts, Amounts.wrap_months_wrapped] at hpoints

/-- The true sums lead to the same moment only if the months fit and the seconds are kept. -/
lemma fits_of_advance? (h : e.pattern? = some p) (hresolve : p.resolve? now = some moment)
    (hexact : now.advance? e.amounts = some moment) :
    wrap e.amounts.months = e.amounts.months
      ∧ e.amounts.wrapped.seconds = e.amounts.seconds := by
  obtain ⟨inMonths, hkept, hspan, hleast, hgreatest⟩ := exists_of_resolve? h hresolve
  obtain ⟨other, hother, htrue⟩ := Option.bind_eq_some_iff.mp hexact
  have hfit := Instant.wrap_eq_of_addMonths? hkept hspan hleast hgreatest hother
  obtain rfl : inMonths = other := by
    rw [hfit] at hkept
    exact Option.some.inj (hkept.symm.trans hother)
  exact ⟨hfit, Instant.eq_of_addSpan? hspan htrue⟩

/-- **A moment that is found is that of the true sums exactly if the months fit into 64 bits and
the smaller amounts as they are kept come to the same seconds.** -/
theorem exact_iff (h : e.pattern? = some p) (now : Instant) :
    (∀ moment, p.resolve? now = some moment → now.advance? e.amounts = some moment)
      ↔ p.resolve? now = none
        ∨ wrap e.amounts.months = e.amounts.months
          ∧ e.amounts.wrapped.seconds = e.amounts.seconds := by
  constructor
  · intro hexact
    cases hresolve : p.resolve? now with
    | none => exact .inl rfl
    | some moment => exact .inr (fits_of_advance? h hresolve (hexact moment hresolve))
  · rintro (hnone | ⟨hfit, hseconds⟩) moment hresolve
    · rw [hnone] at hresolve
      contradiction
    · obtain ⟨inMonths, hkept, hspan, -⟩ := exists_of_resolve? h hresolve
      rw [hfit] at hkept
      rw [hseconds] at hspan
      exact Option.bind_eq_some_iff.mpr ⟨inMonths, hkept, hspan⟩

/-- An hour and thirty minutes, seen from the beginning of 1970. -/
theorem exact_hour_and_half :
    ∃ (e : TimeSum) (p : TimePattern), e = .merge (.amount .hour 1) (.amount .minute 30)
      ∧ e.pattern? = some p ∧ p.resolve? ⟨0⟩ = some ⟨5400 * nanosPerSecond⟩
      ∧ ∀ moment, p.resolve? ⟨0⟩ = some moment →
          (⟨0⟩ : Instant).advance? e.amounts = some moment := by
  refine ⟨_, { hour := some 1, minute := some 30 }, rfl, by decide +kernel, by decide +kernel, ?_⟩
  exact (exact_iff (by decide +kernel) _).mpr (.inr (by decide +kernel))

/-- So many years that their months are kept as none, seen at noon of 1 January 2024: the moment
that is found is that one itself, where there is none so many years on. -/
theorem resolve?_years_beyond :
    ∃ p, (TimeSum.amount .year 4611686018427387904).pattern? = some p
      ∧ p.resolve? ⟨1704110400 * nanosPerSecond⟩ = some ⟨1704110400 * nanosPerSecond⟩
      ∧ (⟨1704110400 * nanosPerSecond⟩ : Instant).advance?
          (TimeSum.amount .year 4611686018427387904).amounts = none := by
  refine ⟨{ year := some 4611686018427387904 }, ?_, ?_, ?_⟩ <;> decide +kernel

end TimeSum

end ChatCommand
