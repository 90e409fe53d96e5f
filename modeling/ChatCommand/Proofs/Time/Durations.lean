/-
How long relative times last.

Days and smaller units last the same whenever they begin, so that these durations add up as their
amounts do. What is too large to be kept in 64 bits has no duration.

* `TimePattern.IsFixed`: a relative pattern without years and months;
* `TimePattern.seconds?_of_merge?`: the seconds of two such patterns put together are the sum;
* `TimePattern.exists_of_duration?`: a duration is that of the seconds, whenever it begins;
* `TimePattern.duration?_merge?`: **durations add, and do not depend on the moment**.
-/
import ChatCommand.Proofs.Time.Together

namespace ChatCommand

instance : Add Span := ⟨fun s t => ⟨s.total + t.total⟩⟩

namespace Span

lemma ofSeconds_add (m n : Int) : ofSeconds (m + n) = ofSeconds m + ofSeconds n :=
  congrArg Span.mk (Int.add_mul m n nanosPerSecond)

end Span

/-- An instant some time later is that time from the earlier one. -/
lemma Instant.since_of_addSpan? {earlier later : Instant} {s : Span}
    (h : earlier.addSpan? s = some later) : later.since earlier = s := by
  simp only [addSpan?, Option.ite_none_right_eq_some, Option.some.injEq] at h
  obtain ⟨-, rfl⟩ := h
  exact congrArg Span.mk (add_sub_cancel_left earlier.total s.total)

namespace TimePattern

variable {a b c p : TimePattern} {now : Instant} {m n : Int}

/-- A relative pattern without years and months, the units that are not always as long. -/
structure IsFixed (p : TimePattern) : Prop where
  rule : p.rule = .relative
  year : p.year = none
  month : p.month = none

/-- Two patterns without years and months have none put together. -/
lemma IsFixed.merge? (ha : a.IsFixed) (hb : b.IsFixed) (h : a.merge? b = some c) : c.IsFixed := by
  obtain ⟨hrule, -, -, hfield⟩ := (merge?_eq_some_iff (ha.rule.trans hb.rule.symm)).mp h
  have hyear : mergeField? a.rule a.year b.year = some c.year := hfield .year
  have hmonth : mergeField? a.rule a.month b.month = some c.month := hfield .month
  rw [ha.year, hb.year] at hyear
  rw [ha.month, hb.month] at hmonth
  exact ⟨hrule.symm.trans ha.rule, (Option.some.inj hyear).symm, (Option.some.inj hmonth).symm⟩

/-! ### Seconds -/

/-- The seconds of two patterns put together are the sum of those of each: amounts that come to
seconds are so small that their sums fit into 64 bits. -/
lemma seconds?_of_merge? (ha : a.rule = .relative) (hb : b.rule = .relative)
    (h : a.merge? b = some c) (hm : a.seconds? = some m) (hn : b.seconds? = some n) {k : Int}
    (hk : c.seconds? = some k) : k = m + n := by
  obtain ⟨-, hamounts⟩ := amounts_merge? ha hb h
  have hsum {x y : Int} (hx : -longestSpan ≤ x ∧ x ≤ longestSpan)
      (hy : -longestSpan ≤ y ∧ y ≤ longestSpan) : wrap (x + y) = x + y := by
    simp only [longestSpan] at hx hy
    exact wrap_eq_self_iff.mpr (by omega)
  obtain ⟨hday, hhour, hminute, hsecond⟩ := amounts_mem_of_seconds? hm
  obtain ⟨hday', hhour', hminute', hsecond'⟩ := amounts_mem_of_seconds? hn
  have hseconds : c.amounts.seconds = a.amounts.seconds + b.amounts.seconds := by
    have hkept : c.amounts.seconds
        = wrap (a.amounts.day + b.amounts.day) * 86400
          + wrap (a.amounts.hour + b.amounts.hour) * 3600
          + wrap (a.amounts.minute + b.amounts.minute) * 60
          + wrap (a.amounts.second + b.amounts.second) := congrArg Amounts.seconds hamounts
    rw [hkept, hsum hday hday', hsum hhour hhour', hsum hminute hminute', hsum hsecond hsecond']
    simp only [Amounts.seconds]
    omega
  rw [(seconds?_eq_some hk).1, (seconds?_eq_some hm).1, (seconds?_eq_some hn).1, hseconds]

/-! ### Durations -/

/-- A duration without years and months is that of the seconds, whenever it begins. -/
lemma exists_of_duration? (hp : p.IsFixed) {d : Span} (h : p.duration? now = some d) :
    ∃ n, p.seconds? = some n ∧ d = .ofSeconds n := by
  obtain ⟨moment, hresolve, rfl⟩ := Option.map_eq_some_iff.mp h
  have hmonths : now.addMonths? p.months = some now := by
    rw [months, hp.year, hp.month]
    rfl
  simp only [resolve?, hp.rule, resolveRelative?, hmonths, Option.bind_eq_bind, Option.bind_some,
    Option.bind_eq_some_iff] at hresolve
  obtain ⟨n, hn, hspan⟩ := hresolve
  exact ⟨n, hn, Instant.since_of_addSpan? hspan⟩

/-- Wherever a duration without years and months begins, it is the same. -/
lemma duration?_unique (hp : p.IsFixed) {now' : Instant} {d d' : Span}
    (h : p.duration? now = some d) (h' : p.duration? now' = some d') : d' = d := by
  obtain ⟨n, hn, rfl⟩ := exists_of_duration? hp h
  obtain ⟨n', hn', rfl⟩ := exists_of_duration? hp h'
  rw [Option.some.inj (hn.symm.trans hn')]

/-- **Durations add.** Two relative patterns without years and months last together as long as one
after the other, if each of them and both together last for some time. At every other moment each
lasts as long as now. -/
theorem duration?_merge? (ha : a.IsFixed) (hb : b.IsFixed) (h : a.merge? b = some c)
    {x y z : Span} (hx : a.duration? now = some x) (hy : b.duration? now = some y)
    (hz : c.duration? now = some z) :
    z = x + y
      ∧ ∀ now', (∀ d, a.duration? now' = some d → d = x) ∧ (∀ d, b.duration? now' = some d → d = y)
        ∧ ∀ d, c.duration? now' = some d → d = z := by
  have hc := ha.merge? hb h
  refine ⟨?_, fun now' => ⟨fun _ => duration?_unique ha hx, fun _ => duration?_unique hb hy,
    fun _ => duration?_unique hc hz⟩⟩
  obtain ⟨m, hm, rfl⟩ := exists_of_duration? ha hx
  obtain ⟨n, hn, rfl⟩ := exists_of_duration? hb hy
  obtain ⟨k, hk, rfl⟩ := exists_of_duration? hc hz
  rw [seconds?_of_merge? ha.rule hb.rule h hm hn hk, Span.ofSeconds_add]

/-- Two days less thirty hours, and ninety minutes more: eighteen hours and another one and a half,
at every moment. -/
theorem duration?_two_days_less :
    ∃ (a b c : TimePattern) (x y z : Span), a.merge? b = some c
      ∧ a.duration? ⟨0⟩ = some x ∧ b.duration? ⟨0⟩ = some y ∧ c.duration? ⟨0⟩ = some z
      ∧ x = .ofSeconds (18 * 3600) ∧ y = .ofSeconds 5400 ∧ z = x + y
      ∧ ∀ now d, c.duration? now = some d → d = z := by
  let a : TimePattern := { day := some 2, hour := some (-30) }
  let b : TimePattern := { minute := some 90 }
  let c : TimePattern := { day := some 2, hour := some (-30), minute := some 90 }
  have h : a.merge? b = some c := by decide +kernel
  have hx : a.duration? ⟨0⟩ = some (.ofSeconds (18 * 3600)) := by decide +kernel
  have hy : b.duration? ⟨0⟩ = some (.ofSeconds 5400) := by decide +kernel
  have hz : c.duration? ⟨0⟩ = some (.ofSeconds 70200) := by decide +kernel
  obtain ⟨hsum, hsame⟩ := duration?_merge? ⟨rfl, rfl, rfl⟩ ⟨rfl, rfl, rfl⟩ h hx hy hz
  exact ⟨a, b, c, _, _, _, h, hx, hy, hz, rfl, rfl, hsum, fun now => (hsame now).2.2⟩

end TimePattern

end ChatCommand
