/-
Times put together in any order.

Patterns are put together two at a time, amounts by adding them up and places in the calendar by
uniting them. Neither the order nor the grouping makes a difference, and if two patterns of all
contradict each other, then nothing comes of them, whichever meet first.

* `TimePattern.field`: the fields that hold numbers, by name;
* `TimePattern.Conflicts`: two patterns contradict each other;
* `TimePattern.IsTogether`: what some patterns come to;
* `TimePattern.merge?_comm`: **two patterns may change places, also of different rules**;
* `TimePattern.merge?_eq_some_iff`, `TimePattern.merge?_eq_none_iff`: two patterns of one rule,
  field by field, and when nothing comes of them;
* `TimePattern.IsTogether.append`: what some patterns come to and what others come to, put together;
* `TimePattern.IsTogether.unique`: patterns come to one pattern only;
* `TimeGrouping`: patterns that are put together two at a time;
* `TimeGrouping.merged?_of_perm`: **patterns of one rule come to the same in every order and
  grouping**.
-/
import Mathlib.Algebra.BigOperators.Group.List.Basic
import ChatCommand.Proofs.Time.Sums

namespace ChatCommand

/-- The fields of a pattern that hold numbers. -/
inductive TimeField where
  | year | month | day | hour | minute | second | dayOffset

namespace TimePattern

variable {a b c p q : TimePattern} {ps qs : List TimePattern}

def field (p : TimePattern) : TimeField → Option Int64
  | .year => p.year
  | .month => p.month
  | .day => p.day
  | .hour => p.hour
  | .minute => p.minute
  | .second => p.second
  | .dayOffset => p.dayOffset

/-- The sum of the amounts that some patterns have in a field, as large as it may be. -/
def total (ps : List TimePattern) (f : TimeField) : Int :=
  (ps.map fun q => amount (q.field f)).sum

/-- Two patterns contradict each other: they have different uses, different weekdays, or are in
different places of the calendar. -/
inductive Conflicts (a b : TimePattern) : Prop
  | uses (ha : a.use ≠ .unspecified) (hb : b.use ≠ .unspecified) (h : a.use ≠ b.use)
  | weekdays {v w : Weekday} (ha : a.weekday = some v) (hb : b.weekday = some w) (h : v ≠ w)
  | fields (hrule : a.rule = .definitive) {f : TimeField} {x y : Int64} (ha : a.field f = some x)
      (hb : b.field f = some y) (h : x ≠ y)

/-- What some patterns of one rule come to: the use, the weekday and the places in the calendar that
one of them has, or the sums of their amounts as they are kept. -/
structure IsTogether (ps : List TimePattern) (p : TimePattern) : Prop where
  rule : ∀ q ∈ ps, q.rule = p.rule
  use : ∀ u, u ≠ .unspecified → (p.use = u ↔ ∃ q ∈ ps, q.use = u)
  weekday : ∀ w, p.weekday = some w ↔ ∃ q ∈ ps, q.weekday = some w
  united : p.rule = .definitive → ∀ f x, p.field f = some x ↔ ∃ q ∈ ps, q.field f = some x
  summed : p.rule = .relative → ∀ f,
    (p.field f = none ↔ ∀ q ∈ ps, q.field f = none)
      ∧ amount (p.field f) = wrap (total ps f)

/-- The pattern with a rule, a use, a weekday and fields. -/
def ofFields (rule : TimeRule) (use : TimeUse) (weekday : Option Weekday)
    (field : TimeField → Option Int64) : TimePattern where
  rule
  use
  weekday
  year := field .year
  month := field .month
  day := field .day
  hour := field .hour
  minute := field .minute
  second := field .second
  dayOffset := field .dayOffset

lemma field_ofFields (rule : TimeRule) (use : TimeUse) (weekday : Option Weekday)
    (z : TimeField → Option Int64) (f : TimeField) :
    (ofFields rule use weekday z).field f = z f := by
  cases f <;> rfl

/-! ### Uses, weekdays and numbers -/

/-- Two things that are there or not, united. `none` if both are there and differ. -/
def unite? {α : Type} [DecidableEq α] : Option α → Option α → Option (Option α)
  | some x, some y => if x = y then some (some x) else none
  | some x, none => some (some x)
  | none, y => some y

section Unite

variable {α : Type} [DecidableEq α] {x y z : Option α}

lemma unite?_comm (x y : Option α) : unite? x y = unite? y x := by
  cases x <;> cases y <;> simp only [unite?]
  split <;> simp_all [@eq_comm α]

lemma eq_of_unite? (h : unite? x y = some z) {w : α} :
    z = some w ↔ x = some w ∨ y = some w := by
  cases x <;> cases y <;> simp_all [unite?]

lemma unite?_eq_none_iff : unite? x y = none ↔ ∃ v w, x = some v ∧ y = some w ∧ v ≠ w := by
  cases x <;> cases y <;> simp [unite?]

end Unite

lemma mergeWeekday?_eq (v w : Option Weekday) : mergeWeekday? v w = unite? v w := by
  cases v <;> cases w <;> rfl

lemma mergeField?_definitive (x y : Option Int64) : mergeField? .definitive x y = unite? x y := by
  cases x <;> cases y <;> rfl

lemma mergeField?_eq_none_iff {rule : TimeRule} {x y : Option Int64} :
    mergeField? rule x y = none ↔
      rule = .definitive ∧ ∃ v w, x = some v ∧ y = some w ∧ v ≠ w := by
  cases rule with
  | relative => cases x <;> cases y <;> simp [mergeField?]
  | definitive => rw [mergeField?_definitive, unite?_eq_none_iff, eq_self, true_and]

lemma eq_none_of_mergeField? {x y z : Option Int64} (h : mergeField? .relative x y = some z) :
    z = none ↔ x = none ∧ y = none := by
  cases x <;> cases y <;> obtain rfl := Option.some.inj h <;> simp

/-- A number is there or not, and an amount says which. -/
lemma eq_of_amount {x y : Option Int64} (hnone : x = none ↔ y = none)
    (hamount : amount x = amount y) : x = y := by
  cases x with
  | none => exact (hnone.mp rfl).symm
  | some v =>
      cases y with
      | none => exact hnone.mpr rfl
      | some w => exact congrArg some (Int64.toInt_inj.mp hamount)

lemma eq_of_mergeUse? {u v w t : TimeUse} (h : mergeUse? u v = some w) (ht : t ≠ .unspecified) :
    w = t ↔ u = t ∨ v = t := by
  cases u <;> cases v <;> simp only [mergeUse?, reduceCtorEq, if_true, if_false] at h <;>
    obtain rfl := Option.some.inj h <;> simp [ht.symm]

lemma mergeUse?_eq_none_iff {u v : TimeUse} :
    mergeUse? u v = none ↔ u ≠ .unspecified ∧ v ≠ .unspecified ∧ u ≠ v := by
  cases u <;> cases v <;> simp [mergeUse?]

/-! ### Two patterns -/

lemma mergeUse?_comm (u v : TimeUse) : mergeUse? u v = mergeUse? v u := by
  cases u <;> cases v <;> rfl

lemma mergeWeekday?_comm (v w : Option Weekday) : mergeWeekday? v w = mergeWeekday? w v := by
  rw [mergeWeekday?_eq, mergeWeekday?_eq, unite?_comm]

lemma mergeField?_comm (rule : TimeRule) (x y : Option Int64) :
    mergeField? rule x y = mergeField? rule y x := by
  cases rule with
  | relative => cases x <;> cases y <;> simp only [mergeField?, Int64.add_comm]
  | definitive => rw [mergeField?_definitive, mergeField?_definitive, unite?_comm]

/-- **Two patterns may change places**, also of different rules: it is the span that is put before
the time of day. -/
theorem merge?_comm (a b : TimePattern) : a.merge? b = b.merge? a := by
  rw [merge?, merge?, mergeUse?_comm]
  split
  · rfl
  · by_cases hrule : a.rule = b.rule
    · rw [if_pos hrule, if_pos hrule.symm, hrule]
      simp only [mergeWeekday?_comm a.weekday, mergeField?_comm b.rule a.year,
        mergeField?_comm b.rule a.month, mergeField?_comm b.rule a.day,
        mergeField?_comm b.rule a.hour, mergeField?_comm b.rule a.minute,
        mergeField?_comm b.rule a.second, mergeField?_comm b.rule a.dayOffset]
    · rw [if_neg hrule, if_neg (Ne.symm hrule), isRelative, isRelative]
      cases ha : a.rule <;> cases hb : b.rule <;> simp_all

/-- Patterns with the same rule, use, weekday and fields are the same. -/
lemma eq_of_field (hrule : p.rule = q.rule) (huse : p.use = q.use)
    (hweekday : p.weekday = q.weekday) (hfield : ∀ f, p.field f = q.field f) : p = q := by
  obtain ⟨⟩ := p
  obtain ⟨⟩ := q
  have hyear := hfield .year
  have hmonth := hfield .month
  have hday := hfield .day
  have hhour := hfield .hour
  have hminute := hfield .minute
  have hsecond := hfield .second
  have hdayOffset := hfield .dayOffset
  simp only [field] at *
  subst_vars
  rfl

/-- Two patterns of one rule are put together field by field. -/
lemma merge?_eq_some_iff (hrule : a.rule = b.rule) :
    a.merge? b = some c ↔
      a.rule = c.rule ∧ mergeUse? a.use b.use = some c.use
        ∧ unite? a.weekday b.weekday = some c.weekday
        ∧ ∀ f, mergeField? a.rule (a.field f) (b.field f) = some (c.field f) := by
  constructor
  · intro h
    unfold merge? at h
    split at h
    · contradiction
    · next use huse =>
        rw [if_pos hrule] at h
        simp only [Option.bind_eq_bind, Option.bind_eq_some_iff, Option.some.injEq] at h
        obtain ⟨weekday, hweekday, year, hyear, month, hmonth, day, hday, hour, hhour, minute,
          hminute, second, hsecond, dayOffset, hdayOffset, rfl⟩ := h
        refine ⟨rfl, huse, (mergeWeekday?_eq _ _).symm.trans hweekday, fun f => ?_⟩
        cases f <;> assumption
  · rintro ⟨hc, huse, hweekday, hfield⟩
    have hyear : mergeField? a.rule a.year b.year = some c.year := hfield .year
    have hmonth : mergeField? a.rule a.month b.month = some c.month := hfield .month
    have hday : mergeField? a.rule a.day b.day = some c.day := hfield .day
    have hhour : mergeField? a.rule a.hour b.hour = some c.hour := hfield .hour
    have hminute : mergeField? a.rule a.minute b.minute = some c.minute := hfield .minute
    have hsecond : mergeField? a.rule a.second b.second = some c.second := hfield .second
    have hdayOffset : mergeField? a.rule a.dayOffset b.dayOffset = some c.dayOffset :=
      hfield .dayOffset
    rw [merge?, huse, mergeWeekday?_eq, hweekday]
    simp only [if_pos hrule, hyear, hmonth, hday, hhour, hminute, hsecond, hdayOffset,
      Option.bind_eq_bind, Option.bind_some]
    rw [hc]

/-- Nothing comes of two patterns of one rule exactly if they contradict each other. -/
lemma merge?_eq_none_iff (hrule : a.rule = b.rule) : a.merge? b = none ↔ a.Conflicts b := by
  constructor
  · intro h
    by_contra hnot
    obtain ⟨use, huse⟩ : ∃ use, mergeUse? a.use b.use = some use := by
      rw [← Option.ne_none_iff_exists', ne_eq, mergeUse?_eq_none_iff]
      exact fun ⟨ha, hb, hne⟩ => hnot (.uses ha hb hne)
    obtain ⟨weekday, hweekday⟩ : ∃ weekday, unite? a.weekday b.weekday = some weekday := by
      rw [← Option.ne_none_iff_exists', ne_eq, unite?_eq_none_iff]
      exact fun ⟨v, w, ha, hb, hne⟩ => hnot (.weekdays ha hb hne)
    have hfields (f : TimeField) : ∃ z, mergeField? a.rule (a.field f) (b.field f) = some z := by
      rw [← Option.ne_none_iff_exists', ne_eq, mergeField?_eq_none_iff]
      exact fun ⟨hdefinitive, x, y, ha, hb, hne⟩ => hnot (.fields hdefinitive ha hb hne)
    choose z hz using hfields
    have hsome : a.merge? b = some (ofFields a.rule use weekday z) :=
      (merge?_eq_some_iff hrule).mpr ⟨rfl, huse, hweekday, fun f => by rw [hz, field_ofFields]⟩
    rw [hsome] at h
    contradiction
  · intro h
    by_contra hsome
    obtain ⟨c, hc⟩ := Option.ne_none_iff_exists'.mp hsome
    obtain ⟨-, huse, hweekday, hfield⟩ := (merge?_eq_some_iff hrule).mp hc
    cases h with
    | uses ha hb hne =>
        rw [mergeUse?_eq_none_iff.mpr ⟨ha, hb, hne⟩] at huse
        contradiction
    | weekdays ha hb hne =>
        rw [unite?_eq_none_iff.mpr ⟨_, _, ha, hb, hne⟩] at hweekday
        contradiction
    | @fields hdefinitive f _ _ ha hb hne =>
        have hnone := mergeField?_eq_none_iff.mpr ⟨hdefinitive, _, _, ha, hb, hne⟩
        rw [hfield f] at hnone
        contradiction

/-! ### Many patterns -/

lemma total_append (ps qs : List TimePattern) (f : TimeField) :
    total (ps ++ qs) f = total ps f + total qs f := by
  rw [total, List.map_append, List.sum_append]
  rfl

lemma total_perm (hperm : ps.Perm qs) (f : TimeField) : total ps f = total qs f :=
  (hperm.map _).sum_eq

namespace IsTogether

lemma singleton (p : TimePattern) : IsTogether [p] p := by
  refine ⟨by simp, by simp, by simp, by simp, fun _ f => ⟨by simp, ?_⟩⟩
  rw [total, List.map_singleton, List.sum_singleton]
  exact (wrap_toInt _).symm

/-- **What some patterns come to and what others come to is put together to what all come to.** -/
lemma append (ha : IsTogether ps a) (hb : IsTogether qs b) (hrule : a.rule = b.rule)
    (h : a.merge? b = some c) : IsTogether (ps ++ qs) c := by
  obtain ⟨hc, huse, hweekday, hfield⟩ := (merge?_eq_some_iff hrule).mp h
  refine ⟨fun q hq => ?_, fun u hu => ?_, fun w => ?_, fun hdefinitive f x => ?_,
    fun hrelative f => ?_⟩
  · rcases List.mem_append.mp hq with hq | hq
    · exact (ha.rule q hq).trans hc
    · exact (hb.rule q hq).trans (hrule.symm.trans hc)
  · rw [eq_of_mergeUse? huse hu, ha.use u hu, hb.use u hu]
    simp only [List.mem_append, or_and_right, exists_or]
  · rw [eq_of_unite? hweekday, ha.weekday, hb.weekday]
    simp only [List.mem_append, or_and_right, exists_or]
  · have hfield := hfield f
    rw [hc, hdefinitive, mergeField?_definitive] at hfield
    rw [eq_of_unite? hfield, ha.united (hc.trans hdefinitive),
      hb.united (hrule.symm.trans (hc.trans hdefinitive))]
    simp only [List.mem_append, or_and_right, exists_or]
  · have hfield := hfield f
    rw [hc, hrelative] at hfield
    obtain ⟨hanone, hasum⟩ := ha.summed (hc.trans hrelative) f
    obtain ⟨hbnone, hbsum⟩ := hb.summed (hrule.symm.trans (hc.trans hrelative)) f
    refine ⟨?_, ?_⟩
    · rw [eq_none_of_mergeField? hfield, hanone, hbnone, List.forall_mem_append]
    · rw [amount_of_mergeField? hfield, hasum, hbsum, total_append, wrap_wrap_add, wrap_add_wrap]

lemma perm (h : IsTogether ps p) (hperm : ps.Perm qs) : IsTogether qs p where
  rule q hq := h.rule q (hperm.symm.subset hq)
  use u hu := by
    rw [h.use u hu]
    simp only [hperm.mem_iff]
  weekday w := by
    rw [h.weekday w]
    simp only [hperm.mem_iff]
  united hrule f x := by
    rw [h.united hrule f x]
    simp only [hperm.mem_iff]
  summed hrule f := by
    obtain ⟨hnone, hsum⟩ := h.summed hrule f
    rw [hnone, hsum, total_perm hperm]
    simp only [hperm.mem_iff, and_true]

/-- **Patterns come to one pattern only.** -/
lemma unique (hne : ps ≠ []) (hp : IsTogether ps p) (hq : IsTogether ps q) : p = q := by
  obtain ⟨r, hr⟩ := List.exists_mem_of_ne_nil ps hne
  have hrule : p.rule = q.rule := (hp.rule r hr).symm.trans (hq.rule r hr)
  have huse (u : TimeUse) (hu : u ≠ .unspecified) : p.use = u ↔ q.use = u :=
    (hp.use u hu).trans (hq.use u hu).symm
  refine eq_of_field hrule ?_ ?_ fun f => ?_
  · by_cases h : p.use = .unspecified
    · by_contra hne
      exact hne ((huse q.use fun h' => hne (h.trans h'.symm)).mpr rfl)
    · exact ((huse p.use h).mp rfl).symm
  · exact Option.ext fun w => (hp.weekday w).trans (hq.weekday w).symm
  · cases h : p.rule with
    | definitive =>
        exact Option.ext fun x => (hp.united h f x).trans (hq.united (hrule ▸ h) f x).symm
    | relative =>
        obtain ⟨hpnone, hpsum⟩ := hp.summed h f
        obtain ⟨hqnone, hqsum⟩ := hq.summed (hrule ▸ h) f
        exact eq_of_amount (hpnone.trans hqnone.symm) (hpsum.trans hqsum.symm)

lemma not_conflicts (h : IsTogether ps p) (ha : a ∈ ps) (hb : b ∈ ps) : ¬a.Conflicts b := by
  intro hconflict
  cases hconflict with
  | uses huse huse' hne =>
      exact hne (((h.use _ huse).mpr ⟨a, ha, rfl⟩).symm.trans ((h.use _ huse').mpr ⟨b, hb, rfl⟩))
  | weekdays hday hday' hne =>
      exact hne (Option.some.inj
        (((h.weekday _).mpr ⟨a, ha, hday⟩).symm.trans ((h.weekday _).mpr ⟨b, hb, hday'⟩)))
  | fields hrule hx hy hne =>
      have hrule := (h.rule a ha).symm.trans hrule
      exact hne (Option.some.inj
        (((h.united hrule _ _).mpr ⟨a, ha, hx⟩).symm.trans ((h.united hrule _ _).mpr ⟨b, hb, hy⟩)))

/-- What contradicts each other in the end did so in the beginning. -/
lemma exists_conflicts (ha : IsTogether ps a) (hb : IsTogether qs b) (hrule : a.rule = b.rule)
    (h : a.Conflicts b) : ∃ p ∈ ps, ∃ q ∈ qs, p.Conflicts q := by
  cases h with
  | uses huse huse' hne =>
      obtain ⟨p, hp, hpuse⟩ := (ha.use _ huse).mp rfl
      obtain ⟨q, hq, hquse⟩ := (hb.use _ huse').mp rfl
      refine ⟨p, hp, q, hq, .uses ?_ ?_ ?_⟩ <;> simpa only [hpuse, hquse]
  | weekdays hday hday' hne =>
      obtain ⟨p, hp, hpday⟩ := (ha.weekday _).mp hday
      obtain ⟨q, hq, hqday⟩ := (hb.weekday _).mp hday'
      exact ⟨p, hp, q, hq, .weekdays hpday hqday hne⟩
  | fields hdefinitive hx hy hne =>
      obtain ⟨p, hp, hpx⟩ := (ha.united hdefinitive _ _).mp hx
      obtain ⟨q, hq, hqy⟩ := (hb.united (hrule ▸ hdefinitive) _ _).mp hy
      exact ⟨p, hp, q, hq, .fields ((ha.rule p hp).trans hdefinitive) hpx hqy hne⟩

end IsTogether

end TimePattern

/-! ### Groupings -/

/-- Patterns that are put together two at a time. -/
inductive TimeGrouping where
  | pattern (p : TimePattern)
  | merge (e f : TimeGrouping)

namespace TimeGrouping

open TimePattern (IsTogether amount total)

variable {e : TimeGrouping} {p : TimePattern} {rule : TimeRule}

/-- The patterns from left to right. -/
def patterns : TimeGrouping → List TimePattern
  | pattern p => [p]
  | merge e f => e.patterns ++ f.patterns

/-- What comes of putting the patterns together, none if two fail to go together on the way. -/
def merged? : TimeGrouping → Option TimePattern
  | pattern p => some p
  | merge e f => do (← e.merged?).merge? (← f.merged?)

lemma patterns_ne_nil (e : TimeGrouping) : e.patterns ≠ [] := by
  induction e with
  | pattern p => exact List.cons_ne_nil p []
  | merge e f ihe _ => exact List.append_ne_nil_of_left_ne_nil ihe _

lemma rule_of_isTogether (hrule : ∀ q ∈ e.patterns, q.rule = rule)
    (h : IsTogether e.patterns p) : p.rule = rule := by
  obtain ⟨q, hq⟩ := List.exists_mem_of_ne_nil _ e.patterns_ne_nil
  exact (h.rule q hq).symm.trans (hrule q hq)

lemma isTogether_of_merged? (hrule : ∀ q ∈ e.patterns, q.rule = rule)
    (h : e.merged? = some p) : IsTogether e.patterns p := by
  induction e generalizing p with
  | pattern q =>
      obtain rfl := Option.some.inj h
      exact .singleton q
  | merge e f ihe ihf =>
      simp only [merged?, Option.bind_eq_bind, Option.bind_eq_some_iff] at h
      obtain ⟨a, ha, b, hb, hab⟩ := h
      obtain ⟨hrulee, hrulef⟩ := List.forall_mem_append.mp hrule
      have ha := ihe hrulee ha
      have hb := ihf hrulef hb
      exact ha.append hb
        ((rule_of_isTogether hrulee ha).trans (rule_of_isTogether hrulef hb).symm) hab

lemma exists_conflicts_of_merged? (hrule : ∀ q ∈ e.patterns, q.rule = rule)
    (h : e.merged? = none) : ∃ a ∈ e.patterns, ∃ b ∈ e.patterns, a.Conflicts b := by
  induction e with
  | pattern q => contradiction
  | merge e f ihe ihf =>
      obtain ⟨hrulee, hrulef⟩ := List.forall_mem_append.mp hrule
      have hleft {q : TimePattern} (hq : q ∈ e.patterns) : q ∈ (merge e f).patterns :=
        List.mem_append_left _ hq
      have hright {q : TimePattern} (hq : q ∈ f.patterns) : q ∈ (merge e f).patterns :=
        List.mem_append_right _ hq
      cases ha : e.merged? with
      | none =>
          obtain ⟨p, hp, q, hq, hconflict⟩ := ihe hrulee ha
          exact ⟨p, hleft hp, q, hleft hq, hconflict⟩
      | some a =>
          cases hb : f.merged? with
          | none =>
              obtain ⟨p, hp, q, hq, hconflict⟩ := ihf hrulef hb
              exact ⟨p, hright hp, q, hright hq, hconflict⟩
          | some b =>
              have hab : a.merge? b = none := by simpa [merged?, ha, hb] using h
              have ha := isTogether_of_merged? hrulee ha
              have hb := isTogether_of_merged? hrulef hb
              have hsame :=
                (rule_of_isTogether hrulee ha).trans (rule_of_isTogether hrulef hb).symm
              obtain ⟨p, hp, q, hq, hconflict⟩ :=
                ha.exists_conflicts hb hsame ((TimePattern.merge?_eq_none_iff hsame).mp hab)
              exact ⟨p, hleft hp, q, hright hq, hconflict⟩

/-- Patterns of one rule come to a pattern exactly if it is what they come to in any order. -/
lemma merged?_eq_some_iff (hrule : ∀ q ∈ e.patterns, q.rule = rule) :
    e.merged? = some p ↔ IsTogether e.patterns p := by
  refine ⟨isTogether_of_merged? hrule, fun h => ?_⟩
  cases hq : e.merged? with
  | none =>
      obtain ⟨a, ha, b, hb, hconflict⟩ := exists_conflicts_of_merged? hrule hq
      exact absurd hconflict (h.not_conflicts ha hb)
  | some q => rw [(isTogether_of_merged? hrule hq).unique e.patterns_ne_nil h]

/-- Nothing comes of patterns of one rule exactly if two of them contradict each other. -/
lemma merged?_eq_none_iff (hrule : ∀ q ∈ e.patterns, q.rule = rule) :
    e.merged? = none ↔ ∃ a ∈ e.patterns, ∃ b ∈ e.patterns, a.Conflicts b := by
  refine ⟨exists_conflicts_of_merged? hrule, fun ⟨a, ha, b, hb, hconflict⟩ => ?_⟩
  cases hp : e.merged? with
  | none => rfl
  | some p =>
      exact absurd hconflict ((isTogether_of_merged? hrule hp).not_conflicts ha hb)

/-- **Patterns of one rule come to the same in every order and grouping.** Two patterns may change
places, whatever their rules. Nothing comes of patterns of one rule exactly if two of them
contradict each other, and otherwise they come to the one pattern that has what any of them has, or
the sums of their amounts. A sum that fits into 64 bits is the true one. -/
theorem merged?_of_perm (hrule : ∀ q ∈ e.patterns, q.rule = rule) :
    (∀ a b : TimePattern, a.merge? b = b.merge? a)
      ∧ (e.merged? = none ↔ ∃ a ∈ e.patterns, ∃ b ∈ e.patterns, a.Conflicts b)
      ∧ (∀ p, e.merged? = some p ↔ IsTogether e.patterns p)
      ∧ (∀ p, e.merged? = some p → rule = .relative → ∀ f,
          -2 ^ 63 ≤ total e.patterns f → total e.patterns f < 2 ^ 63 →
            amount (p.field f) = total e.patterns f)
      ∧ ∀ e' : TimeGrouping, e'.patterns.Perm e.patterns → e'.merged? = e.merged? := by
  refine ⟨TimePattern.merge?_comm, merged?_eq_none_iff hrule, fun p => merged?_eq_some_iff hrule,
    fun p hp hrelative f hleast hgreatest => ?_, fun e' hperm => ?_⟩
  · have htogether := isTogether_of_merged? hrule hp
    have hamount := (htogether.summed ((rule_of_isTogether hrule htogether).trans hrelative) f).2
    rw [hamount, wrap_eq_self_iff.mpr ⟨hleast, hgreatest⟩]
  · have hrule' : ∀ q ∈ e'.patterns, q.rule = rule := fun q hq => hrule q (hperm.subset hq)
    refine Option.ext fun p => ?_
    rw [merged?_eq_some_iff hrule', merged?_eq_some_iff hrule]
    exact ⟨fun h => h.perm hperm, fun h => h.perm hperm.symm⟩

/-- An hour, thirty minutes and two hours come to three and a half hours, in whatever order. -/
theorem merged?_three_and_half_hours :
    ∃ e e' : TimeGrouping, e.patterns ≠ e'.patterns
      ∧ e.merged? = some { hour := some 3, minute := some 30 } ∧ e'.merged? = e.merged? := by
  let hour : TimePattern := { hour := some 1 }
  let minutes : TimePattern := { minute := some 30 }
  let hours : TimePattern := { hour := some 2 }
  let e : TimeGrouping := .merge (.merge (.pattern hour) (.pattern minutes)) (.pattern hours)
  let e' : TimeGrouping := .merge (.pattern minutes) (.merge (.pattern hour) (.pattern hours))
  have hrule : ∀ q ∈ e.patterns, q.rule = .relative := by decide
  have hperm : e'.patterns.Perm e.patterns := .swap hour minutes [hours]
  refine ⟨e, e', by decide, ?_, (merged?_of_perm hrule).2.2.2.2 e' hperm⟩
  decide +kernel

end TimeGrouping

end ChatCommand
