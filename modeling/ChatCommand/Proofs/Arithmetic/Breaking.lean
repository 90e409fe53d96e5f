/-
Layouts that are not safe.

* `Operand.Breaks`, `Operations.Breaks`, `Formula.Breaks`: a layout has fillings of which one is the
  other with a group replaced by the number that it comes to, but which come to other numbers;
* `Operand.Breaks.first`, `Formula.Breaks.factor`, `Operations.Breaks.behind`: with a part, the
  whole layout breaks;
* `Formula.breaks_of_not_even`: of three factors the first is late and another is not;
* `Operations.breaks_of_not_fitsSum`: behind a sum sign, another factor than the first is late, or
  the first is late and two follow;
* `Formula.breaks_of_not_safe`: **a layout that is not safe breaks**.
-/
import Mathlib.Tactic.Common
import ChatCommand.Proofs.Arithmetic.Contexts

namespace ChatCommand

open BinaryOperator (times dividedBy plus)

/-! ### Fillings that differ -/

/-- Fillings of the layout of an operand come to different numbers, though the second is the first
with a group replaced by the number that it comes to. -/
structure Operand.Differ (x x₁ x₂ : Operand) (g : Formula) (v : Float) : Prop where
  alike : x₁.Alike x
  replaces : x₁.Replaces g v x₂
  group : g.outcome? = some v
  value : ∃ u, Steady u ∧ x₁.value? = some u
  outcome : ∃ u₁ u₂, Steady u₁ ∧ Steady u₂ ∧ u₁ ≠ u₂ ∧ x₁.ComesTo u₁ ∧ x₂.ComesTo u₂

def Operand.Breaks (x : Operand) : Prop := ∃ x₁ x₂ g v, x.Differ x₁ x₂ g v

/-- Such fillings of the layout of a formula, behind any product of ones. -/
structure Formula.Differ (e e₁ e₂ g : Formula) (v : Float) : Prop where
  alike : e₁.Alike e
  replaces : Formula.Replaces g v e₁ e₂
  group : g.outcome? = some v
  first : (∃ a, Steady a ∧ e₁.first.ComesTo a) ∧ ∃ a, Steady a ∧ e₂.first.ComesTo a
  value : ∃ a u, Steady a ∧ Steady u ∧ e₁.first.value? = some a
    ∧ e₁.rest.valueAfter? none a = some u
  outcome : ∃ u₁ u₂, Steady u₁ ∧ Steady u₂ ∧ u₁ ≠ u₂
    ∧ ∀ k, Leading k → e₁.through k = some u₁ ∧ e₂.through k = some u₂

def Formula.Breaks (e : Formula) : Prop := ∃ e₁ e₂ g v, e.Differ e₁ e₂ g v

/-- Such fillings of the layout of operations, behind any sum that is `t` so far. -/
structure Operations.Differ (t : Float) (rest r₁ r₂ : Operations) (g : Formula) (v : Float) :
    Prop where
  alike : r₁.Alike rest
  replaces : r₁.Replaces g v r₂
  group : g.outcome? = some v
  value : ∃ u, Steady u ∧ ∀ waiting x, Steady x → settle? waiting x = some t →
    r₁.valueAfter? waiting x = some u
  outcome : ∃ u₁ u₂, Steady u₁ ∧ Steady u₂ ∧ u₁ ≠ u₂
    ∧ ∀ k c, Ready t k c → r₁.through k c = some u₁ ∧ r₂.through k c = some u₂

def Operations.Breaks (rest : Operations) : Prop :=
  ∃ t, Steady t ∧ ∃ r₁ r₂ g v, Differ t rest r₁ r₂ g v

/-! ### Larger layouts -/

section Larger

variable {o : BinaryOperator} {x : Operand} {rest : Operations}

lemma Formula.Breaks.grouped {e : Formula} (h : e.Breaks) : e.grouped.Breaks := by
  obtain ⟨e₁, e₂, g, v, h⟩ := h
  obtain ⟨a, u, -, hu, ha, hvalue⟩ := h.value
  obtain ⟨u₁, u₂, hu₁, hu₂, hne, houtcome⟩ := h.outcome
  refine ⟨e₁.grouped, e₂.grouped, g, v, h.alike, h.replaces.grouped, h.group, ⟨u, hu, ?_⟩,
    u₁, u₂, hu₁, hu₂, hne, ?_⟩
  · have hbound := e₁.value?_eq
    rw [ha, Option.bind_some, hvalue] at hbound
    exact hbound
  · obtain ⟨h₁, h₂⟩ := houtcome Formula.scan? leading_scan?
    exact ⟨Operand.comesTo_grouped.mpr h₁, Operand.comesTo_grouped.mpr h₂⟩

/-- A layout breaks with the operand in front. -/
lemma Operand.Breaks.first (h : x.Breaks) (rest : Operations) : Formula.Breaks ⟨x, rest⟩ := by
  obtain ⟨x₁, x₂, g, v, h⟩ := h
  obtain ⟨u, hu, hvalue⟩ := h.value
  obtain ⟨u₁, u₂, hu₁, hu₂, hne, h₁, h₂⟩ := h.outcome
  refine ⟨⟨x₁, rest.filled⟩, ⟨x₂, rest.filled⟩, g, v, ⟨h.alike, rest.alike_filled⟩,
    .first h.replaces, h.group, ⟨⟨u₁, hu₁, h₁⟩, u₂, hu₂, h₂⟩,
    ⟨u, u, hu, hu, hvalue, rest.valueAfter?_filled hu hu rfl⟩, u₁, u₂, hu₁, hu₂, hne,
    fun k hk => ?_⟩
  obtain ⟨d₁, hd₁, hdu₁⟩ := h₁
  obtain ⟨d₂, hd₂, hdu₂⟩ := h₂
  rw [Formula.through_eq hd₁, Formula.through_eq hd₂]
  exact ⟨hk.filled hu₁ hdu₁ rest, hk.filled hu₂ hdu₂ rest⟩

/-- A layout breaks with the product behind its first factor. -/
lemma Formula.Breaks.factor (h : Formula.Breaks ⟨x, rest⟩) (ho : o.isProduct = true)
    (y : Operand) : Formula.Breaks ⟨y, .cons o x rest⟩ := by
  obtain ⟨⟨x₁, r₁⟩, ⟨x₂, r₂⟩, g, v, h⟩ := h
  obtain ⟨⟨a₁, ha₁, hx₁⟩, a₂, ha₂, hx₂⟩ := h.first
  obtain ⟨a, u, ha, hu, hvalue, hrest⟩ := h.value
  obtain ⟨u₁, u₂, hu₁, hu₂, hne, houtcome⟩ := h.outcome
  have hone := y.comesTo_filled steady_one
  refine ⟨⟨y.filled 1, .cons times x₁ r₁⟩, ⟨y.filled 1, .cons times x₂ r₂⟩, g, v,
    ⟨y.alike_filled 1, (BinaryOperator.precedence_eq_second ho).symm, h.alike⟩, .rest ?_, h.group,
    ⟨⟨1, steady_one, hone⟩, 1, steady_one, hone⟩,
    ⟨1, u, steady_one, hu, y.value?_filled steady_one, ?_⟩, u₁, u₂, hu₁, hu₂, hne, fun k hk => ?_⟩
  · cases h.replaces with
    | first hreplaces => exact .operand hreplaces
    | rest hreplaces => exact .rest hreplaces
  · rw [Operations.valueAfter?_product rfl hvalue, ha.one_times]
    exact hrest
  · obtain ⟨d, hd, hd1⟩ := hone
    obtain ⟨k₁, hk₁, hthrough₁⟩ := hk.product hd1 hx₁ ha₁
    obtain ⟨k₂, hk₂, hthrough₂⟩ := hk.product hd1 hx₂ ha₂
    rw [Formula.through_eq hd, Formula.through_eq hd, hthrough₁, hthrough₂]
    exact ⟨(houtcome k₁ hk₁).1, (houtcome k₂ hk₂).2⟩

/-- A layout breaks with a summand. -/
lemma Operand.Breaks.summand (h : x.Breaks) (ho : o.isProduct = false) (rest : Operations) :
    (Operations.cons o x rest).Breaks := by
  obtain ⟨x₁, x₂, g, v, h⟩ := h
  obtain ⟨u, hu, hvalue⟩ := h.value
  obtain ⟨u₁, u₂, hu₁, hu₂, hne, h₁, h₂⟩ := h.outcome
  refine ⟨0, steady_zero, .cons plus x₁ rest.filled, .cons plus x₂ rest.filled, g, v,
    ⟨(BinaryOperator.precedence_eq_third ho).symm, h.alike, rest.alike_filled⟩,
    .operand h.replaces, h.group, ⟨u, hu, fun waiting x _ hsettle => ?_⟩, u₁, u₂, hu₁, hu₂, hne,
    fun k c hready => ?_⟩
  · rw [Operations.valueAfter?_sum rfl hvalue, hsettle]
    exact rest.valueAfter?_filled hu hu hu.zero_plus
  · obtain ⟨d₁, hd₁, hdu₁⟩ := h₁
    obtain ⟨d₂, hd₂, hdu₂⟩ := h₂
    rw [hready.turn hd₁, hready.turn hd₂]
    exact ⟨summing_filled hu₁ hu₁ hu₁.zero_plus hdu₁ rest,
      summing_filled hu₂ hu₂ hu₂.zero_plus hdu₂ rest⟩

/-- Operations break with those behind the first. -/
lemma Operations.Breaks.behind (h : rest.Breaks) (o : BinaryOperator) (x : Operand) :
    (Operations.cons o x rest).Breaks := by
  obtain ⟨t, ht, r₁, r₂, g, v, h⟩ := h
  obtain ⟨u, hu, hvalue⟩ := h.value
  obtain ⟨u₁, u₂, hu₁, hu₂, hne, houtcome⟩ := h.outcome
  cases ho : o.isProduct with
  | true =>
      refine ⟨t, ht, .cons times (x.filled 1) r₁, .cons times (x.filled 1) r₂, g, v,
        ⟨(BinaryOperator.precedence_eq_second ho).symm, x.alike_filled 1, h.alike⟩,
        .rest h.replaces, h.group, ⟨u, hu, fun waiting x' hx' hsettle => ?_⟩, u₁, u₂, hu₁, hu₂,
        hne, fun k c hready => ?_⟩
      · rw [valueAfter?_product rfl (x.value?_filled steady_one), hx'.times_one]
        exact hvalue waiting x' hx' hsettle
      · obtain ⟨k', c', hready', hthrough⟩ := hready.product ht x
        rw [hthrough, hthrough]
        exact houtcome k' c' hready'
  | false =>
      refine ⟨t, ht, .cons plus (x.filled 0) r₁, .cons plus (x.filled 0) r₂, g, v,
        ⟨(BinaryOperator.precedence_eq_third ho).symm, x.alike_filled 0, h.alike⟩,
        .rest h.replaces, h.group, ⟨u, hu, fun waiting x' hx' hsettle => ?_⟩, u₁, u₂, hu₁, hu₂,
        hne, fun k c hready => ?_⟩
      · rw [valueAfter?_sum rfl (x.value?_filled steady_zero), hsettle]
        exact hvalue (some (t, plus)) 0 steady_zero ht.plus_zero
      · obtain ⟨d, hd, hd0⟩ := x.comesTo_filled steady_zero
        rw [hready.turn hd, hready.turn hd]
        exact houtcome (Summing t) d (ready_summing ht hd0)

/-- A layout breaks with the operations behind the operand in front. -/
lemma Operations.Breaks.formula (h : rest.Breaks) (x : Operand) : Formula.Breaks ⟨x, rest⟩ := by
  obtain ⟨t, ht, r₁, r₂, g, v, h⟩ := h
  obtain ⟨u, hu, hvalue⟩ := h.value
  obtain ⟨u₁, u₂, hu₁, hu₂, hne, houtcome⟩ := h.outcome
  have hx := x.comesTo_filled ht
  refine ⟨⟨x.filled t, r₁⟩, ⟨x.filled t, r₂⟩, g, v, ⟨x.alike_filled t, h.alike⟩,
    .rest h.replaces, h.group, ⟨⟨t, ht, hx⟩, t, ht, hx⟩,
    ⟨t, u, ht, hu, x.value?_filled ht, hvalue none t ht rfl⟩, u₁, u₂, hu₁, hu₂, hne,
    fun k hk => ?_⟩
  obtain ⟨d, hd, hdt⟩ := hx
  rw [Formula.through_eq hd, Formula.through_eq hd]
  exact houtcome k d (hk.ready ht hdt)

end Larger

/-! ### Halving and doubling -/

/-- The numbers that are put in below, beside zero and one, are steady. -/
lemma steady_samples : Steady 2 ∧ Steady 4 ∧ Steady 0.25 ∧ Steady 1.25 := by
  refine ⟨?_, ?_, ?_, ?_⟩ <;> constructor <;> decide +kernel

lemma steady_two : Steady 2 := steady_samples.1

lemma steady_quarter : Steady 0.25 := steady_samples.2.2.1

/-- What these numbers come to with each other. -/
structure SampleResults : Prop where
  one_halved : dividedBy.result? 1 2 = some 0.5
  one_quartered : dividedBy.result? 1 4 = some 0.25
  half_doubled : times.result? 0.5 2 = some 1
  zero_doubled : times.result? 0 2 = some 0
  two_doubled : times.result? 2 2 = some 4
  one_and_one : plus.result? 1 1 = some 2
  one_and_quarter : plus.result? 1 0.25 = some 1.25
  one_ne_quarter : (1 : Float) ≠ 0.25
  two_ne_one : (2 : Float) ≠ 1
  more_ne_two : (1.25 : Float) ≠ 2

lemma samples : SampleResults := by constructor <;> decide +kernel

/-- The layout of a quotient and a product behind an operand, filled with `/ 2 * 2`. -/
def Operations.halved (y z : Operand) (rest : Operations) : Operations :=
  .cons dividedBy (y.filled 2) (.cons times (z.filled 2) rest.filled)

section Halved

variable {y z c : Operand} {rest : Operations} {o₁ o₂ : BinaryOperator}

lemma Operations.alike_halved (h₁ : o₁.isProduct = true) (h₂ : o₂.isProduct = true) :
    (halved y z rest).Alike (.cons o₁ y (.cons o₂ z rest)) :=
  ⟨(BinaryOperator.precedence_eq_second h₁).symm, y.alike_filled 2,
    (BinaryOperator.precedence_eq_second h₂).symm, z.alike_filled 2, rest.alike_filled⟩

/-- By precedence, one is halved and doubled again. -/
lemma Operations.valueAfter?_halved {waiting : Option (Float × BinaryOperator)} {t : Float}
    (ht : Steady t) (hsettle : settle? waiting 1 = some t) :
    (halved y z rest).valueAfter? waiting 1 = some t := by
  rw [halved, valueAfter?_product rfl (y.value?_filled steady_two), samples.one_halved,
    Option.bind_some, valueAfter?_product rfl (z.value?_filled steady_two), samples.half_doubled]
  exact rest.valueAfter?_filled steady_one ht hsettle

/-- Behind a number that is one, two numbers are taken from the left to the right. -/
lemma Operations.through_halved_number (hy : y.isLate = false) (hz : z.isLate = false)
    (k : Formula → Option Float) :
    (halved y z rest).through k (.number 1) = rest.filled.through k (.number 1) := by
  have hcy := (y.comesTo_filled steady_two).condense?_eq ((y.alike_filled 2).congr.1.trans hy)
  have hcz := (z.comesTo_filled steady_two).condense?_eq ((z.alike_filled 2).congr.1.trans hz)
  rw [halved, through_of_joins hcy rfl, samples.one_halved, Option.bind_some,
    through_of_joins hcz rfl, samples.half_doubled]
  rfl

/-- Behind a group, two numbers are multiplied first. -/
lemma Operations.through_halved_numbers (hc : c.isNumber = false) (hy : y.isLate = false)
    (hz : z.isLate = false) :
    ∃ r, r.Idle ∧ ∀ k, (halved y z rest).through k c = k ⟨c, .cons dividedBy (.number 4) r⟩ := by
  have hcy := (y.comesTo_filled steady_two).condense?_eq ((y.alike_filled 2).congr.1.trans hy)
  have hcz := (z.comesTo_filled steady_two).condense?_eq ((z.alike_filled 2).congr.1.trans hz)
  obtain ⟨r, hr, hidle⟩ := rest.condenseFrom?_filled (c := .number 4) rfl steady_samples.2.1
  refine ⟨r, hidle, fun k => ?_⟩
  rw [halved, through_of_not_joins hcy (BinaryOperator.joins_eq_false (.inr (.inl hc))),
    through_of_joins hcz rfl, samples.two_doubled, Option.bind_some, through, hr]
  rfl

/-- Behind a group, two operands that are not both numbers stay apart. -/
lemma Operations.through_halved_apart (hc : c.isNumber = false)
    (hyz : y.isLate = true ∨ z.isLate = true) :
    ∃ d d' r, r.Idle ∧ d.scan? = some 2 ∧ d'.scan? = some 2
      ∧ ∀ k, (halved y z rest).through k c = k ⟨c, .cons dividedBy d (.cons times d' r)⟩ := by
  obtain ⟨d, hd, hd2⟩ := y.comesTo_filled steady_two
  obtain ⟨d', hd', hd2'⟩ := z.comesTo_filled steady_two
  obtain ⟨r, hr, hidle⟩ := rest.condenseFrom?_filled hd2' steady_two
  refine ⟨d, d', r, hidle, hd2, hd2', fun k => ?_⟩
  have hjoins : times.joins d d' = false := by
    refine BinaryOperator.joins_eq_false (.inr (hyz.imp (fun h => ?_) fun h => ?_))
    · rw [Operand.isNumber_of_condense? hd, (y.alike_filled 2).congr.1, h]
      rfl
    · rw [Operand.isNumber_of_condense? hd', (z.alike_filled 2).congr.1, h]
      rfl
  rw [halved, through_of_not_joins hd (BinaryOperator.joins_eq_false (.inr (.inl hc))),
    through_of_not_joins hd' hjoins, through, hr]
  rfl

end Halved

/-- A late operand is a group that may be replaced by the number in front of it. -/
lemma Operand.exists_replaces {x : Operand} (hx : x.isLate = true) {a : Float} (ha : Steady a) :
    ∃ g, g.outcome? = some a ∧ (x.filled a).Replaces g a (.number a) := by
  cases x with
  | number => contradiction
  | group first rest =>
      exact ⟨⟨first.filled a, rest.filled⟩,
        Operand.comesTo_grouped.mp ((Operand.group first rest).comesTo_filled ha), .here⟩

/-! ### Three factors -/

section Halved

variable {k : Formula → Option Float} {x y z : Operand} {rest : Operations}

/-- What a late one, halved and doubled, comes to behind a product of ones. -/
lemma Leading.halved (hk : Leading k) (hx : x.isLate = true) :
    Formula.through k ⟨x.filled 1, .halved y z rest⟩
      = some (if y.isLate = true ∨ z.isLate = true then 1 else 0.25) := by
  obtain ⟨c, hc, hc1⟩ := x.comesTo_filled steady_one
  have hgroup : c.isNumber = false := by
    rw [Operand.isNumber_of_condense? hc, (x.alike_filled 1).congr.1, hx]
    rfl
  rw [Formula.through_eq hc]
  split
  · next hyz =>
      obtain ⟨d, d', r, hidle, hd, hd', hthrough⟩ := Operations.through_halved_apart hgroup hyz
      rw [hthrough, hk c _ 1 steady_one hc1, Operations.scanFrom?_factor rfl samples.one_halved hd,
        Operations.scanFrom?_factor rfl samples.half_doubled hd']
      exact hidle.scanFrom?_eq steady_one steady_one rfl
  · next hyz =>
      simp only [not_or, Bool.not_eq_true] at hyz
      obtain ⟨r, hidle, hthrough⟩ := Operations.through_halved_numbers hgroup hyz.1 hyz.2
      rw [hthrough, hk c _ 1 steady_one hc1,
        Operations.scanFrom?_factor rfl samples.one_quartered rfl]
      exact hidle.scanFrom?_eq steady_quarter steady_quarter rfl

/-- What a bare one, halved and doubled, comes to behind a product of ones. -/
lemma Leading.halved_number (hk : Leading k) (hy : y.isLate = false) (hz : z.isLate = false) :
    Formula.through k ⟨.number 1, .halved y z rest⟩ = some 1 := by
  rw [Formula.through_eq rfl, Operations.through_halved_number hy hz]
  exact hk.filled steady_one rfl rest

/-- A product breaks if the first of three factors is late and not both others are: they are
multiplied first exactly if both are numbers. -/
lemma Formula.breaks_of_three {o₁ o₂ : BinaryOperator} (hx : x.isLate = true)
    (h₁ : o₁.isProduct = true) (h₂ : o₂.isProduct = true)
    (hyz : y.isLate = false ∨ z.isLate = false) :
    Formula.Breaks ⟨x, .cons o₁ y (.cons o₂ z rest)⟩ := by
  have hne := samples.one_ne_quarter
  have hx1 : ∃ a, Steady a ∧ (x.filled 1).ComesTo a := ⟨1, steady_one, x.comesTo_filled steady_one⟩
  have halike : Formula.Alike ⟨x.filled 1, .halved y z rest⟩ ⟨x, .cons o₁ y (.cons o₂ z rest)⟩ :=
    ⟨x.alike_filled 1, Operations.alike_halved h₁ h₂⟩
  have hvalue : ∃ a u, Steady a ∧ Steady u ∧ (x.filled 1).value? = some a
      ∧ (Operations.halved y z rest).valueAfter? none a = some u :=
    ⟨1, 1, steady_one, steady_one, x.value?_filled steady_one,
      Operations.valueAfter?_halved steady_one rfl⟩
  cases hy : y.isLate with
  | true =>
      -- The second factor is late: as a number it would be multiplied with the third first.
      have hz : z.isLate = false := hyz.resolve_left (by simp [hy])
      obtain ⟨g, hg, hreplaces⟩ := y.exists_replaces hy steady_two
      refine ⟨⟨x.filled 1, .halved y z rest⟩, ⟨x.filled 1, .halved (.number 2) z rest⟩, g, 2, halike,
        .rest (.operand hreplaces), hg, ⟨hx1, hx1⟩, hvalue, 1, 0.25, steady_one, steady_quarter, hne,
        fun k hk => ?_⟩
      rw [hk.halved hx, hk.halved hx]
      simp [hy, hz, Operand.isLate]
  | false =>
      cases hz : z.isLate with
      | true =>
          -- The third factor is late: as a number it would be multiplied with the second first.
          obtain ⟨g, hg, hreplaces⟩ := z.exists_replaces hz steady_two
          refine ⟨⟨x.filled 1, .halved y z rest⟩, ⟨x.filled 1, .halved y (.number 2) rest⟩, g, 2,
            halike, .rest (.rest (.operand hreplaces)), hg, ⟨hx1, hx1⟩, hvalue, 1, 0.25, steady_one,
            steady_quarter, hne, fun k hk => ?_⟩
          rw [hk.halved hx, hk.halved hx]
          simp [hy, hz, Operand.isLate]
      | false =>
          -- Only the first factor is late: as a number it would be halved first.
          obtain ⟨g, hg, hreplaces⟩ := x.exists_replaces hx steady_one
          refine ⟨⟨x.filled 1, .halved y z rest⟩, ⟨.number 1, .halved y z rest⟩, g, 1, halike,
            .first hreplaces, hg, ⟨hx1, 1, steady_one, .number 1, rfl, rfl⟩, hvalue, 0.25, 1,
            steady_quarter, steady_one, hne.symm, fun k hk => ?_⟩
          rw [hk.halved hx, hk.halved_number hy hz]
          simp [hy, hz]

/-- Where a product becomes uneven with another factor in front, that one is late, and of the two
behind it one is not. -/
lemma Lateness.late_of_not_even {first second : Bool} {others : List Bool}
    (h : ¬Even (first :: second :: others)) (hbehind : Even (second :: others)) :
    first = true ∧ ∃ third more, others = third :: more ∧ (second = false ∨ third = false) := by
  cases others with
  | nil => cases first <;> cases second <;> simp [Even] at h
  | cons third more =>
      cases first with
      | false => exact absurd hbehind h
      | true =>
          refine ⟨rfl, third, more, rfl, ?_⟩
          cases second with
          | false => exact .inl rfl
          | true =>
              cases third with
              | false => exact .inr rfl
              | true =>
                  rcases hbehind with hlength | hlate
                  · obtain rfl : more = [] := by simpa using hlength
                    simp [Even] at h
                  · exact absurd (.inr (List.forall_mem_cons.mpr ⟨rfl, hlate⟩)) h

/-- A layout breaks if its first product is not even. -/
theorem Formula.breaks_of_not_even (x : Operand) (rest : Operations)
    (h : ¬Lateness.Even (x.isLate :: rest.factors)) : Formula.Breaks ⟨x, rest⟩ := by
  match rest with
  | .nil => cases hx : x.isLate <;> simp [hx, Operations.factors, Lateness.Even] at h
  | .cons o y rest =>
      cases ho : o.isProduct with
      | false => cases hx : x.isLate <;> simp [hx, ho, Operations.factors, Lateness.Even] at h
      | true =>
          rw [Operations.factors_cons_of_product ho] at h
          by_cases hbehind : Lateness.Even (y.isLate :: rest.factors)
          · obtain ⟨hx, third, more, hfactors, hyz⟩ := Lateness.late_of_not_even h hbehind
            match rest with
            | .nil => simp [Operations.factors] at hfactors
            | .cons o' z rest =>
                cases ho' : o'.isProduct with
                | false => simp [Operations.factors, ho'] at hfactors
                | true =>
                    rw [Operations.factors_cons_of_product ho'] at hfactors
                    obtain ⟨rfl, -⟩ := List.cons.inj hfactors
                    exact Formula.breaks_of_three hx ho ho' hyz
          · exact (Formula.breaks_of_not_even y rest hbehind).factor ho x

end Halved

/-! ### Late factors behind a sum sign -/

/-- In this place a late factor two doubles the sum so far, which is one, but a bare factor two
does not. -/
def Pending (k : Formula → Option Float) (c : Operand) : Prop :=
  ∀ (x : Operand) (rest : Operations), x.isLate = true →
    (Operations.cons times (x.filled 2) rest.filled).through k c = some 2
      ∧ (Operations.cons times (.number 2) rest.filled).through k c = some 1

section Pending

variable {k : Formula → Option Float} {c d x : Operand} {r rest : Operations}

/-- A late factor two, in a place where it is a factor of the sum. -/
lemma through_late_eq (hk : ∀ d r, d.scan? = some 2 → d.isNumber = false →
      k ⟨c, .cons times d r⟩ = (Operations.cons times d r).scanFrom? none 1)
    (hx : x.isLate = true) :
    (Operations.cons times (x.filled 2) rest.filled).through k c = some 2 := by
  obtain ⟨d, hd, hd2⟩ := x.comesTo_filled steady_two
  obtain ⟨r, hr, hidle⟩ := rest.condenseFrom?_filled hd2 steady_two
  have hgroup : d.isNumber = false := by
    rw [Operand.isNumber_of_condense? hd, (x.alike_filled 2).congr.1, hx]
    rfl
  rw [Operations.through_of_not_joins hd (BinaryOperator.joins_eq_false (.inr (.inr hgroup))),
    Operations.through, hr, Option.bind_some, hk d r hd2 hgroup,
    Operations.scanFrom?_factor rfl steady_two.one_times hd2]
  exact hidle.scanFrom?_eq steady_two steady_two rfl

lemma pending_number : Pending (Summing 1) (.number 0) := by
  intro x rest hx
  refine ⟨through_late_eq (fun d r _ _ => ?_) hx, ?_⟩
  · rw [Summing, Operations.scanFrom?_sum_number rfl, settle?, Option.bind_some,
      steady_one.plus_zero]
    rfl
  · rw [Operations.through_of_joins rfl rfl, samples.zero_doubled]
    exact summing_filled steady_zero steady_one steady_one.plus_zero rfl rest

/-- A bare factor behind a group behind a sum sign is one of the group. -/
lemma summing_group_number (hc : c.isNumber = false) (hc0 : c.scan? = some 0) {b : Float}
    (hb : times.result? 0 b = some 0) :
    Summing 1 ⟨c, .cons times (.number b) r⟩ = r.scanFrom? none 1 := by
  have hsettle : settle? (some ((1 : Float), plus)) 0 = some 1 := steady_one.plus_zero
  rw [Summing, Operations.scanFrom?_sum_group hc rfl, hc0, Option.bind_some, settle?,
    Option.bind_some, Operations.scanFrom?_product_number rfl, hb, Option.bind_some, hsettle]
  rfl

lemma pending_group (hc : c.isNumber = false) (hc0 : c.scan? = some 0) : Pending (Summing 1) c := by
  intro x rest hx
  refine ⟨through_late_eq (fun d r _ hd => ?_) hx, ?_⟩
  · have hsettle : settle? (some ((1 : Float), plus)) 0 = some 1 := steady_one.plus_zero
    rw [Summing, Operations.scanFrom?_sum_group hc rfl, hc0, Option.bind_some, settle?,
      Option.bind_some, Operations.scanFrom?_of_settle? (.inr hd), hsettle]
    rfl
  · obtain ⟨r, hr, hidle⟩ := rest.condenseFrom?_filled (c := .number 2) rfl steady_two
    rw [Operations.through_of_not_joins rfl (BinaryOperator.joins_eq_false (.inr (.inl hc))),
      Operations.through, hr, Option.bind_some, summing_group_number hc hc0 samples.zero_doubled]
    exact hidle.scanFrom?_eq steady_one steady_one rfl

lemma pending_behind (hc : c.isNumber = false) (hc0 : c.scan? = some 0) :
    Pending (fun e => Summing 1 ⟨c, .cons times e.first e.rest⟩) (.number 1) := by
  intro x rest hx
  refine ⟨through_late_eq (fun d r _ _ => ?_) hx, ?_⟩
  · exact summing_group_number hc hc0 steady_zero.times_one
  · obtain ⟨r, hr, hidle⟩ := rest.condenseFrom?_filled (c := .number 2) rfl steady_two
    rw [Operations.through_of_joins rfl rfl, steady_two.one_times, Option.bind_some,
      Operations.through, hr, Option.bind_some, summing_group_number hc hc0 samples.zero_doubled]
    exact hidle.scanFrom?_eq steady_one steady_one rfl

end Pending

/-- Fillings of the factors behind a summand zero that come to two and to one with the sum one in
front of it. -/
structure Operations.Doubles (rest r₁ r₂ : Operations) (g : Formula) : Prop where
  alike : r₁.Alike rest
  replaces : r₁.Replaces g 2 r₂
  group : g.outcome? = some 2
  value : r₁.valueAfter? (some (1, plus)) 0 = some 1
  number : ∀ {k : Formula → Option Float} {w : Float}, Steady w → Pending k (.number w) →
    r₁.through k (.number w) = some 2 ∧ r₂.through k (.number w) = some 1
  operand : ∀ {c : Operand}, c.isNumber = false → c.scan? = some 0 →
    r₁.through (Summing 1) c = some 2 ∧ r₂.through (Summing 1) c = some 1

namespace Operations

lemma exists_doubles {rest : Operations} (h : ∃ late ∈ rest.factors, late = true) :
    ∃ r₁ r₂ g, rest.Doubles r₁ r₂ g := by
  have hsettle : settle? (some ((1 : Float), plus)) 0 = some 1 := steady_one.plus_zero
  match rest with
  | .nil => simp [factors] at h
  | .cons o x rest =>
      cases ho : o.isProduct with
      | false => simp [factors, ho] at h
      | true =>
          have hsecond := BinaryOperator.precedence_eq_second ho
          rw [factors_cons_of_product ho] at h
          cases hx : x.isLate with
          | true =>
              obtain ⟨g, hg, hreplaces⟩ := x.exists_replaces hx steady_two
              refine ⟨.cons times (x.filled 2) rest.filled, .cons times (.number 2) rest.filled, g,
                ⟨hsecond.symm, x.alike_filled 2, rest.alike_filled⟩, .operand hreplaces, hg, ?_,
                fun _ hk => hk x rest hx, fun hc hc0 => pending_group hc hc0 x rest hx⟩
              rw [valueAfter?_product rfl (x.value?_filled steady_two), samples.zero_doubled]
              exact rest.valueAfter?_filled steady_zero steady_one hsettle
          | false =>
              have hlate : ∃ late ∈ rest.factors, late = true := by simpa [hx] using h
              obtain ⟨r₁, r₂, g, hdoubles⟩ := exists_doubles hlate
              have hone := (x.comesTo_filled steady_one).condense?_eq
                ((x.alike_filled 1).congr.1.trans hx)
              refine ⟨.cons times (x.filled 1) r₁, .cons times (x.filled 1) r₂, g,
                ⟨hsecond.symm, x.alike_filled 1, hdoubles.alike⟩, .rest hdoubles.replaces,
                hdoubles.group, ?_, fun hw hk => ?_, fun hc hc0 => ?_⟩
              · rw [valueAfter?_product rfl (x.value?_filled steady_one), steady_zero.times_one]
                exact hdoubles.value
              · rw [through_of_joins hone rfl, through_of_joins hone rfl, hw.times_one]
                exact hdoubles.number hw hk
              · have hjoins := BinaryOperator.joins_eq_false (o := times) (y := .number 1)
                  (.inr (.inl hc))
                rw [through_of_not_joins hone hjoins, through_of_not_joins hone hjoins]
                exact hdoubles.number steady_one (pending_behind hc hc0)

variable {o : BinaryOperator} {x : Operand} {rest : Operations}

/-- A product behind a sum sign breaks if another factor than the first is late: the sum so far is
multiplied with it. -/
lemma breaks_of_late_factor (ho : o.isProduct = false) (h : ∃ late ∈ rest.factors, late = true) :
    (cons o x rest).Breaks := by
  have hne := samples.two_ne_one
  obtain ⟨r₁, r₂, g, hdoubles⟩ := exists_doubles h
  refine ⟨1, steady_one, .cons plus (x.filled 0) r₁, .cons plus (x.filled 0) r₂, g, 2,
    ⟨(BinaryOperator.precedence_eq_third ho).symm, x.alike_filled 0, hdoubles.alike⟩,
    .rest hdoubles.replaces, hdoubles.group, ⟨1, steady_one, fun waiting x' _ hsettle => ?_⟩,
    2, 1, steady_two, steady_one, hne, fun k c hready => ?_⟩
  · rw [valueAfter?_sum rfl (x.value?_filled steady_zero), hsettle]
    exact hdoubles.value
  · obtain ⟨d, hd, hd0⟩ := x.comesTo_filled steady_zero
    rw [hready.turn hd, hready.turn hd]
    cases d with
    | number b =>
        obtain rfl : b = 0 := Option.some.inj hd0
        exact hdoubles.number steady_zero pending_number
    | group first inner => exact hdoubles.operand rfl hd0

/-- A product behind a sum sign breaks if its first factor is late and two numbers follow: they are
multiplied first. -/
lemma breaks_of_two_factors {o₁ o₂ : BinaryOperator} {y z : Operand} (ho : o.isProduct = false)
    (h₁ : o₁.isProduct = true) (h₂ : o₂.isProduct = true) (hx : x.isLate = true)
    (hy : y.isLate = false) (hz : z.isLate = false) :
    (cons o x (.cons o₁ y (.cons o₂ z rest))).Breaks := by
  have hsteady : Steady 1.25 := steady_samples.2.2.2
  have hone := samples.one_and_one
  obtain ⟨g, hg, hreplaces⟩ := x.exists_replaces hx steady_one
  refine ⟨1, steady_one, .cons plus (x.filled 1) (halved y z rest),
    .cons plus (.number 1) (halved y z rest), g, 1,
    ⟨(BinaryOperator.precedence_eq_third ho).symm, x.alike_filled 1, alike_halved h₁ h₂⟩,
    .operand hreplaces, hg, ⟨2, steady_two, fun waiting x' _ hsettle => ?_⟩,
    1.25, 2, hsteady, steady_two, samples.more_ne_two, fun k c hready => ⟨?_, ?_⟩⟩
  · rw [valueAfter?_sum rfl (x.value?_filled steady_one), hsettle]
    exact valueAfter?_halved steady_two hone
  · obtain ⟨d, hd, hd1⟩ := x.comesTo_filled steady_one
    have hgroup : d.isNumber = false := by
      rw [Operand.isNumber_of_condense? hd, (x.alike_filled 1).congr.1, hx]
      rfl
    have hsettle : settle? (some ((1 : Float), plus)) 0.25 = some 1.25 := samples.one_and_quarter
    obtain ⟨r, hidle, hthrough⟩ := through_halved_numbers hgroup hy hz
    rw [hready.turn hd, hthrough, Summing, scanFrom?_sum_group hgroup rfl, hd1, Option.bind_some,
      settle?, Option.bind_some, scanFrom?_product_number rfl, samples.one_quartered,
      Option.bind_some, hsettle]
    exact hidle.scanFrom?_eq hsteady hsteady rfl
  · rw [hready.turn rfl, through_halved_number hy hz]
    exact summing_filled steady_one steady_two hone rfl rest

/-- Operations break if a product behind a sum sign does not fit there. -/
lemma breaks_of_not_fitsSum (ho : o.isProduct = false)
    (h : ¬Lateness.FitsSum (x.isLate :: rest.factors)) : (cons o x rest).Breaks := by
  by_cases hlate : ∃ late ∈ rest.factors, late = true
  · exact breaks_of_late_factor ho hlate
  · have hall : ∀ late ∈ rest.factors, late = false := by simpa using hlate
    obtain ⟨hx, hlength⟩ : x.isLate = true ∧ ¬rest.factors.length ≤ 1 :=
      Classical.not_imp.mp fun hshort => h ⟨hall, hshort⟩
    match rest with
    | .nil => simp [factors] at hlength
    | .cons o₁ y .nil => cases h₁ : o₁.isProduct <;> simp [factors, h₁] at hlength
    | .cons o₁ y (.cons o₂ z rest) =>
        cases h₁ : o₁.isProduct with
        | false => simp [factors, h₁] at hlength
        | true =>
            cases h₂ : o₂.isProduct with
            | false => simp [factors, h₁, h₂] at hlength
            | true =>
                rw [factors_cons_of_product h₁, factors_cons_of_product h₂] at hall
                exact breaks_of_two_factors ho h₁ h₂ hx (hall _ (by simp)) (hall _ (by simp))

/-- Operations break if any product behind a sum sign does not fit there. -/
lemma breaks_of_not_sumsFit {rest : Operations} (h : ¬rest.SumsFit) : rest.Breaks := by
  match rest with
  | .nil => exact absurd trivial h
  | .cons o x rest =>
      by_cases hsums : rest.SumsFit
      · have hfits : ¬(o.isProduct = false → Lateness.FitsSum (x.isLate :: rest.factors)) :=
          fun hfits => h ⟨hfits, hsums⟩
        obtain ⟨ho, hfits⟩ := Classical.not_imp.mp hfits
        exact breaks_of_not_fitsSum ho hfits
      · exact (breaks_of_not_sumsFit hsums).behind o x

end Operations

/-! ### Groups in groups -/

mutual

/-- Without sums there is nothing that is not arranged. -/
theorem Operand.arranged_of_isLate {x : Operand} (h : x.isLate = false) :
    x.Arranged Lateness.Even := by
  match x with
  | .number x => trivial
  | .group first rest =>
      obtain ⟨hfirst, hrest⟩ := Bool.or_eq_false_iff.mp h
      obtain ⟨harranged, hfactors, hsums⟩ := Operations.arranged_of_hasSum hrest
      refine ⟨Operand.arranged_of_isLate hfirst, harranged, ?_, hsums⟩
      rw [hfirst]
      exact Lateness.even_of_not_late (List.forall_mem_cons.mpr ⟨rfl, hfactors⟩)

theorem Operations.arranged_of_hasSum {rest : Operations} (h : rest.hasSum = false) :
    rest.Arranged Lateness.Even ∧ (∀ late ∈ rest.factors, late = false) ∧ rest.SumsFit := by
  match rest with
  | .nil => exact ⟨trivial, by simp [Operations.factors], trivial⟩
  | .cons o x rest =>
      simp only [Operations.hasSum, Bool.or_eq_false_iff, Bool.not_eq_false'] at h
      obtain ⟨⟨ho, hx⟩, hrest⟩ := h
      obtain ⟨harranged, hfactors, hsums⟩ := Operations.arranged_of_hasSum hrest
      refine ⟨⟨Operand.arranged_of_isLate hx, harranged⟩, ?_, by simp [ho], hsums⟩
      rw [Operations.factors_cons_of_product ho]
      exact List.forall_mem_cons.mpr ⟨hx, hfactors⟩

end

/-- Every operand that is not arranged breaks. -/
def Operations.OperandsBreak : Operations → Prop
  | .nil => True
  | .cons _ x rest => (¬x.Arranged Lateness.Even → x.Breaks) ∧ rest.OperandsBreak

namespace Operations

/-- Behind a summand that fits, operations break if an operand is not arranged. -/
lemma OperandsBreak.breaks {rest : Operations} (hbreak : rest.OperandsBreak)
    (hfactors : ∀ late ∈ rest.factors, late = false) (hsums : rest.SumsFit)
    (h : ¬rest.Arranged Lateness.Even) : rest.Breaks := by
  match rest with
  | .nil => exact absurd trivial h
  | .cons o x rest =>
      obtain ⟨hx, hbreak⟩ := hbreak
      obtain ⟨hfits, hsums⟩ := hsums
      cases ho : o.isProduct with
      | true =>
          rw [factors_cons_of_product ho] at hfactors
          obtain ⟨hlate, hfactors⟩ := List.forall_mem_cons.mp hfactors
          refine (hbreak.breaks hfactors hsums fun hrest => ?_).behind o x
          exact h ⟨Operand.arranged_of_isLate hlate, hrest⟩
      | false =>
          by_cases hrest : rest.Arranged Lateness.Even
          · exact (hx fun hx => h ⟨hx, hrest⟩).summand ho rest
          · exact (hbreak.breaks (hfits ho).1 hsums hrest).behind o x

/-- A formula breaks if an operand of its operations is not arranged. -/
lemma OperandsBreak.formula {rest : Operations} (hbreak : rest.OperandsBreak)
    (hsums : rest.SumsFit) (h : ¬rest.Arranged Lateness.Even) (y : Operand) :
    Formula.Breaks ⟨y, rest⟩ := by
  match rest with
  | .nil => exact absurd trivial h
  | .cons o x rest =>
      obtain ⟨hx, hbreak⟩ := hbreak
      obtain ⟨hfits, hsums⟩ := hsums
      by_cases hrest : rest.Arranged Lateness.Even
      · have hx := hx fun hx => h ⟨hx, hrest⟩
        cases ho : o.isProduct with
        | true => exact (hx.first rest).factor ho y
        | false => exact (hx.summand ho rest).formula y
      · cases ho : o.isProduct with
        | true => exact (hbreak.formula hsums hrest x).factor ho y
        | false => exact ((hbreak.breaks (hfits ho).1 hsums hrest).behind o x).formula y

end Operations

/-- A formula breaks if it is not safe, and each of its operands that is not arranged breaks. -/
lemma Formula.breaks_of_operands {first : Operand} {rest : Operations}
    (hfirst : ¬first.Arranged Lateness.Even → first.Breaks) (hrest : rest.OperandsBreak)
    (h : ¬Formula.Safe ⟨first, rest⟩) : Formula.Breaks ⟨first, rest⟩ := by
  by_cases heven : Lateness.Even (first.isLate :: rest.factors)
  · by_cases hsums : rest.SumsFit
    · by_cases hall : rest.Arranged Lateness.Even
      · exact (hfirst fun hfirst => h ⟨hfirst, hall, heven, hsums⟩).first rest
      · exact hrest.formula hsums hall first
    · exact (Operations.breaks_of_not_sumsFit hsums).formula first
  · exact Formula.breaks_of_not_even first rest heven

mutual

theorem Operand.breaks_of_not_arranged {x : Operand} (h : ¬x.Arranged Lateness.Even) :
    x.Breaks := by
  match x with
  | .number x => exact absurd trivial h
  | .group first rest =>
      exact (Formula.breaks_of_operands Operand.breaks_of_not_arranged rest.operandsBreak h).grouped

theorem Operations.operandsBreak (rest : Operations) : rest.OperandsBreak := by
  match rest with
  | .nil => trivial
  | .cons o x rest => exact ⟨Operand.breaks_of_not_arranged, rest.operandsBreak⟩

end

/-- **A layout that is not safe breaks.** -/
theorem Formula.breaks_of_not_safe {e : Formula} (h : ¬e.Safe) : e.Breaks :=
  Formula.breaks_of_operands Operand.breaks_of_not_arranged e.rest.operandsBreak h

end ChatCommand
