/-
What stands in front of operations.

* `Operations.through`, `Formula.through`: what is made of operations, and of a formula, in their
  place;
* `Leading`: a place behind a product of ones;
* `Summing`, `Ready`: places behind a sum;
* `Leading.product`, `Ready.product`, `Ready.turn`: **how a place changes with another operation**;
* `Leading.filled`, `summing_filled`: what filled operations come to there.
-/
import Mathlib.Tactic.Common
import ChatCommand.Proofs.Arithmetic.Fillings

namespace ChatCommand

open BinaryOperator (times dividedBy plus)

/-! ### Operations in their place -/

/-- What is made of operations behind `c`, if `k` tells what is made of the condensed formula. -/
def Operations.through (k : Formula → Option Float) (c : Operand) (rest : Operations) :
    Option Float :=
  (rest.condenseFrom? c).bind k

/-- What is made of a formula, if `k` tells what is made of the condensed formula. -/
def Formula.through (k : Formula → Option Float) (e : Formula) : Option Float :=
  e.condense?.bind k

section Through

variable {k : Formula → Option Float} {o : BinaryOperator} {x c d : Operand} {rest : Operations}

lemma Formula.through_eq (hx : x.condense? = some d) : through k ⟨x, rest⟩ = rest.through k d := by
  rw [through, condense?, hx]
  rfl

lemma Operations.through_of_joins {a b : Float} (hx : x.condense? = some (.number b))
    (ho : o.isProduct = true) :
    (cons o x rest).through k (.number a)
      = (o.result? a b).bind fun z => rest.through k (.number z) := by
  rw [through, condenseFrom?_of_joins hx ho, Option.bind_assoc]
  rfl

lemma Operations.through_of_not_joins (hx : x.condense? = some d) (hjoins : o.joins c d = false) :
    (cons o x rest).through k c
      = rest.through (fun e => k ⟨c, .cons o e.first e.rest⟩) d := by
  rw [through, condenseFrom?_of_not_joins hx hjoins, through]
  cases rest.condenseFrom? d <;> rfl

end Through

/-- What stands in front is a product of ones. -/
def Leading (k : Formula → Option Float) : Prop :=
  ∀ c r w, Steady w → c.scan? = some w → k ⟨c, r⟩ = r.scanFrom? none w

/-- What is made of a product behind a sum that is `t` so far. -/
def Summing (t : Float) (e : Formula) : Option Float :=
  (Operations.cons plus e.first e.rest).scanFrom? none t

/-- In front of a sum sign or a factor one, everything up to `c` is a sum that is `t` so far. -/
structure Ready (t : Float) (k : Formula → Option Float) (c : Operand) : Prop where
  steady : ∃ a, Steady a ∧ c.scan? = some a
  next : ∀ o y r, o.isProduct = false ∨ (o = times ∧ y.scan? = some 1) →
    k ⟨c, .cons o y r⟩ = (Operations.cons o y r).scanFrom? none t

lemma leading_scan? : Leading Formula.scan? := by
  intro c r w _ hc
  rw [Formula.scan?, hc]
  rfl

/-- Where no sum waits, a factor is a factor of all that is on its left. -/
lemma Operations.scanFrom?_factor {o : BinaryOperator} (ho : o.isProduct = true) {t w z : Float}
    (hz : o.result? t w = some z) {y : Operand} (hy : y.scan? = some w) (r : Operations) :
    (cons o y r).scanFrom? none t = r.scanFrom? none z := by
  cases y with
  | number b =>
      obtain rfl : b = w := Option.some.inj hy
      rw [scanFrom?_product_number ho, hz]
      rfl
  | group first inner =>
      rw [scanFrom?_product_group rfl ho, hy, Option.bind_some, settle?, Option.bind_some, hz]
      rfl

section Contexts

variable {k : Formula → Option Float} {c x : Operand} {t a : Float}

/-- Behind a product of ones, a factor may as well be the first one. -/
lemma Leading.product (hk : Leading k) (hc : c.scan? = some 1) (hx : x.ComesTo a)
    (ha : Steady a) :
    ∃ k', Leading k' ∧ ∀ r, (Operations.cons times x r).through k c = Formula.through k' ⟨x, r⟩ := by
  obtain ⟨d, hd, hda⟩ := hx
  cases hjoins : times.joins c d with
  | true =>
      obtain ⟨b, b', rfl, rfl, -⟩ := BinaryOperator.between?_isSome_of_joins hjoins
      obtain rfl : b = 1 := Option.some.inj hc
      obtain rfl : b' = a := Option.some.inj hda
      refine ⟨k, hk, fun r => ?_⟩
      rw [Operations.through_of_joins hd rfl, ha.one_times, Formula.through_eq hd]
      rfl
  | false =>
      refine ⟨fun e => k ⟨c, .cons times e.first e.rest⟩, fun c' r w hw hc' => ?_, fun r => ?_⟩
      · exact (hk c _ 1 steady_one hc).trans (Operations.scanFrom?_factor rfl hw.one_times hc' r)
      · rw [Operations.through_of_not_joins hd hjoins, Formula.through_eq hd]

lemma Leading.ready (hk : Leading k) (ht : Steady t) (hc : c.scan? = some t) : Ready t k c where
  steady := ⟨t, ht, hc⟩
  next _ _ _ _ := hk c _ t ht hc

/-- Factors one behind a sum leave it as it is. -/
lemma Ready.product (h : Ready t k c) (ht : Steady t) (x : Operand) :
    ∃ k' c', Ready t k' c'
      ∧ ∀ r, (Operations.cons times (x.filled 1) r).through k c = r.through k' c' := by
  obtain ⟨d, hd, hd1⟩ := x.comesTo_filled steady_one
  cases hjoins : times.joins c d with
  | true =>
      obtain ⟨b, b', rfl, rfl, -⟩ := BinaryOperator.between?_isSome_of_joins hjoins
      obtain ⟨a, ha, hba⟩ := h.steady
      obtain rfl : b = a := Option.some.inj hba
      obtain rfl : b' = 1 := Option.some.inj hd1
      refine ⟨k, .number b, h, fun r => ?_⟩
      rw [Operations.through_of_joins hd rfl, ha.times_one]
      rfl
  | false =>
      refine ⟨fun e => k ⟨c, .cons times e.first e.rest⟩, d, ⟨⟨1, steady_one, hd1⟩, ?_⟩,
        fun r => Operations.through_of_not_joins hd hjoins⟩
      intro o y r _
      rw [h.next _ _ _ (.inr ⟨rfl, hd1⟩)]
      exact Operations.scanFrom?_factor rfl ht.times_one hd1 _

/-- Behind a sum sign the sum so far is all that counts. -/
lemma Ready.turn (h : Ready t k c) {d : Operand} (hx : x.condense? = some d) (r : Operations) :
    (Operations.cons plus x r).through k c = r.through (Summing t) d := by
  have hsum : (fun e : Formula => k ⟨c, .cons plus e.first e.rest⟩) = Summing t :=
    funext fun e => h.next _ _ _ (.inl rfl)
  rw [Operations.through_of_not_joins hx (BinaryOperator.joins_eq_false (.inl rfl)), hsum]

/-- A summand zero leaves a sum as it is. -/
lemma ready_summing (ht : Steady t) (hc : c.scan? = some 0) : Ready t (Summing t) c where
  steady := ⟨0, steady_zero, hc⟩
  next o y r hnext := by
    rw [Summing]
    cases c with
    | number b =>
        obtain rfl : b = 0 := Option.some.inj hc
        rw [Operations.scanFrom?_sum_number rfl, settle?, Option.bind_some, ht.plus_zero]
        rfl
    | group first inner =>
        have hsettle : settle? (some (t, plus)) 0 = some t := ht.plus_zero
        rw [Operations.scanFrom?_sum_group rfl rfl, hc, Option.bind_some, settle?, Option.bind_some]
        cases hy : o.isProduct && y.isNumber with
        | false =>
            have hno : o.isProduct = false ∨ y.isNumber = false := Bool.and_eq_false_iff.mp hy
            rw [Operations.scanFrom?_of_settle? hno, hsettle]
            rfl
        | true =>
            simp only [Bool.and_eq_true] at hy
            rcases hnext with ho | ⟨rfl, hy1⟩
            · simp [ho] at hy
            · cases y with
              | group => simp [Operand.isNumber] at hy
              | number b =>
                  obtain rfl : b = 1 := Option.some.inj hy1
                  rw [Operations.scanFrom?_product_number rfl, steady_zero.times_one,
                    Option.bind_some, hsettle, Operations.scanFrom?_factor rfl ht.times_one rfl]
                  rfl

/-- Filled operations behind a product of ones. -/
lemma Leading.filled (hk : Leading k) (ha : Steady a) (hc : c.scan? = some a) (rest : Operations) :
    rest.filled.through k c = some a := by
  obtain ⟨r, hr, hidle⟩ := rest.condenseFrom?_filled hc ha
  rw [Operations.through, hr, Option.bind_some, hk c r a ha hc]
  exact hidle.scanFrom?_eq ha ha rfl

/-- Filled operations behind a summand. -/
lemma summing_filled {s : Float} (ha : Steady a) (hs : Steady s) (hsum : plus.result? t a = some s)
    (hc : c.scan? = some a) (rest : Operations) : rest.filled.through (Summing t) c = some s := by
  obtain ⟨r, hr, hidle⟩ := rest.condenseFrom?_filled hc ha
  rw [Operations.through, hr, Option.bind_some, Summing]
  cases c with
  | number b =>
      obtain rfl : b = a := Option.some.inj hc
      rw [Operations.scanFrom?_sum_number rfl, settle?, Option.bind_some, hsum]
      exact hidle.scanFrom?_eq hs hs rfl
  | group first inner =>
      rw [Operations.scanFrom?_sum_group rfl rfl, hc, Option.bind_some, settle?, Option.bind_some]
      exact hidle.scanFrom?_eq ha hs hsum

end Contexts

end ChatCommand
