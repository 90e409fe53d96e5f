/-
What rewriting makes of a formula.

* `Operand.condense?`, `Operations.condenseFrom?`, `Formula.condense?`: all products between bare
  numbers are computed, wherever they stand, and brackets around a number go away;
* `Operand.scan?`, `Operations.scanFrom?`, `Formula.scan?`: then everything is computed from the
  left to the right whatever its precedence, but a number behind a product sign behind a group
  behind a sum sign belongs to the group;
* `Formula.outcome?`: the one after the other;
* `Formula.exists_step`: a step keeps the outcome, and a formula with an outcome is a number or has
  a step;
* `Formula.run_of_outcome?`: **rewriting a formula with an outcome ends in the outcome**.
-/
import Mathlib.Tactic.Common
import ChatCommand.Proofs.Arithmetic.Rewriting
import ChatCommand.Sentence.Repetition

namespace ChatCommand

/-! ### Products first -/

def Operand.isNumber : Operand → Bool
  | number _ => true
  | group .. => false

/-- Whether the operator makes a product of two bare numbers. -/
def BinaryOperator.joins (o : BinaryOperator) (x y : Operand) : Bool :=
  o.isProduct && x.isNumber && y.isNumber

/-- The formula as an operand: between brackets unless it is a number. -/
def Formula.closed (e : Formula) : Operand :=
  match e.number? with
  | some x => .number x
  | none => e.grouped

mutual

/-- The operand with all products between bare numbers computed. -/
def Operand.condense? : Operand → Option Operand
  | .number x => some (.number x)
  | .group first rest => do
    let e ← rest.condenseFrom? (← first.condense?)
    some e.closed

/-- The operand `x` with the operations behind it, of which all products between bare numbers are
computed. -/
def Operations.condenseFrom? (x : Operand) : Operations → Option Formula
  | .nil => some ⟨x, .nil⟩
  | .cons o y rest => do
    let y ← y.condense?
    if o.joins x y then rest.condenseFrom? (.number (← o.between? .second x y))
    else
      let e ← rest.condenseFrom? y
      some ⟨x, .cons o e.first e.rest⟩

end

/-! ### From the left to the right -/

mutual

/-- The number that the operand comes to. -/
def Operand.scan? : Operand → Option Float
  | .number x => some x
  | .group first rest => do rest.scanFrom? none (← first.scan?)

/-- The number that operations come to behind `x`. Where `x` is what a group behind a sum sign has
come to, the sum waits for a number that may belong to the group. -/
def Operations.scanFrom? (waiting : Option (Float × BinaryOperator)) (x : Float) :
    Operations → Option Float
  | .nil => settle? waiting x
  | .cons o operand rest => do
    let y ← operand.scan?
    if o.isProduct && operand.isNumber then
      rest.scanFrom? none (← settle? waiting (← o.result? x y))
    else
      let sum ← settle? waiting x
      if o.isProduct || operand.isNumber then rest.scanFrom? none (← o.result? sum y)
      else rest.scanFrom? (some (sum, o)) y

end

namespace Formula

def condense? (e : Formula) : Option Formula := e.first.condense?.bind e.rest.condenseFrom?

def scan? (e : Formula) : Option Float := e.first.scan?.bind (e.rest.scanFrom? none)

/-- The number that rewriting makes of a formula, if every operation on the way has a result. -/
def outcome? (e : Formula) : Option Float := e.condense?.bind scan?

end Formula

@[simp]
lemma Formula.scan?_closed (e : Formula) : e.closed.scan? = e.scan? := by
  obtain ⟨first, rest⟩ := e
  match first, rest with
  | .number x, .nil => rfl
  | .number x, .cons o y rest => rfl
  | .group first inner, rest => rfl

/-! ### Case by case -/

section Cases

variable {o : BinaryOperator} {x y c : Operand} {rest : Operations} {a b : Float}
  {waiting : Option (Float × BinaryOperator)}

lemma BinaryOperator.joins_number (ho : o.isProduct = true) :
    o.joins (.number a) (.number b) = true := by
  rw [joins, ho]
  rfl

lemma BinaryOperator.joins_eq_false
    (h : o.isProduct = false ∨ x.isNumber = false ∨ y.isNumber = false) : o.joins x y = false := by
  rcases h with h | h | h <;> simp [joins, h]

lemma Operations.condenseFrom?_of_joins (hc : y.condense? = some (.number b))
    (ho : o.isProduct = true) :
    (cons o y rest).condenseFrom? (.number a)
      = (o.result? a b).bind fun z => rest.condenseFrom? (.number z) := by
  have hsecond := BinaryOperator.precedence_eq_second ho
  rw [condenseFrom?, hc, Option.bind_eq_bind, Option.bind_some,
    if_pos (BinaryOperator.joins_number ho), BinaryOperator.between?, if_pos hsecond]
  rfl

lemma Operations.condenseFrom?_of_not_joins (hc : y.condense? = some c)
    (hjoins : o.joins x c = false) :
    (cons o y rest).condenseFrom? x
      = (rest.condenseFrom? c).map fun e => ⟨x, .cons o e.first e.rest⟩ := by
  rw [condenseFrom?, hc, Option.bind_eq_bind, Option.bind_some, hjoins, if_neg (by simp)]
  cases rest.condenseFrom? c <;> rfl

lemma Operations.scanFrom?_product_number (ho : o.isProduct = true) :
    (cons o (.number b) rest).scanFrom? waiting a
      = ((o.result? a b).bind (settle? waiting)).bind (rest.scanFrom? none) := by
  simp [scanFrom?, Operand.scan?, Operand.isNumber, ho, Option.bind_assoc]

lemma Operations.scanFrom?_sum_number (ho : o.isProduct = false) :
    (cons o (.number b) rest).scanFrom? waiting a
      = (settle? waiting a).bind fun sum => (o.result? sum b).bind (rest.scanFrom? none) := by
  simp [scanFrom?, Operand.scan?, Operand.isNumber, ho]

lemma Operations.scanFrom?_product_group (hy : y.isNumber = false) (ho : o.isProduct = true) :
    (cons o y rest).scanFrom? waiting a = y.scan?.bind fun w =>
      (settle? waiting a).bind fun sum => (o.result? sum w).bind (rest.scanFrom? none) := by
  simp [scanFrom?, hy, ho]

lemma Operations.scanFrom?_sum_group (hy : y.isNumber = false) (ho : o.isProduct = false) :
    (cons o y rest).scanFrom? waiting a = y.scan?.bind fun w =>
      (settle? waiting a).bind fun sum => rest.scanFrom? (some (sum, o)) w := by
  simp [scanFrom?, hy, ho]

end Cases

/-! ### Brackets around numbers -/

mutual

/-- Brackets around a number make no difference to what is condensed. -/
theorem Operand.condense?_of_unwrap? {x x' : Operand} (h : x.unwrap? = some x') :
    x'.condense? = x.condense? := by
  match x with
  | .number x => contradiction
  | .group first rest =>
      rw [Operand.unwrap?] at h
      cases hnumber : (Formula.mk first rest).number? with
      | some v =>
          rw [hnumber] at h
          obtain rfl := Option.some.inj h
          obtain ⟨rfl, rfl⟩ := Formula.mk.inj (Formula.number?_eq_some_iff.mp hnumber)
          rfl
      | none =>
          simp only [hnumber] at h
          cases hfirst : first.unwrap? with
          | some first' =>
              rw [hfirst] at h
              obtain rfl := Option.some.inj h
              rw [Operand.condense?, Operand.condense?, Operand.condense?_of_unwrap? hfirst]
          | none =>
              rw [hfirst] at h
              obtain ⟨rest', hrest, rfl⟩ := Option.map_eq_some_iff.mp h
              simp only [Operand.condense?, Operations.condenseFrom?_of_unwrap? hrest]

theorem Operations.condenseFrom?_of_unwrap? {rest rest' : Operations}
    (h : rest.unwrap? = some rest') (x : Operand) :
    rest'.condenseFrom? x = rest.condenseFrom? x := by
  match rest with
  | .nil => contradiction
  | .cons o y rest =>
      rw [Operations.unwrap?] at h
      cases hy : y.unwrap? with
      | some y' =>
          rw [hy] at h
          obtain rfl := Option.some.inj h
          rw [Operations.condenseFrom?, Operations.condenseFrom?, Operand.condense?_of_unwrap? hy]
      | none =>
          rw [hy] at h
          obtain ⟨rest', hrest, rfl⟩ := Option.map_eq_some_iff.mp h
          simp only [Operations.condenseFrom?, Operations.condenseFrom?_of_unwrap? hrest]

end

lemma Formula.condense?_of_unwrap? {e e' : Formula} (h : e.unwrap? = some e') :
    e'.condense? = e.condense? := by
  rw [unwrap?] at h
  cases hfirst : e.first.unwrap? with
  | some first' =>
      rw [hfirst] at h
      obtain rfl := Option.some.inj h
      simp only [condense?, Operand.condense?_of_unwrap? hfirst]
  | none =>
      rw [hfirst] at h
      obtain ⟨rest', hrest, rfl⟩ := Option.map_eq_some_iff.mp h
      simp only [condense?]
      exact congrArg _ (funext fun x => Operations.condenseFrom?_of_unwrap? hrest x)

/-! ### Condensed formulas -/

mutual

/-- There is no product between bare numbers and no number between brackets. -/
def Operand.Condensed : Operand → Prop
  | .number _ => True
  | .group first rest =>
    (Formula.mk first rest).number? = none ∧ first.Condensed ∧ rest.CondensedBehind first

def Operations.CondensedBehind (x : Operand) : Operations → Prop
  | .nil => True
  | .cons o y rest => o.joins x y = false ∧ y.Condensed ∧ rest.CondensedBehind y

end

def Formula.Condensed (e : Formula) : Prop := e.first.Condensed ∧ e.rest.CondensedBehind e.first

mutual

/-- There is nothing left to condense. -/
theorem Operand.Condensed.condense?_eq {x : Operand} (hx : x.Condensed) :
    x.condense? = some x := by
  match x with
  | .number x => rfl
  | .group first rest =>
      obtain ⟨hnumber, hfirst, hrest⟩ := hx
      rw [Operand.condense?, hfirst.condense?_eq, Option.bind_eq_bind, Option.bind_some,
        hrest.condenseFrom?_eq, Option.bind_eq_bind, Option.bind_some, Formula.closed, hnumber]
      rfl

theorem Operations.CondensedBehind.condenseFrom?_eq {x : Operand} {rest : Operations}
    (hrest : rest.CondensedBehind x) : rest.condenseFrom? x = some ⟨x, rest⟩ := by
  match rest with
  | .nil => rfl
  | .cons o y rest =>
      obtain ⟨hjoins, hy, hrest⟩ := hrest
      simp only [Operations.condenseFrom?, hy.condense?_eq, Option.bind_eq_bind, Option.bind_some,
        hjoins, Bool.false_eq_true, if_false, hrest.condenseFrom?_eq]

end

lemma Formula.Condensed.condense?_eq {e : Formula} (h : e.Condensed) : e.condense? = some e := by
  rw [condense?, h.1.condense?_eq, Option.bind_some, h.2.condenseFrom?_eq]

/-- Whether operations are condensed depends on the operand before them only through its being a
number. -/
lemma Operations.CondensedBehind.congr {x y : Operand} {rest : Operations}
    (h : rest.CondensedBehind x) (hxy : x.isNumber = y.isNumber) : rest.CondensedBehind y := by
  cases rest with
  | nil => trivial
  | cons o z rest =>
      obtain ⟨hjoins, hz, hrest⟩ := h
      refine ⟨?_, hz, hrest⟩
      rw [BinaryOperator.joins, ← hxy]
      exact hjoins

lemma BinaryOperator.between?_isSome_of_joins {o : BinaryOperator} {x y : Operand}
    (h : o.joins x y = true) : ∃ a b, x = .number a ∧ y = .number b
      ∧ o.isProduct = true ∧ o.between? .second x y = o.result? a b := by
  cases x <;> cases y <;> simp_all [joins, Operand.isNumber, between?, isProduct]

mutual

/-- If there is no number between brackets and no product to compute, a formula is condensed, unless
a product has no result. -/
theorem Operand.condensed_of_compute? {x c : Operand} (hwrap : x.unwrap? = none)
    (happly : x.compute? .second = none) (hc : x.condense? = some c) : x.Condensed := by
  match x with
  | .number x => trivial
  | .group first rest =>
      obtain ⟨hnumber, hwfirst, hwrest⟩ := Operand.unwrap?_group_eq_none.mp hwrap
      obtain ⟨hafirst, harest⟩ := Operand.compute?_group_eq_none.mp happly
      simp only [Operand.condense?, Option.bind_eq_bind, Option.bind_eq_some_iff] at hc
      obtain ⟨first', hcfirst, e, hcrest, -⟩ := hc
      have hfirst := Operand.condensed_of_compute? hwfirst hafirst hcfirst
      obtain rfl : first = first' := Option.some.inj (hfirst.condense?_eq.symm.trans hcfirst)
      exact ⟨hnumber, hfirst, Operations.condensed_of_computeFrom? hwrest harest hcrest⟩

theorem Operations.condensed_of_computeFrom? {x : Operand} {rest : Operations} {c : Formula}
    (hwrap : rest.unwrap? = none) (happly : rest.computeFrom? .second x = none)
    (hc : rest.condenseFrom? x = some c) : rest.CondensedBehind x := by
  match rest with
  | .nil => trivial
  | .cons o y rest =>
      obtain ⟨hwy, hwrest⟩ := Operations.unwrap?_cons_eq_none.mp hwrap
      obtain ⟨hbetween, hay, harest⟩ := Operations.computeFrom?_cons_eq_none.mp happly
      simp only [Operations.condenseFrom?, Option.bind_eq_bind, Option.bind_eq_some_iff] at hc
      obtain ⟨y', hcy, hc⟩ := hc
      have hy := Operand.condensed_of_compute? hwy hay hcy
      obtain rfl : y = y' := Option.some.inj (hy.condense?_eq.symm.trans hcy)
      split at hc
      · simp [hbetween] at hc
      · next hjoins =>
          obtain ⟨e, hcrest, -⟩ := Option.bind_eq_some_iff.mp hc
          exact ⟨by simpa using hjoins, hy,
            Operations.condensed_of_computeFrom? hwrest harest hcrest⟩

end

lemma Formula.condensed_of_compute? {e c : Formula} (hwrap : e.unwrap? = none)
    (happly : e.compute? .second = none) (hc : e.condense? = some c) : e.Condensed := by
  obtain ⟨hwfirst, hwrest⟩ := unwrap?_eq_none.mp hwrap
  obtain ⟨hafirst, harest⟩ := compute?_eq_none.mp happly
  obtain ⟨first, hcfirst, hcrest⟩ := Option.bind_eq_some_iff.mp hc
  have hfirst := Operand.condensed_of_compute? hwfirst hafirst hcfirst
  obtain rfl : e.first = first := Option.some.inj (hfirst.condense?_eq.symm.trans hcfirst)
  exact ⟨hfirst, Operations.condensed_of_computeFrom? hwrest harest hcrest⟩

/-! ### Products -/

lemma BinaryOperator.joins_of_between? {o : BinaryOperator} {x y : Operand} {z : Float}
    (h : o.between? .second x y = some z) : o.joins x y = true := by
  obtain ⟨a, b, rfl, rfl, ho, -⟩ := between?_eq_some_iff.mp h
  simp [joins, isProduct, ho, Operand.isNumber]

/-- In front of operations there stays what was there, or a number comes in the place of one. -/
lemma Operations.first_of_computeFrom? {p : Precedence} {x : Operand} {rest : Operations} {e : Formula}
    (h : rest.computeFrom? p x = some e) :
    e.first.isNumber = x.isNumber ∧ (x.condense? = some x → e.first.condense? = some e.first) := by
  cases rest with
  | nil => contradiction
  | cons o y rest =>
      rw [Operations.computeFrom?] at h
      cases hz : o.between? p x y with
      | some z =>
          simp only [hz, Option.some.injEq] at h
          obtain ⟨a, b, rfl, -⟩ := BinaryOperator.between?_eq_some_iff.mp hz
          rw [← h]
          exact ⟨rfl, fun _ => rfl⟩
      | none =>
          simp only [hz] at h
          cases hy : y.compute? p with
          | some y' =>
              simp only [hy, Option.some.injEq] at h
              rw [← h]
              exact ⟨rfl, id⟩
          | none =>
              simp only [hy, Option.map_eq_some_iff] at h
              obtain ⟨e', -, rfl⟩ := h
              exact ⟨rfl, id⟩

mutual

/-- The first product that has a result is one of those that are computed anyway. -/
theorem Operand.condense?_of_compute? {x x' c : Operand} (hwrap : x.unwrap? = none)
    (happly : x.compute? .second = some x') (hc : x.condense? = some c) :
    x'.condense? = some c := by
  match x with
  | .number x => contradiction
  | .group first rest =>
      obtain ⟨-, hwfirst, hwrest⟩ := Operand.unwrap?_group_eq_none.mp hwrap
      simp only [Operand.condense?, Option.bind_eq_bind, Option.bind_eq_some_iff] at hc
      obtain ⟨cfirst, hcfirst, e, hcrest, hce⟩ := hc
      rw [Operand.compute?] at happly
      cases hafirst : first.compute? .second with
      | some first' =>
          simp only [hafirst, Option.some.injEq] at happly
          rw [← happly, Operand.condense?, Operand.condense?_of_compute? hwfirst hafirst hcfirst]
          simp only [Option.bind_eq_bind, Option.bind_some, hcrest, hce]
      | none =>
          simp only [hafirst, Option.map_eq_some_iff] at happly
          obtain ⟨e', harest, rfl⟩ := happly
          have hfirst := (Operand.condensed_of_compute? hwfirst hafirst hcfirst).condense?_eq
          obtain rfl : first = cfirst := Option.some.inj (hfirst.symm.trans hcfirst)
          rw [Formula.grouped, Operand.condense?,
            (Operations.first_of_computeFrom? harest).2 hfirst]
          simp only [Option.bind_eq_bind, Option.bind_some, hce,
            Operations.condenseFrom?_of_computeFrom? hwrest harest hcrest]

theorem Operations.condenseFrom?_of_computeFrom? {x : Operand} {rest : Operations} {e c : Formula}
    (hwrap : rest.unwrap? = none) (happly : rest.computeFrom? .second x = some e)
    (hc : rest.condenseFrom? x = some c) : e.rest.condenseFrom? e.first = some c := by
  match rest with
  | .nil => contradiction
  | .cons o y rest =>
      obtain ⟨hwy, hwrest⟩ := Operations.unwrap?_cons_eq_none.mp hwrap
      simp only [Operations.condenseFrom?, Option.bind_eq_bind, Option.bind_eq_some_iff] at hc
      obtain ⟨cy, hcy, hc⟩ := hc
      rw [Operations.computeFrom?] at happly
      cases hz : o.between? .second x y with
      | some z =>
          simp only [hz, Option.some.injEq] at happly
          obtain ⟨a, b, rfl, rfl, -⟩ := BinaryOperator.between?_eq_some_iff.mp hz
          obtain rfl := Option.some.inj hcy
          rw [if_pos (BinaryOperator.joins_of_between? hz), hz, Option.bind_some] at hc
          rw [← happly]
          exact hc
      | none =>
          simp only [hz] at happly
          cases hay : y.compute? .second with
          | some y' =>
              simp only [hay, Option.some.injEq] at happly
              rw [← happly, Operations.condenseFrom?, Operand.condense?_of_compute? hwy hay hcy]
              exact hc
          | none =>
              simp only [hay, Option.map_eq_some_iff] at happly
              obtain ⟨e', harest, rfl⟩ := happly
              have hy := (Operand.condensed_of_compute? hwy hay hcy).condense?_eq
              obtain rfl : y = cy := Option.some.inj (hy.symm.trans hcy)
              obtain ⟨hnumber, hcfirst⟩ := Operations.first_of_computeFrom? harest
              split at hc
              · simp [hz] at hc
              · next hjoins =>
                  obtain ⟨c', hcrest, hc⟩ := Option.bind_eq_some_iff.mp hc
                  have hjoins' : o.joins x e'.first = false := by
                    rw [BinaryOperator.joins, hnumber]
                    exact Bool.eq_false_iff.mpr hjoins
                  simp only [Operations.condenseFrom?, hcfirst hy, Option.bind_eq_bind,
                    Option.bind_some, hjoins', Bool.false_eq_true, if_false,
                    Operations.condenseFrom?_of_computeFrom? hwrest harest hcrest]
                  exact hc

end

lemma Formula.condense?_of_compute? {e e' c : Formula} (hwrap : e.unwrap? = none)
    (happly : e.compute? .second = some e') (hc : e.condense? = some c) :
    e'.condense? = some c := by
  obtain ⟨hwfirst, hwrest⟩ := unwrap?_eq_none.mp hwrap
  obtain ⟨cfirst, hcfirst, hcrest⟩ := Option.bind_eq_some_iff.mp hc
  rw [compute?] at happly
  cases hafirst : e.first.compute? .second with
  | some first' =>
      simp only [hafirst, Option.some.injEq] at happly
      rw [← happly, condense?, Operand.condense?_of_compute? hwfirst hafirst hcfirst]
      exact hcrest
  | none =>
      simp only [hafirst] at happly
      have hfirst := (Operand.condensed_of_compute? hwfirst hafirst hcfirst).condense?_eq
      obtain rfl : e.first = cfirst := Option.some.inj (hfirst.symm.trans hcfirst)
      rw [condense?, (Operations.first_of_computeFrom? happly).2 hfirst]
      exact Operations.condenseFrom?_of_computeFrom? hwrest happly hcrest

/-! ### Sums -/

lemma Operand.isNumber_of_compute? {p : Precedence} {x x' : Operand} (h : x.compute? p = some x') :
    x.isNumber = false := by
  cases x with
  | number => contradiction
  | group => rfl

/-- Operations that need not wait. -/
lemma Operations.scanFrom?_of_settle? {o : BinaryOperator} {y : Operand} {rest : Operations}
    {waiting : Option (Float × BinaryOperator)} {w : Float}
    (h : o.isProduct = false ∨ y.isNumber = false) :
    (cons o y rest).scanFrom? waiting w
      = (settle? waiting w).bind ((cons o y rest).scanFrom? none) := by
  cases ho : o.isProduct with
  | true =>
      have hy : y.isNumber = false := h.resolve_left (by simp [ho])
      simp only [scanFrom?_product_group hy ho]
      cases settle? waiting w <;> simp [settle?]
  | false =>
      cases y with
      | number b =>
          simp only [scanFrom?_sum_number ho]
          cases settle? waiting w <;> simp [settle?]
      | group first tail =>
          have hy : (Operand.group first tail).isNumber = false := rfl
          simp only [scanFrom?_sum_group hy ho]
          cases settle? waiting w <;> simp [settle?]

/-- Behind what a group has come to, condensing computes the product that the sum before the group
waits for. -/
lemma Operations.CondensedBehind.scanFrom?_condenseFrom? {x : Operand} {rest : Operations}
    (hrest : rest.CondensedBehind x) {waiting : Option (Float × BinaryOperator)} {w v : Float}
    (hv : rest.scanFrom? waiting w = some v) :
    ∃ z rest', rest.condenseFrom? (.number w) = some ⟨.number z, rest'⟩
      ∧ (settle? waiting z).bind (rest'.scanFrom? none) = some v := by
  cases rest with
  | nil =>
      have hsettle : settle? waiting w = some v := hv
      exact ⟨w, .nil, rfl, by rw [hsettle]; rfl⟩
  | cons o y rest =>
      obtain ⟨-, hy, hrest⟩ := hrest
      by_cases hjoins : o.isProduct = true ∧ y.isNumber = true
      · obtain ⟨ho, hnumber⟩ := hjoins
        obtain ⟨b, rfl⟩ : ∃ b, y = .number b := by
          cases y with
          | number b => exact ⟨b, rfl⟩
          | group => contradiction
        rw [Operations.scanFrom?_product_number ho] at hv
        obtain ⟨t, ht, hv⟩ := Option.bind_eq_some_iff.mp hv
        obtain ⟨z, hz, ht⟩ := Option.bind_eq_some_iff.mp ht
        have hcondensed : rest.CondensedBehind (.number z) := hrest.congr rfl
        refine ⟨z, rest, ?_, by rw [ht]; exact hv⟩
        rw [Operations.condenseFrom?_of_joins rfl ho, hz, Option.bind_some,
          hcondensed.condenseFrom?_eq]
      · have hno : o.isProduct = false ∨ y.isNumber = false := by
          simpa only [not_and_or, Bool.not_eq_true] using hjoins
        have hcondensed : (Operations.cons o y rest).CondensedBehind (.number w) :=
          ⟨BinaryOperator.joins_eq_false (hno.imp_right .inr), hy, hrest⟩
        refine ⟨w, .cons o y rest, hcondensed.condenseFrom?_eq, ?_⟩
        rw [← Operations.scanFrom?_of_settle? hno]
        exact hv

/-- The operand is a number, or has a sum to compute that does not change what it comes to. -/
def Operand.Advances (x : Operand) : Prop :=
  x.Condensed → ∀ v, x.scan? = some v →
    x = .number v ∨ ∃ x' c, x.compute? .third = some x' ∧ x'.condense? = some c ∧ c.scan? = some v

namespace Formula

/-- A step in the first operand. -/
lemma outcome?_of_first {first first' c : Operand} {rest : Operations} {u v : Float}
    (hgroup : first.isNumber = false) (hrest : rest.CondensedBehind first)
    (hc : first'.condense? = some c) (hcu : c.scan? = some u)
    (hv : rest.scanFrom? none u = some v) : outcome? ⟨first', rest⟩ = some v := by
  rw [outcome?, condense?, hc, Option.bind_some]
  cases c with
  | number w =>
      obtain rfl := Option.some.inj hcu
      obtain ⟨z, rest', hcondense, hscan⟩ := hrest.scanFrom?_condenseFrom? hv
      rw [hcondense]
      exact hscan
  | group inner tail =>
      have hcondensed : rest.CondensedBehind (.group inner tail) := hrest.congr hgroup
      rw [hcondensed.condenseFrom?_eq, Option.bind_some, scan?, hcu]
      exact hv

lemma outcome?_number_first (u : Float) (rest : Operations) :
    outcome? ⟨.number u, rest⟩ = (rest.condenseFrom? (.number u)).bind scan? := rfl

/-- The group behind the first number becomes a number. In a product this goes on with what stands
behind it, in a sum a product behind it belongs to it. -/
lemma outcome?_of_second_number {o : BinaryOperator} {y y' : Operand} {rest : Operations}
    {u w v : Float} (hgroup : y.isNumber = false) (hrest : rest.CondensedBehind y)
    (hc : y'.condense? = some (.number w)) (hw : y.scan? = some w)
    (hv : (Operations.cons o y rest).scanFrom? none u = some v) :
    outcome? ⟨.number u, .cons o y' rest⟩ = some v := by
  rw [outcome?_number_first]
  cases ho : o.isProduct with
  | true =>
      rw [Operations.scanFrom?_product_group hgroup ho, hw, Option.bind_some] at hv
      obtain ⟨t, ht, hv⟩ := Option.bind_eq_some_iff.mp hv
      obtain rfl : u = t := Option.some.inj ht
      obtain ⟨product, hproduct, hv⟩ := Option.bind_eq_some_iff.mp hv
      obtain ⟨z, rest', hcondense, hscan⟩ := hrest.scanFrom?_condenseFrom? hv
      rw [Operations.condenseFrom?_of_joins hc ho, hproduct, Option.bind_some, hcondense]
      exact hscan
  | false =>
      rw [Operations.scanFrom?_sum_group hgroup ho, hw, Option.bind_some] at hv
      have hscan : rest.scanFrom? (some (u, o)) w = some v := hv
      obtain ⟨z, rest', hcondense, hscan⟩ := hrest.scanFrom?_condenseFrom? hscan
      have hjoins : o.joins (.number u) (.number w) = false := BinaryOperator.joins_eq_false (.inl ho)
      rw [Operations.condenseFrom?_of_not_joins hc hjoins, hcondense, Option.map_some,
        Option.bind_some, scan?, Operand.scan?, Option.bind_some,
        Operations.scanFrom?_sum_number ho]
      exact hscan

/-- The group behind the first number stays a group. -/
lemma outcome?_of_second_group {o : BinaryOperator} {y y' c : Operand} {rest : Operations}
    {u w v : Float} (hgroup : y.isNumber = false) (hrest : rest.CondensedBehind y)
    (hc : y'.condense? = some c) (hcgroup : c.isNumber = false) (hcw : c.scan? = some w)
    (hw : y.scan? = some w) (hv : (Operations.cons o y rest).scanFrom? none u = some v) :
    outcome? ⟨.number u, .cons o y' rest⟩ = some v := by
  have hcondensed : rest.CondensedBehind c := hrest.congr (hgroup.trans hcgroup.symm)
  have hjoins : o.joins (.number u) c = false := BinaryOperator.joins_eq_false (.inr (.inr hcgroup))
  rw [outcome?_number_first, Operations.condenseFrom?_of_not_joins hc hjoins,
    hcondensed.condenseFrom?_eq, Option.map_some, Option.bind_some, scan?, Operand.scan?,
    Option.bind_some]
  cases ho : o.isProduct with
  | true =>
      rw [Operations.scanFrom?_product_group hgroup ho, hw] at hv
      rw [Operations.scanFrom?_product_group hcgroup ho, hcw]
      exact hv
  | false =>
      rw [Operations.scanFrom?_sum_group hgroup ho, hw] at hv
      rw [Operations.scanFrom?_sum_group hcgroup ho, hcw]
      exact hv

/-- The first two numbers are added or subtracted. -/
lemma exists_compute?_of_numbers {o : BinaryOperator} {rest : Operations} {u w v : Float}
    (ho : o.isProduct = false) (hrest : rest.CondensedBehind (.number w))
    (hv : (Operations.cons o (.number w) rest).scanFrom? none u = some v) :
    ∃ e', compute? .third ⟨.number u, .cons o (.number w) rest⟩ = some e'
      ∧ e'.outcome? = some v := by
  rw [Operations.scanFrom?_sum_number ho] at hv
  obtain ⟨t, ht, hv⟩ := Option.bind_eq_some_iff.mp hv
  obtain rfl : u = t := Option.some.inj ht
  obtain ⟨z, hz, hv⟩ := Option.bind_eq_some_iff.mp hv
  have hbetween : o.between? .third (.number u) (.number w) = some z := by
    rw [BinaryOperator.between?, if_pos (BinaryOperator.precedence_eq_third ho), hz]
  have hcondensed : rest.CondensedBehind (.number z) := hrest.congr rfl
  refine ⟨⟨.number z, rest⟩, ?_, ?_⟩
  · simp only [compute?, Operand.compute?, Operations.computeFrom?, hbetween]
  · rw [outcome?_number_first, hcondensed.condenseFrom?_eq]
    exact hv

/-- There is a sum to compute in the group behind the first number. -/
lemma exists_compute?_of_group {o : BinaryOperator} {y y' c : Operand} {rest : Operations}
    {u w v : Float} (hy' : y.compute? .third = some y') (hrest : rest.CondensedBehind y)
    (hc : y'.condense? = some c) (hcw : c.scan? = some w) (hw : y.scan? = some w)
    (hv : (Operations.cons o y rest).scanFrom? none u = some v) :
    ∃ e', compute? .third ⟨.number u, .cons o y rest⟩ = some e' ∧ e'.outcome? = some v := by
  have hgroup := Operand.isNumber_of_compute? hy'
  have hbetween : o.between? .third (.number u) y = none := by
    cases y with
    | number => contradiction
    | group => rfl
  refine ⟨⟨.number u, .cons o y' rest⟩, ?_, ?_⟩
  · simp only [compute?, Operand.compute?, Operations.computeFrom?, hbetween, hy']
  · cases c with
    | number x =>
        obtain rfl : x = w := Option.some.inj hcw
        exact outcome?_of_second_number hgroup hrest hc hw hv
    | group => exact outcome?_of_second_group hgroup hrest hc rfl hcw hw hv

/-- The first sum of a condensed formula is computed in its first operand, between its first two
numbers, or in the group behind its first number. -/
lemma exists_compute? {e : Formula} (hfirst : e.first.Advances)
    (hsecond : ∀ o y rest, e.rest = .cons o y rest → y.Advances) (he : e.Condensed) {v : Float}
    (hv : e.scan? = some v) :
    e = number v ∨ ∃ e', e.compute? .third = some e' ∧ e'.outcome? = some v := by
  obtain ⟨first, rest⟩ := e
  obtain ⟨hcfirst, hcrest⟩ := he
  obtain ⟨u, hu, hv⟩ := Option.bind_eq_some_iff.mp hv
  rcases hfirst hcfirst u hu with hnumber | ⟨first', c, hfirst', hc, hcu⟩
  · obtain rfl : first = .number u := hnumber
    cases rest with
    | nil =>
        have hsettle : some u = some v := hv
        exact .inl (by rw [Option.some.inj hsettle]; rfl)
    | cons o y rest =>
        right
        obtain ⟨hjoins, hy, hrest⟩ := hcrest
        obtain ⟨w, hw⟩ : ∃ w, y.scan? = some w := by
          cases hw : y.scan? with
          | none => simp [Operations.scanFrom?, hw] at hv
          | some w => exact ⟨w, rfl⟩
        rcases hsecond o y rest rfl hy w hw with rfl | ⟨y', c, hy', hc, hcw⟩
        · have ho : o.isProduct = false := by
            simpa [BinaryOperator.joins, Operand.isNumber] using hjoins
          exact exists_compute?_of_numbers ho hrest hv
        · exact exists_compute?_of_group hy' hrest hc hcw hw hv
  · right
    refine ⟨⟨first', rest⟩, by rw [compute?, hfirst'], ?_⟩
    exact outcome?_of_first (Operand.isNumber_of_compute? hfirst') hcrest hc hcu hv

/-- A group advances as the formula in it does. -/
lemma advances_grouped {e : Formula} (hfirst : e.first.Advances)
    (hsecond : ∀ o y rest, e.rest = .cons o y rest → y.Advances) : e.grouped.Advances := by
  intro ⟨hnumber, he⟩ v hv
  rcases exists_compute? hfirst hsecond he hv with rfl | ⟨e', happly, houtcome⟩
  · contradiction
  · right
    obtain ⟨c, hc, hcv⟩ := Option.bind_eq_some_iff.mp houtcome
    refine ⟨e'.grouped, c.closed, ?_, ?_, by rw [scan?_closed]; exact hcv⟩
    · rw [compute?_grouped, happly]
      rfl
    · rw [grouped, Operand.condense?]
      obtain ⟨first', hfirst', hrest'⟩ := Option.bind_eq_some_iff.mp hc
      rw [hfirst', Option.bind_eq_bind, Option.bind_some, hrest']
      rfl

end Formula

theorem Operand.advances (x : Operand) : x.Advances := by
  match x with
  | .number x => exact fun _ v hv => .inl (congrArg _ (Option.some.inj hv))
  | .group first .nil =>
      refine @Formula.advances_grouped ⟨first, .nil⟩ first.advances fun o y rest h => ?_
      contradiction
  | .group first (.cons o y rest) =>
      refine @Formula.advances_grouped ⟨first, .cons o y rest⟩ first.advances fun o y rest h => ?_
      obtain ⟨rfl, rfl, rfl⟩ := Operations.cons.inj h
      exact y.advances

/-! ### Steps and runs -/

namespace Formula

/-- A formula with an outcome is a number, or has a step that keeps the outcome. -/
theorem exists_step {e : Formula} {v : Float} (h : e.outcome? = some v) :
    e = number v ∨ ∃ e', e.step? = some e' ∧ e'.outcome? = some v := by
  obtain ⟨c, hc, hcv⟩ := Option.bind_eq_some_iff.mp h
  cases hwrap : e.unwrap? with
  | some e' =>
      refine .inr ⟨e', by rw [step?, hwrap]; rfl, ?_⟩
      rw [outcome?, condense?_of_unwrap? hwrap]
      exact h
  | none =>
      cases hsecond : e.compute? .second with
      | some e' =>
          refine .inr ⟨e', by rw [step?, hwrap, hsecond]; rfl, ?_⟩
          rw [outcome?, condense?_of_compute? hwrap hsecond hc]
          exact hcv
      | none =>
          have he := condensed_of_compute? hwrap hsecond hc
          obtain rfl : e = c := Option.some.inj (he.condense?_eq.symm.trans hc)
          rcases exists_compute? e.first.advances (fun _ y _ _ => y.advances) he hcv
            with hnumber | ⟨e', hthird, houtcome⟩
          · exact .inl hnumber
          · exact .inr ⟨e', by rw [step?, hwrap, hsecond, hthird]; rfl, houtcome⟩

lemma length_pieces_of_step? {e e' : Formula} (h : e.step? = some e') :
    e.pieces.length = e'.pieces.length + 2 := by
  refine Piece.length_of_step? ?_
  rw [e.step?_pieces, h]
  rfl

/-- **Rewriting a formula with an outcome ends in the outcome**, with a step for every two words but
the last. -/
theorem run_of_outcome? {e : Formula} {v : Float} (h : e.outcome? = some v) {budget : Nat}
    (hbudget : e.pieces.length ≤ 2 * budget + 1) :
    Repetition.run step? budget e = (number v, false) := by
  induction budget generalizing e with
  | zero =>
      rcases exists_step h with rfl | ⟨e', hstep, -⟩
      · exact Repetition.run_of_eq_none rfl 0
      · have hlength := length_pieces_of_step? hstep
        omega
  | succ budget ih =>
      rcases exists_step h with rfl | ⟨e', hstep, houtcome⟩
      · exact Repetition.run_of_eq_none rfl (budget + 1)
      · have hlength := length_pieces_of_step? hstep
        rw [Repetition.run_succ hstep]
        exact ih houtcome (by omega)

end Formula

end ChatCommand
