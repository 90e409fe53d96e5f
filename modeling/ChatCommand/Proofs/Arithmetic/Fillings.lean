/-
Layouts filled with ones and zeros.

* `Operand.Alike`: the same layout, with other numbers and operators;
* `Operand.filled`, `Operations.filled`: every factor is one and every summand zero;
* `Operations.condenseFrom?_filled`, `Operations.Idle.scanFrom?_eq`: such operations change
  nothing, in whatever order they are computed;
* `Operations.through`, `Leading`, `Ready`: what rewriting makes of operations depends on what is in
  front of them, which may be factors one, or a sum so far.
-/
import Mathlib.Tactic.Common
import ChatCommand.Proofs.Arithmetic.Replacement

namespace ChatCommand

/-! ### Layouts -/

mutual

/-- The same but for the numbers, and for operators of the same precedence. -/
def Operand.Alike : Operand → Operand → Prop
  | .number _, .number _ => True
  | .group first rest, .group first' rest' => first.Alike first' ∧ rest.Alike rest'
  | _, _ => False

def Operations.Alike : Operations → Operations → Prop
  | .nil, .nil => True
  | .cons o x rest, .cons o' x' rest' =>
    o.val.precedence = o'.val.precedence ∧ x.Alike x' ∧ rest.Alike rest'
  | _, _ => False

end

/-- The formulas have the same layout. -/
def Formula.Alike (e e' : Formula) : Prop := e.first.Alike e'.first ∧ e.rest.Alike e'.rest

lemma BinaryOperator.isProduct_congr {o o' : BinaryOperator}
    (h : o.val.precedence = o'.val.precedence) : o.isProduct = o'.isProduct := by
  rw [isProduct, isProduct, h]

mutual

/-- What stands where depends on the layout alone. -/
theorem Operand.Alike.congr {x x' : Operand} (h : x.Alike x') :
    x.isLate = x'.isLate ∧ x.pieces.length = x'.pieces.length
      ∧ ∀ leading, x.Arranged leading ↔ x'.Arranged leading := by
  match x, x' with
  | .number _, .number _ => exact ⟨rfl, rfl, fun _ => Iff.rfl⟩
  | .group first rest, .group first' rest' =>
      obtain ⟨hlate, hlength, harranged⟩ := Operand.Alike.congr h.1
      obtain ⟨hsum, hlengths, hfactors, hsums, hall⟩ := Operations.Alike.congr h.2
      refine ⟨?_, ?_, fun leading => ?_⟩
      · rw [Operand.isLate, Operand.isLate, hlate, hsum]
      · simp [Operand.pieces, hlength, hlengths]
      · rw [Operand.Arranged, Operand.Arranged, hlate, hfactors, harranged, hall, hsums]

theorem Operations.Alike.congr {rest rest' : Operations} (h : rest.Alike rest') :
    rest.hasSum = rest'.hasSum ∧ rest.pieces.length = rest'.pieces.length
      ∧ rest.factors = rest'.factors ∧ (rest.SumsFit ↔ rest'.SumsFit)
      ∧ ∀ leading, rest.Arranged leading ↔ rest'.Arranged leading := by
  match rest, rest' with
  | .nil, .nil => exact ⟨rfl, rfl, rfl, Iff.rfl, fun _ => Iff.rfl⟩
  | .cons o x rest, .cons o' x' rest' =>
      obtain ⟨hlate, hlength, harranged⟩ := Operand.Alike.congr h.2.1
      obtain ⟨hsum, hlengths, hfactors, hsums, hall⟩ := Operations.Alike.congr h.2.2
      have ho := BinaryOperator.isProduct_congr h.1
      refine ⟨?_, ?_, ?_, ?_, fun leading => ?_⟩
      · rw [Operations.hasSum, Operations.hasSum, ho, hlate, hsum]
      · simp [Operations.pieces, hlength, hlengths]
      · rw [Operations.factors, Operations.factors, ho, hlate, hfactors]
      · rw [Operations.SumsFit, Operations.SumsFit, ho, hlate, hfactors, hsums]
      · rw [Operations.Arranged, Operations.Arranged, harranged, hall]

end

namespace Formula

lemma Alike.grouped {e e' : Formula} (h : e.Alike e') : e.grouped.Alike e'.grouped := h

lemma Alike.safe_congr {e e' : Formula} (h : e.Alike e') : e.Safe ↔ e'.Safe :=
  h.grouped.congr.2.2 _

lemma Alike.length_pieces {e e' : Formula} (h : e.Alike e') :
    e.pieces.length = e'.pieces.length := by
  rw [pieces, pieces, List.length_append, List.length_append, (Operand.Alike.congr h.1).2.1,
    (Operations.Alike.congr h.2).2.1]

end Formula

/-! ### Ones and zeros -/

namespace BinaryOperator

def times : BinaryOperator := ⟨.multiplication, by decide⟩

def dividedBy : BinaryOperator := ⟨.division, by decide⟩

def plus : BinaryOperator := ⟨.addition, by decide⟩

end BinaryOperator

open BinaryOperator (times dividedBy plus)

/-- A number that factors one and summands zero do not change. -/
structure Steady (x : Float) : Prop where
  times_one : times.result? x 1 = some x
  one_times : times.result? 1 x = some x
  plus_zero : plus.result? x 0 = some x
  zero_plus : plus.result? 0 x = some x

lemma steady_zero : Steady 0 := by constructor <;> decide +kernel

lemma steady_one : Steady 1 := by constructor <;> decide +kernel

mutual

/-- The layout of the operand with the number `a` in front, every other factor one and every other
summand zero. -/
def Operand.filled (a : Float) : Operand → Operand
  | .number _ => .number a
  | .group first rest => .group (first.filled a) rest.filled

/-- The layout of the operations with every factor one and every summand zero. -/
def Operations.filled : Operations → Operations
  | .nil => .nil
  | .cons o x rest =>
    if o.isProduct then .cons times (x.filled 1) rest.filled
    else .cons plus (x.filled 0) rest.filled

end

mutual

theorem Operand.alike_filled (a : Float) (x : Operand) : (x.filled a).Alike x := by
  match x with
  | .number x => trivial
  | .group first rest => exact ⟨first.alike_filled a, rest.alike_filled⟩

theorem Operations.alike_filled (rest : Operations) : rest.filled.Alike rest := by
  match rest with
  | .nil => trivial
  | .cons o x rest =>
      cases ho : o.isProduct with
      | true =>
          rw [Operations.filled, if_pos ho]
          exact ⟨(BinaryOperator.precedence_eq_second ho).symm, x.alike_filled 1, rest.alike_filled⟩
      | false =>
          rw [Operations.filled, if_neg (by simp [ho])]
          exact ⟨(BinaryOperator.precedence_eq_third ho).symm, x.alike_filled 0, rest.alike_filled⟩

end

/-- Condensed operations that factors one and summands zero leave. -/
def Operations.Idle : Operations → Prop
  | .nil => True
  | .cons o y rest =>
    ((o = times ∧ y.scan? = some 1) ∨ (o = plus ∧ y.scan? = some 0)) ∧ rest.Idle

/-- Idle operations change nothing. -/
lemma Operations.Idle.scanFrom?_eq {r : Operations} (hr : r.Idle)
    {waiting : Option (Float × BinaryOperator)} {x t : Float} (hx : Steady x) (ht : Steady t)
    (hsettle : settle? waiting x = some t) : r.scanFrom? waiting x = some t := by
  match r with
  | .nil => exact hsettle
  | .cons o y r =>
      obtain ⟨hy, hr⟩ := hr
      rcases hy with ⟨rfl, hy⟩ | ⟨rfl, hy⟩
      · cases y with
        | number b =>
            obtain rfl : b = 1 := Option.some.inj hy
            rw [scanFrom?_product_number rfl, hx.times_one, Option.bind_some, hsettle]
            exact hr.scanFrom?_eq ht ht rfl
        | group first inner =>
            rw [scanFrom?_product_group rfl rfl, hy, Option.bind_some, hsettle, Option.bind_some,
              ht.times_one]
            exact hr.scanFrom?_eq ht ht rfl
      · cases y with
        | number b =>
            obtain rfl : b = 0 := Option.some.inj hy
            rw [scanFrom?_sum_number rfl, hsettle, Option.bind_some, ht.plus_zero]
            exact hr.scanFrom?_eq ht ht rfl
        | group first inner =>
            rw [scanFrom?_sum_group rfl rfl, hy, Option.bind_some, hsettle, Option.bind_some]
            exact hr.scanFrom?_eq steady_zero ht ht.plus_zero

mutual

/-- A filled operand comes to the number in front. -/
theorem Operand.comesTo_filled (x : Operand) {a : Float} (ha : Steady a) :
    (x.filled a).ComesTo a := by
  match x with
  | .number x => exact ⟨.number a, rfl, rfl⟩
  | .group first rest =>
      obtain ⟨c, hc, hca⟩ := first.comesTo_filled ha
      obtain ⟨r, hr, hidle⟩ := rest.condenseFrom?_filled hca ha
      refine (Operand.comesTo_grouped (e := ⟨first.filled a, rest.filled⟩)).mpr ?_
      rw [Formula.outcome?, Formula.condense?, hc, Option.bind_some, hr, Option.bind_some,
        Formula.scan?, hca]
      exact hidle.scanFrom?_eq ha ha rfl

/-- Condensing filled operations leaves what is in front of them as it is. -/
theorem Operations.condenseFrom?_filled (rest : Operations) {c : Operand} {a : Float}
    (hc : c.scan? = some a) (ha : Steady a) :
    ∃ r, rest.filled.condenseFrom? c = some ⟨c, r⟩ ∧ r.Idle := by
  match rest with
  | .nil => exact ⟨.nil, rfl, trivial⟩
  | .cons o x rest =>
      cases ho : o.isProduct with
      | true =>
          rw [Operations.filled, if_pos ho]
          obtain ⟨y, hy, hy1⟩ := x.comesTo_filled steady_one
          cases hjoins : times.joins c y with
          | true =>
              obtain ⟨b, b', rfl, rfl, -⟩ := BinaryOperator.between?_isSome_of_joins hjoins
              obtain rfl : b = a := Option.some.inj hc
              obtain rfl : b' = 1 := Option.some.inj hy1
              rw [Operations.condenseFrom?_of_joins hy rfl, ha.times_one]
              exact rest.condenseFrom?_filled hc ha
          | false =>
              obtain ⟨r, hr, hidle⟩ := rest.condenseFrom?_filled hy1 steady_one
              rw [Operations.condenseFrom?_of_not_joins hy hjoins, hr]
              exact ⟨_, rfl, .inl ⟨rfl, hy1⟩, hidle⟩
      | false =>
          rw [Operations.filled, if_neg (by simp [ho])]
          obtain ⟨y, hy, hy0⟩ := x.comesTo_filled steady_zero
          obtain ⟨r, hr, hidle⟩ := rest.condenseFrom?_filled hy0 steady_zero
          rw [Operations.condenseFrom?_of_not_joins hy (BinaryOperator.joins_eq_false (.inl rfl)),
            hr]
          exact ⟨_, rfl, .inr ⟨rfl, hy0⟩, hidle⟩

end

mutual

/-- The value of a filled operand is the number in front. -/
theorem Operand.value?_filled (x : Operand) {a : Float} (ha : Steady a) :
    (x.filled a).value? = some a := by
  match x with
  | .number x => rfl
  | .group first rest =>
      have hvalue := Formula.value?_eq ⟨first.filled a, rest.filled⟩
      rw [first.value?_filled ha, Option.bind_some, rest.valueAfter?_filled ha ha rfl] at hvalue
      exact hvalue

/-- Filled operations keep a value. -/
theorem Operations.valueAfter?_filled (rest : Operations)
    {waiting : Option (Float × BinaryOperator)} {x t : Float} (hx : Steady x) (ht : Steady t)
    (hsettle : settle? waiting x = some t) : rest.filled.valueAfter? waiting x = some t := by
  match rest with
  | .nil => exact hsettle
  | .cons o y rest =>
      cases ho : o.isProduct with
      | true =>
          rw [Operations.filled, if_pos ho,
            Operations.valueAfter?_product rfl (y.value?_filled steady_one), hx.times_one]
          exact rest.valueAfter?_filled hx ht hsettle
      | false =>
          rw [Operations.filled, if_neg (by simp [ho]),
            Operations.valueAfter?_sum rfl (y.value?_filled steady_zero), hsettle]
          exact rest.valueAfter?_filled steady_zero ht ht.plus_zero

end

end ChatCommand
