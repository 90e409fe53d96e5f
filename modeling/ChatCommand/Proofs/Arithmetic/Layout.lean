/-
Where groups may stand in a formula.

* `Operand.isLate`: a group with a sum in it, which is a number only when the products around it
  have been computed;
* `Lateness.Apart`, `Lateness.Even`, `Lateness.FitsSum`: what products of late and other factors
  may look like;
* `Formula.Faithful`: layouts for which rewriting gives the value by precedence;
* `Formula.outcome?_of_faithful`: **which it does**.
-/
import Mathlib.Data.List.Chain
import Mathlib.Tactic.Common
import ChatCommand.Proofs.Arithmetic.Outcome

namespace ChatCommand

/-! ### Late operands -/

mutual

/-- Whether there is a sum in the operand. Products of numbers around such a group are computed
before the group is a number. -/
def Operand.isLate : Operand → Bool
  | .number _ => false
  | .group first rest => first.isLate || rest.hasSum

/-- Whether there is a sum among the operations or in an operand of theirs. -/
def Operations.hasSum : Operations → Bool
  | .nil => false
  | .cons o x rest => !o.isProduct || x.isLate || rest.hasSum

end

lemma Formula.isNumber_closed (e : Formula) : e.closed.isNumber = e.number?.isSome := by
  rw [closed]
  cases e.number? <;> rfl

lemma Formula.number?_isSome_cons {x y : Operand} {o : BinaryOperator} {rest : Operations} :
    (Formula.mk x (.cons o y rest)).number?.isSome = false := by
  cases x <;> rfl

mutual

/-- A condensed operand is a number unless the operand is late. -/
theorem Operand.isNumber_of_condense? {x c : Operand} (h : x.condense? = some c) :
    c.isNumber = !x.isLate := by
  match x with
  | .number x =>
      obtain rfl := Option.some.inj h
      rfl
  | .group first rest =>
      simp only [Operand.condense?, Option.bind_eq_bind, Option.bind_eq_some_iff,
        Option.some.injEq] at h
      obtain ⟨c', hfirst, e, hrest, rfl⟩ := h
      rw [Formula.isNumber_closed, Operations.number?_isSome_of_condenseFrom? hrest,
        Operand.isNumber_of_condense? hfirst, Operand.isLate, Bool.not_or]

/-- Condensing leaves a number of operations without sums behind a number. -/
theorem Operations.number?_isSome_of_condenseFrom? {rest : Operations} {x : Operand} {e : Formula}
    (h : rest.condenseFrom? x = some e) : e.number?.isSome = (x.isNumber && !rest.hasSum) := by
  match rest with
  | .nil =>
      obtain rfl := Option.some.inj h
      cases x <;> rfl
  | .cons o y rest =>
      simp only [Operations.condenseFrom?, Option.bind_eq_bind, Option.bind_eq_some_iff] at h
      obtain ⟨y', hy, h⟩ := h
      have hnumber := Operand.isNumber_of_condense? hy
      cases hjoins : o.joins x y' with
      | true =>
          rw [hjoins, if_pos rfl] at h
          obtain ⟨z, -, h⟩ := Option.bind_eq_some_iff.mp h
          simp only [BinaryOperator.joins, Bool.and_eq_true] at hjoins
          obtain ⟨⟨ho, hx⟩, hy'⟩ := hjoins
          have hlate : y.isLate = false := by simpa [hy'] using hnumber
          rw [Operations.number?_isSome_of_condenseFrom? h, Operations.hasSum, ho, hlate, hx]
          rfl
      | false =>
          rw [hjoins, if_neg (by simp)] at h
          obtain ⟨e', -, h⟩ := Option.bind_eq_some_iff.mp h
          obtain rfl := Option.some.inj h
          rw [Formula.number?_isSome_cons, Operations.hasSum]
          rw [BinaryOperator.joins, hnumber] at hjoins
          cases hx : x.isNumber <;> simp_all

end

/-- The operand is a number when all products between bare numbers, and then all operations from the
left to the right, have been computed in it. -/
def Operand.ComesTo (x : Operand) (v : Float) : Prop :=
  ∃ c, x.condense? = some c ∧ c.scan? = some v

lemma Operand.comesTo_grouped {e : Formula} {v : Float} :
    e.grouped.ComesTo v ↔ e.outcome? = some v := by
  have hgrouped : e.grouped.condense? = e.condense?.map Formula.closed := by
    rw [Formula.grouped, condense?, Formula.condense?]
    cases e.first.condense? with
    | none => rfl
    | some c => cases h : e.rest.condenseFrom? c <;> simp [h]
  simp [ComesTo, hgrouped, Formula.outcome?, Option.bind_eq_some_iff]

/-- What is not late condenses to the number that it comes to. -/
lemma Operand.ComesTo.condense?_eq {x : Operand} {v : Float} (h : x.ComesTo v)
    (hx : x.isLate = false) : x.condense? = some (.number v) := by
  obtain ⟨c, hc, hv⟩ := h
  have hnumber := isNumber_of_condense? hc
  rw [hx] at hnumber
  cases c with
  | number w =>
      obtain rfl := Option.some.inj hv
      exact hc
  | group => contradiction

/-! ### Products of late and other factors -/

namespace Lateness

/-- Behind the first late factor, of two neighbours one is late. -/
def Apart : List Bool → Prop
  | [] => True
  | false :: factors => Apart factors
  | true :: factors => factors.IsChain fun a b => a = true ∨ b = true

/-- Behind the first late factor there is at most one more, or all are late. -/
def Even : List Bool → Prop
  | [] => True
  | false :: factors => Even factors
  | true :: factors => factors.length ≤ 1 ∨ ∀ late ∈ factors, late = true

/-- At most the first factor is late, and if it is, at most one follows. -/
def FitsSum : List Bool → Prop
  | [] => True
  | first :: others => (∀ late ∈ others, late = false) ∧ (first = true → others.length ≤ 1)

end Lateness

/-- Which factors that continue a product are late. -/
def Operations.factors : Operations → List Bool
  | .nil => []
  | .cons o x rest => if o.isProduct then x.isLate :: rest.factors else []

/-- Every product behind a sum sign fits there. -/
def Operations.SumsFit : Operations → Prop
  | .nil => True
  | .cons o x rest =>
    (o.isProduct = false → Lateness.FitsSum (x.isLate :: rest.factors)) ∧ rest.SumsFit

mutual

/-- In every formula between brackets the products behind sum signs fit there, and the product in
front of them is as given. -/
def Operand.Arranged (leading : List Bool → Prop) : Operand → Prop
  | .number _ => True
  | .group first rest =>
    first.Arranged leading ∧ rest.Arranged leading ∧ leading (first.isLate :: rest.factors)
      ∧ rest.SumsFit

/-- All operands are arranged so. -/
def Operations.Arranged (leading : List Bool → Prop) : Operations → Prop
  | .nil => True
  | .cons _ x rest => x.Arranged leading ∧ rest.Arranged leading

end

namespace Formula

def Arranged (leading : List Bool → Prop) (e : Formula) : Prop := e.grouped.Arranged leading

/-- The layout is one for which rewriting gives the value by precedence. -/
def Faithful (e : Formula) : Prop := e.Arranged Lateness.Apart

end Formula

/-! ### Outcomes of such products -/

/-- Where no product goes on, a sum need not wait. -/
lemma Operations.valueAfter?_of_factors {rest : Operations} (h : rest.factors = [])
    (waiting : Option (Float × BinaryOperator)) (x : Float) :
    rest.valueAfter? waiting x = (settle? waiting x).bind (rest.valueAfter? none) := by
  cases rest with
  | nil =>
      simp only [valueAfter?]
      cases settle? waiting x <;> rfl
  | cons o y rest =>
      have ho : o.isProduct = false := by
        by_contra ho
        simp [factors, ho] at h
      simp only [valueAfter?, ho]
      cases settle? waiting x <;> cases y.value? <;> simp [settle?]

/-- What rewriting makes of operations is what their values by precedence make of them. -/
structure Operations.Follows (rest : Operations) : Prop where
  /-- Behind the numbers at the beginning of the first product. -/
  leading : ∀ {a v : Float}, Lateness.Apart rest.factors → rest.valueAfter? none a = some v →
    ∃ e, rest.condenseFrom? (.number a) = some e ∧ e.scan? = some v
  /-- Behind an operand that no number can be multiplied with. -/
  apart : ∀ {c : Operand} {x v : Float},
    ((!c.isNumber) :: rest.factors).IsChain (fun a b => a = true ∨ b = true) →
    rest.valueAfter? none x = some v →
    ∃ r, rest.condenseFrom? c = some ⟨c, r⟩ ∧ r.scanFrom? none x = some v
  /-- Behind the numbers at the beginning of a product behind a sum sign. -/
  numbers : ∀ {o : BinaryOperator} {sum a v : Float}, o.isProduct = false →
    (∀ late ∈ rest.factors, late = false) → rest.valueAfter? (some (sum, o)) a = some v →
    ∃ e, rest.condenseFrom? (.number a) = some e
      ∧ (cons o e.first e.rest).scanFrom? none sum = some v
  /-- Behind a late operand behind a sum sign. -/
  group : ∀ {c : Operand} {o : BinaryOperator} {sum x v : Float}, c.isNumber = false →
    (∀ late ∈ rest.factors, late = false) → rest.factors.length ≤ 1 →
    rest.valueAfter? (some (sum, o)) x = some v →
    ∃ r, rest.condenseFrom? c = some ⟨c, r⟩ ∧ r.scanFrom? (some (sum, o)) x = some v

namespace Operations

lemma follows_nil : Follows nil where
  leading _ hv := ⟨_, rfl, hv⟩
  apart _ hv := ⟨_, rfl, hv⟩
  numbers ho _ hv := ⟨_, rfl, by
    rw [scanFrom?_sum_number ho]
    simpa [settle?, scanFrom?, valueAfter?] using hv⟩
  group _ _ _ hv := ⟨_, rfl, hv⟩

variable {o : BinaryOperator} {y : Operand} {rest : Operations} {b : Float}

/-- A product behind a sum sign, of which the sum is `sum`. -/
lemma Follows.product (h : rest.Follows) (ho : o.isProduct = false) (hy : y.ComesTo b)
    (hfits : Lateness.FitsSum (y.isLate :: rest.factors)) {sum v : Float}
    (hv : rest.valueAfter? (some (sum, o)) b = some v) :
    ∃ c e, y.condense? = some c ∧ rest.condenseFrom? c = some e
      ∧ (cons o e.first e.rest).scanFrom? none sum = some v := by
  cases hlate : y.isLate with
  | false =>
      obtain ⟨e, he, hscan⟩ := h.numbers ho hfits.1 hv
      exact ⟨_, e, hy.condense?_eq hlate, he, hscan⟩
  | true =>
      obtain ⟨c, hc, hcb⟩ := hy
      have hgroup : c.isNumber = false := by rw [Operand.isNumber_of_condense? hc, hlate]; rfl
      obtain ⟨r, hr, hscan⟩ := h.group hgroup hfits.1 (hfits.2 hlate) hv
      refine ⟨c, ⟨c, r⟩, hc, hr, ?_⟩
      rw [scanFrom?_sum_group hgroup ho, hcb]
      exact hscan

/-- What an operation does to a value by precedence. -/
lemma valueAfter?_cons_eq_some {waiting : Option (Float × BinaryOperator)} {x v : Float}
    (hv : (cons o y rest).valueAfter? waiting x = some v) :
    ∃ b, y.value? = some b ∧
      ((o.isProduct = true ∧ ∃ z, o.result? x b = some z ∧ rest.valueAfter? waiting z = some v)
        ∨ (o.isProduct = false
          ∧ ∃ sum, settle? waiting x = some sum ∧ rest.valueAfter? (some (sum, o)) b = some v)) := by
  simp only [valueAfter?, Option.bind_eq_bind] at hv
  obtain ⟨b, hb, hv⟩ := Option.bind_eq_some_iff.mp hv
  refine ⟨b, hb, ?_⟩
  cases ho : o.isProduct with
  | true =>
      rw [ho, if_pos rfl] at hv
      obtain ⟨z, hz, hv⟩ := Option.bind_eq_some_iff.mp hv
      exact .inl ⟨rfl, z, hz, hv⟩
  | false =>
      rw [ho, if_neg (by simp)] at hv
      obtain ⟨sum, hsum, hv⟩ := Option.bind_eq_some_iff.mp hv
      exact .inr ⟨rfl, sum, hsum, hv⟩

lemma factors_cons_of_product (ho : o.isProduct = true) :
    (cons o y rest).factors = y.isLate :: rest.factors := by
  rw [factors, if_pos ho]

section Cons

variable (h : rest.Follows) (hy : ∀ b, y.value? = some b → y.ComesTo b)
  (hfits : o.isProduct = false → Lateness.FitsSum (y.isLate :: rest.factors))

include h hy hfits

lemma Follows.leading_cons {a v : Float} (hfactors : Lateness.Apart (cons o y rest).factors)
    (hv : (cons o y rest).valueAfter? none a = some v) :
    ∃ e, (cons o y rest).condenseFrom? (.number a) = some e ∧ e.scan? = some v := by
  obtain ⟨b, hb, ⟨ho, z, hz, hv⟩ | ⟨ho, sum, hsum, hv⟩⟩ := valueAfter?_cons_eq_some hv
  · rw [factors_cons_of_product ho] at hfactors
    cases hlate : y.isLate with
    | false =>
        rw [hlate] at hfactors
        obtain ⟨e, he, hscan⟩ := h.leading hfactors hv
        refine ⟨e, ?_, hscan⟩
        rw [condenseFrom?_of_joins ((hy b hb).condense?_eq hlate) ho, hz]
        exact he
    | true =>
        obtain ⟨c, hc, hcb⟩ := hy b hb
        have hgroup : c.isNumber = false := by rw [Operand.isNumber_of_condense? hc, hlate]; rfl
        have hapart : ((!c.isNumber) :: rest.factors).IsChain (fun a b => a = true ∨ b = true) := by
          rw [hlate] at hfactors
          exact List.isChain_cons.mpr ⟨by simp [hgroup], hfactors⟩
        obtain ⟨r, hr, hscan⟩ := h.apart hapart hv
        refine ⟨⟨.number a, .cons o c r⟩, ?_, ?_⟩
        · rw [condenseFrom?_of_not_joins hc (BinaryOperator.joins_eq_false (.inr (.inr hgroup))), hr]
          rfl
        · rw [Formula.scan?, Operand.scan?, Option.bind_some, scanFrom?_product_group hgroup ho, hcb,
            Option.bind_some, settle?, Option.bind_some, hz]
          exact hscan
  · obtain rfl := Option.some.inj hsum
    obtain ⟨c, e, hc, he, hscan⟩ := h.product ho (hy b hb) (hfits ho) hv
    refine ⟨⟨.number a, .cons o e.first e.rest⟩, ?_, hscan⟩
    rw [condenseFrom?_of_not_joins hc (BinaryOperator.joins_eq_false (.inl ho)), he]
    rfl

lemma Follows.apart_cons {c : Operand} {x v : Float}
    (hfactors : ((!c.isNumber) :: (cons o y rest).factors).IsChain fun a b => a = true ∨ b = true)
    (hv : (cons o y rest).valueAfter? none x = some v) :
    ∃ r, (cons o y rest).condenseFrom? c = some ⟨c, r⟩ ∧ r.scanFrom? none x = some v := by
  obtain ⟨b, hb, ⟨ho, z, hz, hv⟩ | ⟨ho, sum, hsum, hv⟩⟩ := valueAfter?_cons_eq_some hv
  · rw [factors_cons_of_product ho] at hfactors
    obtain ⟨hboth, hrest⟩ := List.isChain_cons_cons.mp hfactors
    obtain ⟨d, hd, hdb⟩ := hy b hb
    have hnumber := Operand.isNumber_of_condense? hd
    have hjoins : o.joins c d = false := by
      refine BinaryOperator.joins_eq_false (.inr ?_)
      rw [hnumber]
      simpa using hboth
    have hapart : ((!d.isNumber) :: rest.factors).IsChain (fun a b => a = true ∨ b = true) := by
      rw [hnumber, Bool.not_not]
      exact hrest
    obtain ⟨r, hr, hscan⟩ := h.apart hapart hv
    refine ⟨.cons o d r, by rw [condenseFrom?_of_not_joins hd hjoins, hr]; rfl, ?_⟩
    cases d with
    | number w =>
        obtain rfl := Option.some.inj hdb
        rw [scanFrom?_product_number ho, hz]
        exact hscan
    | group first inner =>
        rw [scanFrom?_product_group rfl ho, hdb, Option.bind_some, settle?, Option.bind_some, hz]
        exact hscan
  · obtain rfl := Option.some.inj hsum
    obtain ⟨d, e, hd, he, hscan⟩ := h.product ho (hy b hb) (hfits ho) hv
    refine ⟨.cons o e.first e.rest, ?_, hscan⟩
    rw [condenseFrom?_of_not_joins hd (BinaryOperator.joins_eq_false (.inl ho)), he]
    rfl

lemma Follows.numbers_cons {p : BinaryOperator} {sum a v : Float} (hp : p.isProduct = false)
    (hfactors : ∀ late ∈ (cons o y rest).factors, late = false)
    (hv : (cons o y rest).valueAfter? (some (sum, p)) a = some v) :
    ∃ e, (cons o y rest).condenseFrom? (.number a) = some e
      ∧ (cons p e.first e.rest).scanFrom? none sum = some v := by
  obtain ⟨b, hb, ⟨ho, z, hz, hv⟩ | ⟨ho, total, htotal, hv⟩⟩ := valueAfter?_cons_eq_some hv
  · rw [factors_cons_of_product ho] at hfactors
    obtain ⟨hlate, hrest⟩ := List.forall_mem_cons.mp hfactors
    obtain ⟨e, he, hscan⟩ := h.numbers hp hrest hv
    refine ⟨e, ?_, hscan⟩
    rw [condenseFrom?_of_joins ((hy b hb).condense?_eq hlate) ho, hz]
    exact he
  · obtain ⟨d, e, hd, he, hscan⟩ := h.product ho (hy b hb) (hfits ho) hv
    refine ⟨⟨.number a, .cons o e.first e.rest⟩, ?_, ?_⟩
    · rw [condenseFrom?_of_not_joins hd (BinaryOperator.joins_eq_false (.inl ho)), he]
      rfl
    · have htotal : p.result? sum a = some total := htotal
      rw [scanFrom?_sum_number hp, settle?, Option.bind_some, htotal]
      exact hscan

lemma Follows.group_cons {c : Operand} {p : BinaryOperator} {sum x v : Float}
    (hc : c.isNumber = false) (hfactors : ∀ late ∈ (cons o y rest).factors, late = false)
    (hlength : (cons o y rest).factors.length ≤ 1)
    (hv : (cons o y rest).valueAfter? (some (sum, p)) x = some v) :
    ∃ r, (cons o y rest).condenseFrom? c = some ⟨c, r⟩
      ∧ r.scanFrom? (some (sum, p)) x = some v := by
  obtain ⟨b, hb, ⟨ho, z, hz, hv⟩ | ⟨ho, total, htotal, hv⟩⟩ := valueAfter?_cons_eq_some hv
  · rw [factors_cons_of_product ho] at hfactors hlength
    have hlate : y.isLate = false := hfactors _ (by simp)
    have hnone : rest.factors = [] := by
      rw [← List.length_eq_zero_iff]
      simp only [List.length_cons] at hlength
      omega
    rw [valueAfter?_of_factors hnone] at hv
    obtain ⟨total, htotal, hv⟩ := Option.bind_eq_some_iff.mp hv
    obtain ⟨r, hr, hscan⟩ := h.apart (c := .number b) (by simp [hnone]) hv
    refine ⟨.cons o (.number b) r, ?_, ?_⟩
    · rw [condenseFrom?_of_not_joins ((hy b hb).condense?_eq hlate)
        (BinaryOperator.joins_eq_false (.inr (.inl hc))), hr]
      rfl
    · rw [scanFrom?_product_number ho, hz, Option.bind_some, htotal]
      exact hscan
  · obtain ⟨d, e, hd, he, hscan⟩ := h.product ho (hy b hb) (hfits ho) hv
    refine ⟨.cons o e.first e.rest, ?_, ?_⟩
    · rw [condenseFrom?_of_not_joins hd (BinaryOperator.joins_eq_false (.inl ho)), he]
      rfl
    · rw [scanFrom?_of_settle? (.inl ho), htotal]
      exact hscan

lemma follows_cons : (cons o y rest).Follows where
  leading := h.leading_cons hy hfits
  apart := h.apart_cons hy hfits
  numbers := h.numbers_cons hy hfits
  group := h.group_cons hy hfits

end Cons

end Operations

/-! ### Faithful layouts -/

mutual

theorem Operand.comesTo_of_arranged {x : Operand} (hx : x.Arranged Lateness.Apart) {v : Float}
    (hv : x.value? = some v) : x.ComesTo v := by
  match x with
  | .number x => exact ⟨.number x, rfl, hv⟩
  | .group first rest =>
      obtain ⟨hfirst, hrest, hleading, hsums⟩ := hx
      have hfollows := Operations.follows_of_arranged hrest hsums
      have hvalue : (Formula.mk first rest).value? = some v := hv
      rw [Formula.value?_eq] at hvalue
      obtain ⟨a, ha, hvalue⟩ := Option.bind_eq_some_iff.mp hvalue
      have hcomes := Operand.comesTo_of_arranged hfirst ha
      refine (Operand.comesTo_grouped (e := ⟨first, rest⟩)).mpr ?_
      rw [Formula.outcome?, Formula.condense?]
      cases hlate : first.isLate with
      | false =>
          rw [hlate] at hleading
          obtain ⟨e, he, hscan⟩ := hfollows.leading hleading hvalue
          rw [hcomes.condense?_eq hlate, Option.bind_some, he]
          exact hscan
      | true =>
          rw [hlate] at hleading
          obtain ⟨c, hc, hca⟩ := hcomes
          have hgroup : c.isNumber = false := by rw [Operand.isNumber_of_condense? hc, hlate]; rfl
          obtain ⟨r, hr, hscan⟩ := hfollows.apart (c := c)
            (List.isChain_cons.mpr ⟨by simp [hgroup], hleading⟩) hvalue
          rw [hc, Option.bind_some, hr, Option.bind_some, Formula.scan?, hca]
          exact hscan

theorem Operations.follows_of_arranged {rest : Operations} (hrest : rest.Arranged Lateness.Apart)
    (hsums : rest.SumsFit) : rest.Follows := by
  match rest with
  | .nil => exact Operations.follows_nil
  | .cons o x rest =>
      obtain ⟨hx, hrest⟩ := hrest
      obtain ⟨hfits, hsums⟩ := hsums
      have hfollows := Operations.follows_of_arranged hrest hsums
      exact Operations.follows_cons hfollows (fun b hb => Operand.comesTo_of_arranged hx hb) hfits

end

/-- **In a faithful layout rewriting gives the value by precedence.** -/
theorem Formula.outcome?_of_faithful {e : Formula} (he : e.Faithful) {v : Float}
    (hv : e.value? = some v) : e.outcome? = some v :=
  Operand.comesTo_grouped.mp (Operand.comesTo_of_arranged he hv)

end ChatCommand
