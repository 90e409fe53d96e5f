/-
Numbers in the place of groups.

* `Formula.Replaces`: one group of a formula is replaced by a number;
* `Formula.Replaces.value?_eq`: the value of the group in its place leaves the value by precedence
  as it is;
* `Formula.Safe`: layouts that stay faithful whichever group is replaced;
* `Formula.Replaces.faithful`: **which they do**.
-/
import Mathlib.Tactic.Common
import ChatCommand.Proofs.Arithmetic.Layout

namespace ChatCommand

/-! ### Replacements -/

mutual

/-- One group `g` of the operand is replaced by the number `v`. -/
inductive Operand.Replaces (g : Formula) (v : Float) : Operand → Operand → Prop where
  | here : Operand.Replaces g v g.grouped (.number v)
  | first {first first' : Operand} {rest : Operations} :
    Operand.Replaces g v first first' → Operand.Replaces g v (.group first rest) (.group first' rest)
  | rest {first : Operand} {rest rest' : Operations} :
    Operations.Replaces g v rest rest' → Operand.Replaces g v (.group first rest) (.group first rest')

/-- One group `g` of an operand is replaced by the number `v`. -/
inductive Operations.Replaces (g : Formula) (v : Float) : Operations → Operations → Prop where
  | operand {o : BinaryOperator} {x x' : Operand} {rest : Operations} :
    Operand.Replaces g v x x' → Operations.Replaces g v (.cons o x rest) (.cons o x' rest)
  | rest {o : BinaryOperator} {x : Operand} {rest rest' : Operations} :
    Operations.Replaces g v rest rest' → Operations.Replaces g v (.cons o x rest) (.cons o x rest')

end

/-- One group `g` of the formula is replaced by the number `v`. -/
inductive Formula.Replaces (g : Formula) (v : Float) : Formula → Formula → Prop where
  | first {first first' : Operand} {rest : Operations} :
    first.Replaces g v first' → Formula.Replaces g v ⟨first, rest⟩ ⟨first', rest⟩
  | rest {first : Operand} {rest rest' : Operations} :
    rest.Replaces g v rest' → Formula.Replaces g v ⟨first, rest⟩ ⟨first, rest'⟩

variable {g : Formula} {v : Float}

lemma Formula.Replaces.grouped {e e' : Formula} (h : Formula.Replaces g v e e') :
    e.grouped.Replaces g v e'.grouped := by
  cases h with
  | first h => exact .first h
  | rest h => exact .rest h

/-! ### Values -/

mutual

/-- The value of a group in its place leaves the value of an operand as it is. -/
theorem Operand.Replaces.value?_eq (hg : g.value? = some v) {x x' : Operand}
    (h : x.Replaces g v x') : x'.value? = x.value? := by
  match x with
  | .number x => cases h
  | .group first rest =>
      cases h with
      | here => exact hg.symm
      | first h => simp only [Operand.value?, h.value?_eq hg]
      | rest h => simp only [Operand.value?, h.products?_eq hg]

theorem Operations.Replaces.products?_eq (hg : g.value? = some v) {rest rest' : Operations}
    (h : rest.Replaces g v rest') (x : Float) : rest'.products? x = rest.products? x := by
  match rest with
  | .nil => cases h
  | .cons o y rest =>
      cases h with
      | operand h => simp only [Operations.products?, h.value?_eq hg]
      | rest h => simp only [Operations.products?, h.products?_eq hg]

end

mutual

/-- An operand with a value has groups with values. -/
theorem Operand.Replaces.exists_value? {x x' : Operand} (h : x.Replaces g v x')
    (hx : x.value?.isSome) : ∃ w, g.value? = some w := by
  match x with
  | .number x => cases h
  | .group first rest =>
      cases h with
      | here => exact Option.isSome_iff_exists.mp hx
      | first h =>
          obtain ⟨w, hw⟩ := Option.isSome_iff_exists.mp hx
          simp only [Operand.value?, Option.bind_eq_bind, Option.bind_eq_some_iff] at hw
          obtain ⟨a, ha, -⟩ := hw
          exact h.exists_value? (by rw [ha]; rfl)
      | rest h =>
          obtain ⟨w, hw⟩ := Option.isSome_iff_exists.mp hx
          simp only [Operand.value?, Option.bind_eq_bind, Option.bind_eq_some_iff] at hw
          obtain ⟨a, -, found, hfound, -⟩ := hw
          exact h.exists_value? hfound

theorem Operations.Replaces.exists_value? {rest rest' : Operations} (h : rest.Replaces g v rest')
    {x : Float} {found : Float × List (BinaryOperator × Float)}
    (hfound : rest.products? x = some found) : ∃ w, g.value? = some w := by
  match rest with
  | .nil => cases h
  | .cons o y rest =>
      simp only [Operations.products?, Option.bind_eq_bind] at hfound
      obtain ⟨b, hb, hfound⟩ := Option.bind_eq_some_iff.mp hfound
      cases h with
      | operand h => exact h.exists_value? (by rw [hb]; rfl)
      | rest h =>
          split at hfound
          · obtain ⟨z, -, hfound⟩ := Option.bind_eq_some_iff.mp hfound
            exact h.exists_value? hfound
          · obtain ⟨others, hothers, -⟩ := Option.bind_eq_some_iff.mp hfound
            exact h.exists_value? hothers

end

/-! ### Numbers of words -/

mutual

/-- Replacing a group takes words away. -/
theorem Operand.Replaces.length_le {x x' : Operand} (h : x.Replaces g v x') :
    g.grouped.pieces.length ≤ x.pieces.length ∧ x'.pieces.length ≤ x.pieces.length := by
  match x with
  | .number x => cases h
  | .group first rest =>
      cases h with
      | here => simp [Formula.grouped, Operand.pieces]
      | first h =>
          have := h.length_le
          simp only [Operand.pieces, List.length_cons, List.length_append]
          omega
      | rest h =>
          have := h.length_le
          simp only [Operand.pieces, List.length_cons, List.length_append]
          omega

theorem Operations.Replaces.length_le {rest rest' : Operations} (h : rest.Replaces g v rest') :
    g.grouped.pieces.length ≤ rest.pieces.length
      ∧ rest'.pieces.length ≤ rest.pieces.length := by
  match rest with
  | .nil => cases h
  | .cons o y rest =>
      cases h with
      | operand h =>
          have := h.length_le
          simp only [Operations.pieces, List.length_cons, List.length_append]
          omega
      | rest h =>
          have := h.length_le
          simp only [Operations.pieces, List.length_cons, List.length_append]
          omega

end

/-! ### Lateness -/

mutual

/-- Replacing a group makes nothing late. -/
theorem Operand.Replaces.isLate_imp {x x' : Operand} (h : x.Replaces g v x')
    (hx : x'.isLate = true) : x.isLate = true := by
  match x with
  | .number x => cases h
  | .group first rest =>
      cases h with
      | here => contradiction
      | first h =>
          simp only [Operand.isLate, Bool.or_eq_true] at hx ⊢
          exact hx.imp_left h.isLate_imp
      | rest h =>
          simp only [Operand.isLate, Bool.or_eq_true] at hx ⊢
          exact hx.imp_right h.hasSum_imp

theorem Operations.Replaces.hasSum_imp {rest rest' : Operations} (h : rest.Replaces g v rest')
    (hrest : rest'.hasSum = true) : rest.hasSum = true := by
  match rest with
  | .nil => cases h
  | .cons o y rest =>
      cases h with
      | operand h =>
          simp only [Operations.hasSum, Bool.or_eq_true] at hrest ⊢
          exact hrest.imp_left (Or.imp_right h.isLate_imp)
      | rest h =>
          simp only [Operations.hasSum, Bool.or_eq_true] at hrest ⊢
          exact hrest.imp_right h.hasSum_imp

end

/-- Replacing a group leaves an operand late or not, or a late operand is late no more. -/
lemma Operand.Replaces.isLate_eq {x x' : Operand} (h : x.Replaces g v x') :
    x'.isLate = x.isLate ∨ x'.isLate = false := by
  cases hx : x'.isLate with
  | false => exact .inr rfl
  | true => exact .inl (h.isLate_imp hx).symm

/-- Replacing a group changes nothing in the factors that continue a product, or one of them is not
late any more. -/
lemma Operations.Replaces.factors_eq {rest rest' : Operations} (h : rest.Replaces g v rest') :
    rest'.factors = rest.factors ∨ ∃ i, rest'.factors = rest.factors.set i false := by
  match rest with
  | .nil => cases h
  | .cons o y rest =>
      cases ho : o.isProduct with
      | false => cases h <;> simp [factors, ho]
      | true =>
          cases h with
          | operand h =>
              rw [factors_cons_of_product ho, factors_cons_of_product ho]
              rcases h.isLate_eq with hlate | hlate
              · exact .inl (by rw [hlate])
              · exact .inr ⟨0, by rw [hlate]; rfl⟩
          | rest h =>
              rw [factors_cons_of_product ho, factors_cons_of_product ho]
              rcases h.factors_eq with hfactors | ⟨i, hfactors⟩
              · exact .inl (by rw [hfactors])
              · exact .inr ⟨i + 1, by rw [hfactors]; rfl⟩

namespace Lateness

variable {factors : List Bool}

lemma FitsSum.set (h : FitsSum factors) (i : Nat) : FitsSum (factors.set i false) := by
  match factors, i with
  | [], _ => exact h
  | first :: others, 0 => exact ⟨h.1, by simp⟩
  | first :: others, i + 1 =>
      refine ⟨fun late hlate => ?_, fun hfirst => ?_⟩
      · rcases List.mem_or_eq_of_mem_set hlate with hlate | rfl
        · exact h.1 late hlate
        · rfl
      · rw [List.length_set]
        exact h.2 hfirst

/-- Where at most one factor is not late, of two neighbours one is late. -/
lemma isChain_set_of_late (h : ∀ late ∈ factors, late = true) (i : Nat) :
    (factors.set i false).IsChain fun a b => a = true ∨ b = true := by
  induction factors generalizing i with
  | nil => exact .nil
  | cons first others ih =>
      obtain ⟨rfl, hothers⟩ := List.forall_mem_cons.mp h
      cases i with
      | zero =>
          have hchain := ih hothers others.length
          rw [List.set_eq_of_length_le (Nat.le_refl _)] at hchain
          exact List.isChain_cons.mpr
            ⟨fun b hb => .inr (hothers b (List.mem_of_mem_head? hb)), hchain⟩
      | succ i => exact List.isChain_cons.mpr ⟨by simp, ih hothers i⟩

lemma apart_of_isChain (h : factors.IsChain fun a b => a = true ∨ b = true) : Apart factors := by
  induction factors with
  | nil => trivial
  | cons first others ih =>
      cases first with
      | false => exact ih h.tail
      | true => exact h.tail

/-- Even products may lose one late factor. -/
lemma Even.apart_set (h : Even factors) (i : Nat) : Apart (factors.set i false) := by
  induction factors generalizing i with
  | nil => trivial
  | cons first others ih =>
      have hshort (hlength : others.length ≤ 1) (i : Nat) :
          (others.set i false).IsChain fun a b => a = true ∨ b = true := by
        match others, i with
        | [], _ => exact .nil
        | [_], 0 => exact .singleton _
        | [_], _ + 1 => exact .singleton _
      cases first with
      | false =>
          cases i with
          | zero =>
              have hothers := ih h others.length
              rwa [List.set_eq_of_length_le (Nat.le_refl _)] at hothers
          | succ i => exact ih h i
      | true =>
          have hchain (i : Nat) : (others.set i false).IsChain fun a b => a = true ∨ b = true := by
            rcases h with h | h
            · exact hshort h i
            · exact isChain_set_of_late h i
          cases i with
          | zero =>
              have hothers := hchain others.length
              rw [List.set_eq_of_length_le (Nat.le_refl _)] at hothers
              have happart : Apart others := apart_of_isChain hothers
              exact happart
          | succ i => exact hchain i

lemma Even.apart (h : Even factors) : Apart factors := by
  have hset := h.apart_set factors.length
  rwa [List.set_eq_of_length_le (Nat.le_refl _)] at hset

lemma even_of_not_late (h : ∀ late ∈ factors, late = false) : Even factors := by
  induction factors with
  | nil => trivial
  | cons first others ih =>
      obtain ⟨rfl, hothers⟩ := List.forall_mem_cons.mp h
      exact ih hothers

end Lateness

/-- Products behind sum signs fit there also when a group is replaced. -/
lemma Operations.Replaces.sumsFit {rest rest' : Operations} (h : rest.Replaces g v rest')
    (hrest : rest.SumsFit) : rest'.SumsFit := by
  match rest with
  | .nil => cases h
  | .cons o y rest =>
      obtain ⟨hfits, hsums⟩ := hrest
      cases h with
      | operand h =>
          refine ⟨fun ho => ?_, hsums⟩
          rcases h.isLate_eq with hlate | hlate
          · rw [hlate]
            exact hfits ho
          · rw [hlate]
            exact (hfits ho).set 0
      | rest h =>
          refine ⟨fun ho => ?_, h.sumsFit hsums⟩
          rcases h.factors_eq with hfactors | ⟨i, hfactors⟩
          · rw [hfactors]
            exact hfits ho
          · rw [hfactors]
            exact (hfits ho).set (i + 1)

/-! ### Safe layouts -/

section Arranged

variable {leading leading' : List Bool → Prop}

mutual

theorem Operand.Arranged.imp (himp : ∀ factors, leading factors → leading' factors) {x : Operand}
    (hx : x.Arranged leading) : x.Arranged leading' := by
  match x with
  | .number x => trivial
  | .group first rest =>
      obtain ⟨hfirst, hrest, hleading, hsums⟩ := hx
      exact ⟨hfirst.imp himp, hrest.imp himp, himp _ hleading, hsums⟩

theorem Operations.Arranged.imp (himp : ∀ factors, leading factors → leading' factors)
    {rest : Operations} (hrest : rest.Arranged leading) : rest.Arranged leading' := by
  match rest with
  | .nil => trivial
  | .cons o x rest =>
      obtain ⟨hx, hrest⟩ := hrest
      exact ⟨hx.imp himp, hrest.imp himp⟩

end

mutual

/-- A group is arranged as the operand that it stands in. -/
theorem Operand.Replaces.arranged {x x' : Operand} (h : x.Replaces g v x')
    (hx : x.Arranged leading) : g.Arranged leading := by
  match x with
  | .number x => cases h
  | .group first rest =>
      obtain ⟨hfirst, hrest, hothers⟩ := hx
      cases h with
      | here => exact ⟨hfirst, hrest, hothers⟩
      | first h => exact h.arranged hfirst
      | rest h => exact h.arranged hrest

theorem Operations.Replaces.arranged {rest rest' : Operations} (h : rest.Replaces g v rest')
    (hrest : rest.Arranged leading) : g.Arranged leading := by
  match rest with
  | .nil => cases h
  | .cons o y rest =>
      cases h with
      | operand h => exact h.arranged hrest.1
      | rest h => exact h.arranged hrest.2

end

end Arranged

/-- The layout is one that is faithful, and stays so whichever group is replaced by a number. -/
def Formula.Safe (e : Formula) : Prop := e.Arranged Lateness.Even

mutual

/-- A group may be replaced by a number where products are even. -/
theorem Operand.Replaces.arranged_apart {x x' : Operand} (h : x.Replaces g v x')
    (hx : x.Arranged Lateness.Even) : x'.Arranged Lateness.Apart := by
  match x with
  | .number x => cases h
  | .group first rest =>
      obtain ⟨hfirst, hrest, hleading, hsums⟩ := hx
      cases h with
      | here => trivial
      | first h =>
          refine ⟨h.arranged_apart hfirst, hrest.imp fun _ => Lateness.Even.apart, ?_, hsums⟩
          rcases h.isLate_eq with hlate | hlate
          · rw [hlate]
            exact hleading.apart
          · rw [hlate]
            exact hleading.apart_set 0
      | rest h =>
          refine ⟨hfirst.imp fun _ => Lateness.Even.apart, h.arranged_apart hrest, ?_,
            h.sumsFit hsums⟩
          rcases h.factors_eq with hfactors | ⟨i, hfactors⟩
          · rw [hfactors]
            exact hleading.apart
          · rw [hfactors]
            exact hleading.apart_set (i + 1)

theorem Operations.Replaces.arranged_apart {rest rest' : Operations} (h : rest.Replaces g v rest')
    (hrest : rest.Arranged Lateness.Even) : rest'.Arranged Lateness.Apart := by
  match rest with
  | .nil => cases h
  | .cons o y rest =>
      cases h with
      | operand h => exact ⟨h.arranged_apart hrest.1, hrest.2.imp fun _ => Lateness.Even.apart⟩
      | rest h => exact ⟨hrest.1.imp fun _ => Lateness.Even.apart, h.arranged_apart hrest.2⟩

end

namespace Formula

lemma Safe.faithful {e : Formula} (he : e.Safe) : e.Faithful :=
  Operand.Arranged.imp (fun _ => Lateness.Even.apart) he

/-- **Where a group of a safe formula is replaced by a number, the formula is faithful.** -/
theorem Replaces.faithful {e e' : Formula} (h : Replaces g v e e') (he : e.Safe) : e'.Faithful :=
  h.grouped.arranged_apart he

end Formula

end ChatCommand
