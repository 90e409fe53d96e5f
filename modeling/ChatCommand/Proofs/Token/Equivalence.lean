/-
Tokens that mean the same.

Numbers compare as binary64 numbers: the two zeros are the same number, and what is no number is not
even the same as itself. So to mean the same is symmetric and transitive, but a token with such a
value does not mean the same as itself.

* `Binary64.compare_eq_some_eq_iff`: which numbers are the same;
* `Token.isEquivalent_comm`, `Token.isEquivalent_trans`: **to mean the same is symmetric and
  transitive**;
* `Token.isEquivalent_congr_left`: tokens that mean the same mean the same as the same tokens.
-/
import Mathlib
import ChatCommand.Token.Basic

namespace ChatCommand

/-! ### Numbers -/

namespace Binary64

open Float.Model (UnpackedFloat)

/-- Numbers are the same if they have the same form or are both zero. -/
lemma compare_eq_some_eq_iff {x y : UnpackedFloat} :
    x.compare y = some .eq ↔
      x ≠ .notANumber ∧ (x = y ∨ ∃ sign sign', x = .zero sign ∧ y = .zero sign') := by
  cases x with
  | notANumber => simp [UnpackedFloat.compare]
  | infinity s =>
      cases y with
      | infinity t => cases s <;> cases t <;> simp [UnpackedFloat.compare] <;> decide
      | _ => cases s <;> simp [UnpackedFloat.compare]
  | zero s =>
      cases y with
      | infinity t => cases t <;> simp [UnpackedFloat.compare]
      | finite t => cases t <;> simp [UnpackedFloat.compare]
      | _ => simp [UnpackedFloat.compare]
  | finite s m e hm =>
      cases y with
      | infinity t => cases s <;> cases t <;> simp [UnpackedFloat.compare]
      | finite t =>
          cases s <;> cases t <;>
            simp [UnpackedFloat.compare, Ordering.swap_eq_eq, Ordering.then_eq_eq,
              and_comm]
      | _ => cases s <;> simp [UnpackedFloat.compare]

lemma beq_iff {x y : Float} :
    (x == y) = true ↔ x.toModel.unpack.compare y.toModel.unpack = some .eq := by
  change (x.toModel.unpack.compare y.toModel.unpack == some .eq) = true ↔ _
  exact beq_iff_eq

end Binary64

instance partialEquivBEqFloat : PartialEquivBEq Float where
  symm {x y} h := by
    rw [Binary64.beq_iff, Binary64.compare_eq_some_eq_iff] at h ⊢
    grind
  trans {x y z} h h' := by
    rw [Binary64.beq_iff, Binary64.compare_eq_some_eq_iff] at h h' ⊢
    grind

/-! ### Values -/

lemma PropertyCondition.beq_iff {c d : PropertyCondition} :
    (c == d) = true ↔
      c.property = d.property ∧ c.operator = d.operator ∧ (c.operand == d.operand) = true := by
  obtain ⟨property, operator, x⟩ := c
  obtain ⟨property', operator', y⟩ := d
  simp [BEq.beq, instBEqPropertyCondition.beq]

instance : PartialEquivBEq PropertyCondition where
  symm h := by
    rw [PropertyCondition.beq_iff] at h ⊢
    exact ⟨h.1.symm, h.2.1.symm, BEq.symm h.2.2⟩
  trans h h' := by
    rw [PropertyCondition.beq_iff] at h h' ⊢
    exact ⟨h.1.trans h'.1, h.2.1.trans h'.2.1, BEq.trans h.2.2 h'.2.2⟩

lemma Value.beq_eq (v w : Value) : (v == w) = instBEqValue.beq v w := rfl

/-- Values of different sorts differ, and those of one sort compare as what they hold. -/
instance : PartialEquivBEq Value where
  symm {v w} h := by
    cases v <;> cases w <;>
      simp only [Value.beq_eq, instBEqValue.beq, Bool.false_eq_true] at h ⊢ <;> exact BEq.symm h
  trans {v w u} h h' := by
    cases v <;> cases w <;>
      simp only [Value.beq_eq, instBEqValue.beq, Bool.false_eq_true] at h <;> cases u <;>
      simp only [Value.beq_eq, instBEqValue.beq, Bool.false_eq_true] at h' ⊢ <;>
      exact BEq.trans h h'

/-- What is there compares as before, and what is missing is the same. -/
instance partialEquivBEqOption {α : Type} [BEq α] [PartialEquivBEq α] :
    PartialEquivBEq (Option α) where
  symm {x y} h := by
    rcases x with _ | a <;> rcases y with _ | b <;> try contradiction
    · rfl
    · change (b == a) = true
      change (a == b) = true at h
      exact BEq.symm h
  trans {x y z} h h' := by
    rcases x with _ | a <;> rcases y with _ | b <;> rcases z with _ | c <;> try contradiction
    · rfl
    · change (a == c) = true
      change (a == b) = true at h
      change (b == c) = true at h'
      exact BEq.trans h h'

/-! ### Tokens -/

namespace Token

variable {a b c : Token}

lemma isEquivalent_iff :
    a.isEquivalent b = true ↔
      a.variant = b.variant ∧ a.name = b.name ∧ (a.value == b.value) = true := by
  simp [isEquivalent, and_assoc]

lemma isEquivalent_symm (h : a.isEquivalent b = true) : b.isEquivalent a = true := by
  rw [isEquivalent_iff] at h ⊢
  exact ⟨h.1.symm, h.2.1.symm, BEq.symm h.2.2⟩

/-- **To mean the same is symmetric.** -/
theorem isEquivalent_comm (a b : Token) : a.isEquivalent b = b.isEquivalent a :=
  Bool.eq_iff_iff.mpr ⟨isEquivalent_symm, isEquivalent_symm⟩

/-- **To mean the same is transitive.** -/
theorem isEquivalent_trans (hab : a.isEquivalent b = true) (hbc : b.isEquivalent c = true) :
    a.isEquivalent c = true := by
  rw [isEquivalent_iff] at hab hbc ⊢
  exact ⟨hab.1.trans hbc.1, hab.2.1.trans hbc.2.1, BEq.trans hab.2.2 hbc.2.2⟩

/-- Tokens that mean the same mean the same as the same tokens. -/
lemma isEquivalent_congr_left (hab : a.isEquivalent b = true) (c : Token) :
    a.isEquivalent c = b.isEquivalent c :=
  Bool.eq_iff_iff.mpr ⟨isEquivalent_trans (isEquivalent_symm hab), isEquivalent_trans hab⟩

/-- A token that means the same as some token means the same as itself. -/
lemma isEquivalent_self_of_isEquivalent (hab : a.isEquivalent b = true) :
    a.isEquivalent a = true :=
  isEquivalent_trans hab (isEquivalent_symm hab)

end Token

end ChatCommand
