/-
Scores in exact arithmetic.

Bars and scores can be computed in any arithmetic. Here they are rational numbers, without
rounding.

* `Binary32.exact`: the number that the fields of a binary32 number stand for;
* `Binary32.strictMono_exact_form`: it ascends with the bits;
* `Score.value`, `Score.value_le_iff`: the exact number of a score, in whose order scores are;
* `instance : Bar ℚ`: exact bars, which scores reach by their exact numbers;
* `instance : Scale ℚ`: exact scores;
* `percentage_mem`, `withBonus_mem`: what is left by a distance and the bonus for a part lie
  between 0 and 100 anyway;
* `interpolate_mono`, `shareOf_mono`: a number between two others ascends with these and with its
  share of the way, and shares ascend with the length.
-/
import Mathlib
import ChatCommand.Proofs.Similarity.Percent

namespace ChatCommand

/-! ### Binary32 numbers -/

namespace Binary32

open Float.Model (UnpackedFloat)

/-- The number that some fields stand for, zero where they stand for no finite number. -/
def exact : UnpackedFloat → ℚ
  | .finite .positive digits exponent _ => digits * 2 ^ exponent
  | .finite .negative digits exponent _ => -(digits * 2 ^ exponent)
  | _ => 0

lemma exact_form_of_lt {n : Nat} (h : n < 2 ^ 23) : exact (form n) = n * 2 ^ (-149 : ℤ) := by
  rw [form]
  split
  · next h0 => simp [exact, h0]
  · rfl

lemma exact_form_of_le {n : Nat} (h : 2 ^ 23 ≤ n) :
    exact (form n) = (2 ^ 23 + n % 2 ^ 23 : Nat) * 2 ^ ((n / 2 ^ 23 : Nat) - 150 : ℤ) := by
  rw [form, dif_neg (by omega), if_neg (by omega)]
  rfl

/-- The next bits stand for a greater number. -/
lemma exact_form_lt_succ (n : Nat) : exact (form n) < exact (form (n + 1)) := by
  have hpower (e : ℤ) : (0 : ℚ) < 2 ^ e := zpow_pos (by norm_num) e
  by_cases hlast : 2 ^ 23 ∣ n + 1
  · -- The digits are used up: the exponent is raised, but from the least one to the same.
    obtain ⟨k, hk⟩ := hlast
    have hk1 : 1 ≤ k := by omega
    have hvalue : exact (form (n + 1)) = 2 ^ 24 * 2 ^ ((k : ℤ) - 151) := by
      rw [exact_form_of_le (by omega), hk, Nat.mul_mod_right,
        Nat.mul_div_cancel_left _ (Nat.two_pow_pos 23),
        show (k : ℤ) - 150 = 1 + ((k : ℤ) - 151) by ring, zpow_add₀ two_ne_zero]
      push_cast
      ring
    rw [hvalue]
    obtain rfl | hk2 := Nat.eq_or_lt_of_le hk1
    · have hn : n = 2 ^ 23 - 1 := by omega
      rw [exact_form_of_lt (by omega), hn]
      norm_num
    · have hdigits : 2 ^ 23 + n % 2 ^ 23 = 2 ^ 24 - 1 := by omega
      have hexponent : ((n / 2 ^ 23 : Nat) : ℤ) - 150 = (k : ℤ) - 151 := by omega
      rw [exact_form_of_le (by omega), hdigits, hexponent]
      exact mul_lt_mul_of_pos_right (by norm_num) (hpower _)
  · by_cases hlt : n + 1 < 2 ^ 23
    · rw [exact_form_of_lt hlt, exact_form_of_lt (by omega)]
      exact mul_lt_mul_of_pos_right (by exact_mod_cast Nat.lt_succ_self n) (hpower _)
    · have hdigits : (n + 1) % 2 ^ 23 = n % 2 ^ 23 + 1 := by omega
      have hexponent : (n + 1) / 2 ^ 23 = n / 2 ^ 23 := by omega
      rw [exact_form_of_le (by omega), exact_form_of_le (by omega), hdigits, hexponent]
      refine mul_lt_mul_of_pos_right ?_ (hpower _)
      exact_mod_cast Nat.lt_succ_self (2 ^ 23 + n % 2 ^ 23)

/-- **Bits stand for greater and greater numbers.** -/
lemma strictMono_exact_form : StrictMono fun n => exact (form n) :=
  strictMono_nat_of_lt_succ exact_form_lt_succ

end Binary32

namespace Score

/-- The number of a score, exactly. -/
def value (s : Score) : ℚ := Binary32.exact s.number.toModel.unpack

lemma value_eq (s : Score) : s.value = Binary32.exact (Binary32.form s.magnitude) := by
  obtain h | ⟨hzero, h⟩ := s.unpack_number
  · rw [value, h]
  · rw [value, h, hzero]
    rfl

/-- A score is at most another exactly if its number is. -/
theorem value_le_iff {s t : Score} : s.value ≤ t.value ↔ s ≤ t := by
  rw [value_eq, value_eq, Binary32.strictMono_exact_form.le_iff_le, le_def]

end Score

/-! ### Exact arithmetic -/

instance : ScoreArithmetic ℚ where
  ofNat n := n

/-- Scores are compared with exact bars by their numbers. -/
instance : Bar ℚ where
  reachedBy bar s := decide (bar ≤ s.value)
  missedBy bar s := decide (s.value < bar)

/-- The nearest number from 0 to 100. -/
def clampPercent (x : ℚ) : ℚ := max 0 (min x 100)

lemma clampPercent_of_mem {x : ℚ} (h0 : 0 ≤ x) (h100 : x ≤ 100) : clampPercent x = x := by
  rw [clampPercent, min_eq_left h100, max_eq_right h0]

instance : Scale ℚ where
  full := 100
  isFull s := decide (100 ≤ s)
  ofDistance distance length := clampPercent (percentage distance length)
  raised base covered length := clampPercent (withBonus base covered length)

/-! ### Formulas -/

section Formulas

variable {distance covered length length' longest : Nat} {base lower lower' upper upper' share
  share' : ℚ}

lemma percentage_eq (distance length : Nat) :
    (percentage distance length : ℚ) = (1 - distance / length) * 100 := by
  simp only [percentage, ScoreArithmetic.ofNat, Nat.cast_one, Nat.cast_ofNat]

/-- A part of a length, also of none, is a share from 0 to 1. -/
lemma ratio_mem {part : Nat} (h : part ≤ length) :
    (0 : ℚ) ≤ part / length ∧ (part / length : ℚ) ≤ 1 :=
  ⟨by positivity, div_le_one_of_le₀ (by exact_mod_cast h) (Nat.cast_nonneg length)⟩

/-- What a distance leaves of a text that is no shorter is a percentage. -/
lemma percentage_mem (h : distance ≤ length) :
    0 ≤ (percentage distance length : ℚ) ∧ (percentage distance length : ℚ) ≤ 100 := by
  obtain ⟨hnonneg, hle⟩ := ratio_mem h
  rw [percentage_eq]
  constructor <;> linarith

lemma percentage_lt_hundred (h0 : 0 < distance) (h : distance ≤ length) :
    (percentage distance length : ℚ) < 100 := by
  have hpos : (0 : ℚ) < distance / length :=
    div_pos (by exact_mod_cast h0) (by exact_mod_cast h0.trans_le h)
  rw [percentage_eq]
  linarith

/-- The bonus is half of what lacks to a hundred at most. -/
lemma withBonus_mem (hbase : base ≤ 100) (h : covered ≤ length) :
    base ≤ withBonus base covered length
      ∧ withBonus base covered length ≤ base + (100 - base) / 2 := by
  obtain ⟨hnonneg, hle⟩ := ratio_mem h
  have hlack : 0 ≤ 100 - base := sub_nonneg.mpr hbase
  have heq : withBonus base covered length
      = base + (100 - base) * (covered / length) / 2 := by
    simp only [withBonus, ScoreArithmetic.ofNat, Nat.cast_one, Nat.cast_ofNat]
    ring
  have hbonus : 0 ≤ (100 - base) * (covered / length) := mul_nonneg hlack hnonneg
  have hbound : (100 - base) * (covered / length) ≤ 100 - base :=
    mul_le_of_le_one_right hlack hle
  rw [heq]
  constructor <;> linarith

lemma shareOf_eq (length longest : Nat) :
    (shareOf length longest : ℚ) = if longest ≤ length then 1 else (length / longest : ℚ) := by
  simp only [shareOf, ScoreArithmetic.ofNat, Nat.cast_one]

/-- A share is a number from 0 to 1, also of nothing. -/
lemma shareOf_mem (length longest : Nat) :
    0 ≤ (shareOf length longest : ℚ) ∧ (shareOf length longest : ℚ) ≤ 1 := by
  rw [shareOf_eq]
  split
  · norm_num
  · next h => exact ratio_mem (Nat.not_le.mp h).le

/-- A longer text is no smaller a share. -/
lemma shareOf_mono (h : length ≤ length') :
    (shareOf length longest : ℚ) ≤ shareOf length' longest := by
  by_cases hall : longest ≤ length'
  · have hone : (shareOf length' longest : ℚ) = 1 := by rw [shareOf_eq, if_pos hall]
    rw [hone]
    exact (shareOf_mem length longest).2
  · rw [shareOf_eq, shareOf_eq, if_neg hall, if_neg fun hle => hall (hle.trans h)]
    exact div_le_div_of_nonneg_right (by exact_mod_cast h) (Nat.cast_nonneg longest)

/-- A number between two others, as a mean of them. -/
lemma interpolate_eq (lower upper share : ℚ) :
    interpolate lower upper share = (1 - share) * lower + share * upper := by
  simp only [interpolate]
  ring

/-- With both bounds a number between them ascends. -/
lemma interpolate_mono (hlower : lower ≤ lower') (hupper : upper ≤ upper') (h0 : 0 ≤ share)
    (h1 : share ≤ 1) : interpolate lower upper share ≤ interpolate lower' upper' share := by
  rw [interpolate_eq, interpolate_eq]
  exact add_le_add (mul_le_mul_of_nonneg_left hlower (sub_nonneg.mpr h1))
    (mul_le_mul_of_nonneg_left hupper h0)

/-- With its share of the way a number between two others ascends. -/
lemma interpolate_mono_share (h : lower ≤ upper) (hshare : share ≤ share') :
    interpolate lower upper share ≤ interpolate lower upper share' :=
  add_le_add_right (mul_le_mul_of_nonneg_left hshare (sub_nonneg.mpr h)) lower

end Formulas

end ChatCommand
