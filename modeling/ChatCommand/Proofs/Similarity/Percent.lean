/-
Scores as numbers.

A score is kept as the bits of a binary32 number. Bits below those of the infinite number are an
exponent before 23 digits, so they ascend as the numbers do.

* `Binary32.form`: the digits and the exponent that some bits stand for;
* `Binary32.unpack_ofBits`: the number of the bits has this form;
* `Binary32.compare_form`: forms compare as their bits do;
* `Score.number_le_iff`: the order of scores is the order of their numbers;
* `Score.number_mem`: **every score is a number from 0 to 100**, and never what is no number.
-/
import Mathlib
import ChatCommand.Score

namespace ChatCommand

namespace Binary32

open Float.Model (Format UnpackedFloat)
open Float.Model.UnpackedFloat

variable {n : Nat}

/-! ### Fields -/

section Fields

variable {b : BitVec Format.binary32.numBits}

lemma toNat_unpackMantissa (b : BitVec Format.binary32.numBits) :
    (unpackMantissa b).toNat = b.toNat % 2 ^ 23 := by
  rw [unpackMantissa, BitVec.toNat_cast, BitVec.extractLsb_toNat, Nat.shiftRight_zero]
  rfl

lemma unpackMantissa_eq_zero_iff : unpackMantissa b = 0#23 ↔ b.toNat % 2 ^ 23 = 0 := by
  rw [← toNat_unpackMantissa, ← BitVec.toNat_inj]
  rfl

/-- A leading one before the digits. -/
lemma toNat_append_unpackMantissa :
    (1#1 ++ unpackMantissa b).toNat = 2 ^ 23 + b.toNat % 2 ^ 23 := by
  rw [BitVec.toNat_append, toNat_unpackMantissa]
  change (1 : Nat) <<< 23 ||| b.toNat % 2 ^ 23 = _
  rw [Nat.one_shiftLeft, Nat.or_comm,
    Nat.or_two_pow_eq_add_of_lt (Nat.mod_lt _ (Nat.two_pow_pos 23)), Nat.add_comm]

lemma unpackSign_of_lt (h : b.toNat < 0x7f800000) : unpackSign b = 0#1 := by
  refine BitVec.eq_of_toNat_eq ?_
  rw [unpackSign, BitVec.toNat_cast, BitVec.extractLsb_toNat, Nat.shiftRight_eq_div_pow]
  change b.toNat / 2 ^ 31 % 2 = 0
  omega

lemma toNat_unpackExponent_of_lt (h : b.toNat < 0x7f800000) :
    (unpackExponent b).toNat = b.toNat / 2 ^ 23 := by
  rw [unpackExponent, BitVec.toNat_cast, BitVec.extractLsb_toNat, Nat.shiftRight_eq_div_pow]
  change b.toNat / 2 ^ 23 % 2 ^ 8 = _
  omega

lemma unpackExponent_ne_of_lt (h : b.toNat < 0x7f800000) : unpackExponent b ≠ -1#8 := by
  intro he
  have he := congrArg BitVec.toNat he
  rw [toNat_unpackExponent_of_lt h] at he
  change _ = 255 at he
  omega

lemma unpackExponent_eq_zero_iff (h : b.toNat < 0x7f800000) :
    unpackExponent b = 0#8 ↔ b.toNat < 2 ^ 23 := by
  rw [← BitVec.toNat_inj, toNat_unpackExponent_of_lt h]
  change _ = 0 ↔ _
  omega

end Fields

/-! ### Forms -/

/-- The number of some bits below those of the infinite number: zero, digits with the least
exponent, or digits behind a leading one. -/
def form (n : Nat) : UnpackedFloat :=
  if h0 : n = 0 then .zero .positive
  else if n < 2 ^ 23 then .finite .positive n (-149) (Nat.pos_of_ne_zero h0)
  else .finite .positive (2 ^ 23 + n % 2 ^ 23) ((n / 2 ^ 23 : Nat) - 150)
    (Nat.add_pos_left (Nat.two_pow_pos 23) _)

/-- Bits stand for their form. -/
lemma unpack_eq_form {b : BitVec Format.binary32.numBits} (h : b.toNat < 0x7f800000) :
    unpack Format.binary32 b = form b.toNat := by
  have hsign : Sign.ofBitVec (unpackSign b) = .positive := by
    rw [unpackSign_of_lt h]
    rfl
  dsimp only [unpack]
  rw [if_neg (unpackExponent_ne_of_lt h), form]
  by_cases hlt : b.toNat < 2 ^ 23
  · have hmod : b.toNat % 2 ^ 23 = b.toNat := Nat.mod_eq_of_lt hlt
    have hdiv : b.toNat / 2 ^ 23 = 0 := Nat.div_eq_of_lt hlt
    have hzero : unpackMantissa b = 0#23 ↔ b.toNat = 0 := by
      rw [unpackMantissa_eq_zero_iff, hmod]
    rw [if_pos ((unpackExponent_eq_zero_iff h).mpr hlt)]
    by_cases h0 : b.toNat = 0
    · rw [dif_pos (hzero.mpr h0), dif_pos h0, hsign]
    · rw [dif_neg (hzero.not.mpr h0), dif_neg h0, if_pos hlt, finite.injEq]
      refine ⟨hsign, (toNat_unpackMantissa b).trans hmod, ?_⟩
      rw [toNat_unpackExponent_of_lt h, hdiv]
      rfl
  · rw [if_neg ((unpackExponent_eq_zero_iff h).not.mpr hlt), dif_neg (by omega), if_neg hlt,
      finite.injEq]
    refine ⟨hsign, toNat_append_unpackMantissa, ?_⟩
    rw [toNat_unpackExponent_of_lt h]
    rfl

/-- Fields side by side are an exponent before 23 digits. -/
lemma toNat_packComponents {e : Nat} (he : e < 2 ^ 8) (m : Nat) :
    (packComponents Format.binary32 .positive (BitVec.ofNat 8 e) (BitVec.ofNat 23 m)).toNat
      = e * 2 ^ 23 + m % 2 ^ 23 := by
  change (0#1 ++ BitVec.ofNat 8 e ++ BitVec.ofNat 23 m).toNat = _
  rw [BitVec.toNat_append, BitVec.toNat_append, BitVec.toNat_ofNat, BitVec.toNat_ofNat,
    BitVec.toNat_ofNat, Nat.mod_eq_of_lt he, Nat.zero_mod, Nat.zero_shiftLeft, Nat.zero_or,
    ← Nat.shiftLeft_add_eq_or_of_lt (Nat.mod_lt _ (Nat.two_pow_pos 23)), Nat.shiftLeft_eq]

/-- The fields of a form are its bits. -/
lemma toNat_pack_form (h : n < 0x7f800000) : (pack Format.binary32 (form n)).toNat = n := by
  rw [form]
  split
  · next h0 =>
      subst h0
      rfl
  split
  · next h0 hlt =>
      have hlog : n.log2 + 1 ≠ Format.binary32.mantissaBits := by
        have hlog := (Nat.log2_lt h0).mpr hlt
        change _ ≠ 24
        omega
      rw [pack, if_neg (by decide), if_neg hlog]
      exact (toNat_packComponents (by decide : 0 < 2 ^ 8) n).trans (by omega)
  · next h0 hle =>
      have hlog : (2 ^ 23 + n % 2 ^ 23).log2 + 1 = Format.binary32.mantissaBits := by
        have hlog : (2 ^ 23 + n % 2 ^ 23).log2 = 23 :=
          (Nat.log2_eq_iff (by omega)).mpr ⟨by omega, by omega⟩
        rw [hlog]
        rfl
      have hbiased : (((n / 2 ^ 23 : Nat) : Int) - 150 + Format.binary32.exponentBias
          + Format.binary32.mantissaBitsWithoutImplicit).toNat = n / 2 ^ 23 := by
        change (((n / 2 ^ 23 : Nat) : Int) - 150 + 127 + 23).toNat = _
        omega
      have hfinite : ¬2 ^ Format.binary32.exponentBits ≤ n / 2 ^ 23 + 1 := by
        change ¬256 ≤ _
        omega
      rw [pack, hbiased, if_neg hfinite, if_pos hlog]
      exact (toNat_packComponents (by omega) _).trans (by omega)

/-- The number of some bits has their form. -/
lemma unpack_ofBits (bits : UInt32) (h : bits.toNat < 0x7f800000) :
    (Float32.ofBits bits).toModel.unpack = form bits.toNat := by
  change unpack Format.binary32 (pack Format.binary32 (unpack Format.binary32 bits.toBitVec)) = _
  have hpacked := toNat_pack_form h
  rw [unpack_eq_form (b := bits.toBitVec) h, unpack_eq_form (hpacked ▸ h)]
  exact congrArg form hpacked

/-- Forms compare as their bits do. -/
lemma compare_form {a b : Nat} (ha : a < 0x7f800000) (hb : b < 0x7f800000) :
    (form a).compare (form b) = some (compare a b) := by
  rw [form, form]
  split_ifs <;>
    simp only [UnpackedFloat.compare, compare, compareOfLessAndEq, Option.some.injEq] <;>
    split_ifs <;> first | rfl | omega

/-- A number compares with the zero below zero as with zero. -/
lemma compare_negativeZero (x : UnpackedFloat) :
    x.compare (.zero .negative) = x.compare (form 0) := by
  cases x with
  | infinity sign => cases sign <;> rfl
  | finite sign => cases sign <;> rfl
  | _ => rfl

lemma negativeZero_compare (x : UnpackedFloat) :
    UnpackedFloat.compare (.zero .negative) x = (form 0).compare x := by
  cases x with
  | infinity sign => cases sign <;> rfl
  | finite sign => cases sign <;> rfl
  | _ => rfl

end Binary32

/-! ### Scores -/

namespace Score

open Float.Model (UnpackedFloat)

/-- The number of a score has the form of its place among the numbers. -/
lemma unpack_number (s : Score) :
    s.number.toModel.unpack = Binary32.form s.magnitude ∨
      s.magnitude = 0 ∧ s.number.toModel.unpack = .zero .negative := by
  obtain ⟨bits, hbits⟩ := s
  by_cases hnegative : bits = negativeZeroBits
  · have hword : bits.toUInt32 = 0x80000000 := by
      rw [hnegative]
      decide
    refine .inr ⟨if_pos hnegative, ?_⟩
    rw [number, hword]
    rfl
  · have hle : bits ≤ 0x42c80000 := hbits.resolve_right hnegative
    have hword : bits.toUInt32.toNat = bits :=
      UInt32.toNat_ofNat_of_lt' (Nat.lt_of_le_of_lt hle (by decide))
    have hunpacked := Binary32.unpack_ofBits bits.toUInt32 (by omega)
    rw [hword] at hunpacked
    rw [magnitude, if_neg hnegative]
    exact .inl hunpacked

lemma magnitude_lt_infinite (s : Score) : s.magnitude < 0x7f800000 :=
  Nat.lt_of_le_of_lt s.le_hundred (by decide)

/-- No score is what is no number. -/
lemma isNaN_number (s : Score) : s.number.isNaN = false := by
  change s.number.toModel.unpack.isNaN = false
  obtain h | ⟨-, h⟩ := s.unpack_number
  · rw [h, Binary32.form]
    split_ifs <;> rfl
  · rw [h]
    rfl

/-- The numbers of scores compare as their places among the numbers do. -/
lemma compare_number (s t : Score) :
    s.number.toModel.unpack.compare t.number.toModel.unpack
      = some (compare s.magnitude t.magnitude) := by
  rw [← Binary32.compare_form s.magnitude_lt_infinite t.magnitude_lt_infinite]
  obtain hs | ⟨hs0, hs⟩ := s.unpack_number <;> obtain ht | ⟨ht0, ht⟩ := t.unpack_number
  · rw [hs, ht]
  · rw [hs, ht, Binary32.compare_negativeZero, ht0]
  · rw [hs, ht, Binary32.negativeZero_compare, hs0]
  · rw [hs, ht, Binary32.negativeZero_compare, Binary32.compare_negativeZero, hs0, ht0]

/-- A score is at most another exactly if its number is. -/
theorem number_le_iff {s t : Score} : s.number ≤ t.number ↔ s ≤ t := by
  refine decide_eq_true_iff.trans ?_
  change (s.number.toModel.unpack.compare t.number.toModel.unpack).any (·.isLE) = true ↔ _
  rw [compare_number, Option.any_some, Nat.isLE_compare, le_def]

/-- **Every score is a number from 0 to 100.** -/
theorem number_mem (s : Score) : s.number.isNaN = false ∧ 0 ≤ s.number ∧ s.number ≤ 100 := by
  have hzero : zero.number = 0 := rfl
  have hhundred : hundred.number = 100 := rfl
  exact ⟨s.isNaN_number, hzero ▸ number_le_iff.mpr s.zero_le,
    hhundred ▸ number_le_iff.mpr s.le_hundred⟩

end Score

end ChatCommand
