/-
Whole binary64 numbers.

Natural numbers below two to the power 53 have a binary64 number each. Addition and multiplication
of these are exact as long as the result is one of them, and they compare as the natural numbers do.

* `Binary64.wholeForm`: the 53 binary digits and the exponent of a natural number;
* `Binary64.roundWithAccuracy_scaled`, `Binary64.round_scaled`: rounding loses nothing of a whole
  number, however many zeros stand behind its digits;
* `Binary64.unpack_ofNat`: the binary64 number of a natural number has this form;
* `Binary64.ofNat_add`, `Binary64.ofNat_mul`: **sums and products are exact**;
* `Binary64.ofNat_lt_iff`, `Binary64.ofNat_le_iff`, `Binary64.ofNat_beq_iff`: comparison;
* `Binary64.isWhole_ofNat`, `Binary64.wholePart?_ofNat`: the number is whole, and its own whole
  part.
-/
import Mathlib
import ChatCommand.Decimal.Binary64

namespace ChatCommand

namespace Binary64

open Float.Model (Format UnpackedFloat totalExponent)
open Float.Model.UnpackedFloat

/-! ### Digits and exponent -/

section Digits

variable {n m j : Nat}

/-- Zeros behind a number move its first digit. -/
lemma log2_mul_two_pow (h0 : n ≠ 0) (j : Nat) : (n * 2 ^ j).log2 = n.log2 + j := by
  obtain ⟨hlow, hhigh⟩ := (Nat.log2_eq_iff h0).mp rfl
  refine (Nat.log2_eq_iff (Nat.mul_ne_zero h0 (Nat.two_pow_pos j).ne')).mpr ⟨?_, ?_⟩
  · rw [pow_add]
    exact Nat.mul_le_mul_right _ hlow
  · rw [add_right_comm, pow_add]
    exact Nat.mul_lt_mul_of_pos_right hhigh (Nat.two_pow_pos j)

/-- Of two numbers the one with fewer binary digits is smaller. -/
lemma lt_of_log2_lt (hn : n ≠ 0) (hm : m ≠ 0) (h : n.log2 < m.log2) : n < m :=
  calc n < 2 ^ m.log2 := (Nat.log2_lt hn).mp h
    _ ≤ m := Nat.log2_self_le hm

lemma log2_le_of_lt (h0 : n ≠ 0) (h : n < 2 ^ 53) : n.log2 ≤ 52 :=
  Nat.lt_succ_iff.mp ((Nat.log2_lt h0).mpr h)

/-- The digits of a natural number, with zeros behind them up to 53 digits. -/
def digits (n : Nat) : Nat := n * 2 ^ (52 - n.log2)

lemma digits_ne_zero (h0 : n ≠ 0) : digits n ≠ 0 :=
  Nat.mul_ne_zero h0 (Nat.two_pow_pos _).ne'

lemma log2_digits (h0 : n ≠ 0) (h : n < 2 ^ 53) : (digits n).log2 = 52 := by
  have hlog := log2_le_of_lt h0 h
  rw [digits, log2_mul_two_pow h0]
  omega

/-- There are 53 digits. -/
lemma digits_bounds (h0 : n ≠ 0) (h : n < 2 ^ 53) : 2 ^ 52 ≤ digits n ∧ digits n < 2 ^ 53 :=
  (Nat.log2_eq_iff (digits_ne_zero h0)).mp (log2_digits h0 h)

/-- The form of a natural number below two to the power 53: its digits and the exponent that puts
the last one of the number in the place of the units. -/
def wholeForm (n : Nat) : UnpackedFloat :=
  if h0 : n = 0 then .zero .positive
  else .finite .positive (digits n) ((n.log2 : Int) - 52) (Nat.pos_of_ne_zero (digits_ne_zero h0))

end Digits

/-! ### Rounding -/

section Rounding

variable {n : Nat}

/-- Digits that are zero are dropped without loss. -/
lemma shiftRight_exact (m j : Nat) :
    ExtendedMantissa.ofMantissaAndAccuracy (m * 2 ^ j) .exact >>> j
      = ExtendedMantissa.ofMantissaAndAccuracy m .exact := by
  induction j generalizing m with
  | zero => rw [pow_zero, mul_one]; rfl
  | succ j ih =>
      have hstep : ExtendedMantissa.ofMantissaAndAccuracy (m * 2 ^ (j + 1)) .exact >>> (j + 1)
          = (ExtendedMantissa.ofMantissaAndAccuracy (m * 2 * 2 ^ j) .exact
              >>> j).shiftRightOne := by
        rw [pow_succ', mul_assoc]
        rfl
      rw [hstep, ih]
      simp [ExtendedMantissa.shiftRightOne, ExtendedMantissa.ofMantissaAndAccuracy]

/-- Of more than 53 digits the first 53 are kept. -/
lemma shiftToTargetExponent_scaled {m : Nat} (hm : m.log2 = 52) {e : Int} (he : -1074 ≤ e)
    (j : Nat) :
    shiftToTargetExponent Format.binary64 (m * 2 ^ j) (e - j) .exact
      = (ExtendedMantissa.ofMantissaAndAccuracy m .exact, e) := by
  have h0 : m ≠ 0 := by
    rintro rfl
    simp at hm
  have htarget :
      Format.binary64.targetExponent (totalExponent (m * 2 ^ j) (e - j)) = e := by
    simp only [Format.targetExponent, totalExponent, Format.mantissaBits, Format.minExponent,
      log2_mul_two_pow h0, hm]
    omega
  have hamount : (e - (e - j)).toNat = j := by omega
  rw [shiftToTargetExponent, htarget, shiftToExponent, hamount, shiftRight_exact, sub_add_cancel]

/-- Rounding keeps a whole number with enough zeros behind its digits. -/
lemma roundWithAccuracy_scaled (h0 : n ≠ 0) (h : n < 2 ^ 53) {j : Nat} (hj : 52 ≤ n.log2 + j) :
    roundWithAccuracy Format.binary64 .positive (n * 2 ^ j) (-(j : Int)) .exact = wholeForm n := by
  have hlog := log2_le_of_lt h0 h
  obtain ⟨extra, rfl⟩ : ∃ extra, j = 52 - n.log2 + extra := ⟨j - (52 - n.log2), by omega⟩
  have hmantissa : n * 2 ^ (52 - n.log2 + extra) = digits n * 2 ^ extra := by
    rw [digits, pow_add, mul_assoc]
  have hexponent : -((52 - n.log2 + extra : Nat) : Int) = (n.log2 : Int) - 52 - extra := by omega
  have hlow : -1074 ≤ (n.log2 : Int) - 52 := by omega
  have hfirst := shiftToTargetExponent_scaled (log2_digits h0 h) hlow extra
  have hsecond : shiftToTargetExponent Format.binary64 (digits n) ((n.log2 : Int) - 52) .exact
      = (ExtendedMantissa.ofMantissaAndAccuracy (digits n) .exact, (n.log2 : Int) - 52) := by
    simpa using shiftToTargetExponent_scaled (log2_digits h0 h) hlow 0
  have hrounded : (ExtendedMantissa.ofMantissaAndAccuracy (digits n) .exact).roundedMantissa
      = digits n := rfl
  rw [hmantissa, hexponent, roundWithAccuracy, hfirst]
  simp only [hrounded, hsecond]
  rw [wholeForm, dif_neg h0]
  exact dif_neg (digits_ne_zero h0)

/-- Rounding keeps a whole number, however many zeros stand behind its digits. -/
lemma round_scaled (h0 : n ≠ 0) (h : n < 2 ^ 53) (j : Nat) :
    UnpackedFloat.round Format.binary64 .positive (n * 2 ^ j) (-(j : Int)) = wholeForm n := by
  have hlog := log2_le_of_lt h0 h
  have htarget : Format.binary64.targetExponent (totalExponent (n * 2 ^ j) (-(j : Int)))
      = (n.log2 : Int) - 52 := by
    simp only [Format.targetExponent, totalExponent, Format.mantissaBits, Format.minExponent,
      log2_mul_two_pow h0]
    omega
  let more := (-(j : Int) - ((n.log2 : Int) - 52)).toNat
  have hmantissa : (n * 2 ^ j) <<< more = n * 2 ^ (j + more) := by
    rw [Nat.shiftLeft_eq, pow_add, mul_assoc]
  have hexponent : -(j : Int) - more = -((j + more : Nat) : Int) := by omega
  rw [UnpackedFloat.round, htarget, decreaseExponent]
  change roundWithAccuracy _ _ ((n * 2 ^ j) <<< more) (-(j : Int) - more) _ = _
  rw [hmantissa, hexponent]
  exact roundWithAccuracy_scaled h0 h (by omega)

/-- A natural number is rounded to its form. -/
lemma normalize_scaled (h : n < 2 ^ 53) (j : Nat) :
    UnpackedFloat.normalize Format.binary64 ((n * 2 ^ j : Nat) : Int) (-(j : Int)) .positive
      = wholeForm n := by
  rcases Nat.eq_zero_or_pos n with rfl | hpos
  · rw [zero_mul]
    rfl
  · have hgt : compare ((n * 2 ^ j : Nat) : Int) 0 = .gt :=
      Int.compare_eq_gt.mpr (Int.natCast_pos.mpr (Nat.mul_pos hpos (Nat.two_pow_pos j)))
    rw [UnpackedFloat.normalize, hgt]
    exact round_scaled hpos.ne' h j

end Rounding

/-! ### Packing -/

section Packing

variable {n : Nat}

/-- The fields of a whole number: its exponent, and its digits without the first. -/
lemma pack_wholeForm (h0 : n ≠ 0) (h : n < 2 ^ 53) :
    pack Format.binary64 (wholeForm n)
      = packComponents Format.binary64 .positive (BitVec.ofNat 11 (n.log2 + 1023))
          (BitVec.ofNat 52 (digits n)) := by
  have hlog := log2_le_of_lt h0 h
  have hbiased : ((n.log2 : Int) - 52 + Format.binary64.exponentBias
      + Format.binary64.mantissaBitsWithoutImplicit).toNat = n.log2 + 1023 := by
    change ((n.log2 : Int) - 52 + 1023 + 52).toNat = n.log2 + 1023
    omega
  have hfinite : ¬2 ^ Format.binary64.exponentBits ≤ n.log2 + 1023 + 1 := by
    change ¬2048 ≤ n.log2 + 1023 + 1
    omega
  have hnormal : (digits n).log2 + 1 = Format.binary64.mantissaBits := by
    rw [log2_digits h0 h]
    rfl
  rw [wholeForm, dif_neg h0, pack]
  simp only [hbiased, if_neg hfinite, if_pos hnormal]

lemma toNat_exponentField (h0 : n ≠ 0) (h : n < 2 ^ 53) :
    (BitVec.ofNat 11 (n.log2 + 1023)).toNat = n.log2 + 1023 := by
  have hlog := log2_le_of_lt h0 h
  exact Nat.mod_eq_of_lt (by omega)

/-- The exponent is none of those that mark an infinity or a number without a first digit. -/
lemma exponentField_ne (h0 : n ≠ 0) (h : n < 2 ^ 53) :
    BitVec.ofNat 11 (n.log2 + 1023) ≠ -1#11 ∧ BitVec.ofNat 11 (n.log2 + 1023) ≠ 0#11 := by
  have hlog := log2_le_of_lt h0 h
  have hfield := toNat_exponentField h0 h
  refine ⟨fun he => ?_, fun he => ?_⟩
  · rw [he] at hfield
    change 2047 = n.log2 + 1023 at hfield
    omega
  · rw [he] at hfield
    change 0 = n.log2 + 1023 at hfield
    omega

lemma toNat_digitsField (h0 : n ≠ 0) (h : n < 2 ^ 53) :
    (BitVec.ofNat 52 (digits n)).toNat = digits n - 2 ^ 52 := by
  obtain ⟨hlow, hhigh⟩ := digits_bounds h0 h
  rw [BitVec.toNat_ofNat]
  omega

/-- The first digit, which is not stored, is put before the others again. -/
lemma toNat_append_digitsField (h0 : n ≠ 0) (h : n < 2 ^ 53) :
    (1#1 ++ BitVec.ofNat 52 (digits n)).toNat = digits n := by
  obtain ⟨hlow, hhigh⟩ := digits_bounds h0 h
  have hrest : digits n - 2 ^ 52 < 2 ^ 52 := by omega
  rw [BitVec.toNat_append, toNat_digitsField h0 h]
  change (1 : Nat) <<< 52 ||| (digits n - 2 ^ 52) = digits n
  rw [Nat.one_shiftLeft, Nat.or_comm, Nat.or_two_pow_eq_add_of_lt hrest,
    Nat.sub_add_cancel hlow]

lemma unpackSign_packComponents_positive (exponent : BitVec 11) (fraction : BitVec 52) :
    unpackSign (packComponents Format.binary64 .positive exponent fraction) = 0#1 := by
  change (0#1 ++ exponent ++ fraction).extractLsb' 63 1 = 0#1
  rw [BitVec.extractLsb'_append_eq_of_le (by decide),
    BitVec.extractLsb'_append_eq_of_le (by decide)]
  rfl

/-- What is packed is unpacked again. -/
lemma unpack_pack_wholeForm (h : n < 2 ^ 53) :
    unpack Format.binary64 (pack Format.binary64 (wholeForm n)) = wholeForm n := by
  rcases Nat.eq_zero_or_pos n with rfl | hpos
  · rfl
  have h0 := hpos.ne'
  obtain ⟨hfinite, hnormal⟩ := exponentField_ne h0 h
  have hsign := unpackSign_packComponents_positive (BitVec.ofNat 11 (n.log2 + 1023))
    (BitVec.ofNat 52 (digits n))
  have hbias : ((n.log2 + 1023 : Nat) : Int)
      - (Format.binary64.exponentBias + Format.binary64.mantissaBitsWithoutImplicit)
      = (n.log2 : Int) - 52 := by
    change ((n.log2 + 1023 : Nat) : Int) - (1023 + 52) = (n.log2 : Int) - 52
    omega
  rw [pack_wholeForm h0 h, unpack]
  simp only [unpackExponent_packComponents, unpackMantissa_packComponents, hsign,
    toNat_exponentField h0 h, toNat_append_digitsField h0 h, hbias]
  rw [if_neg hfinite, if_neg hnormal, wholeForm, dif_neg h0]
  rfl

end Packing

/-! ### Arithmetic -/

section Arithmetic

variable {a b n : Nat}

/-- The sum of two whole numbers, one of which is not beyond the digits. -/
lemma add_wholeForm (h : a + b < 2 ^ 53) :
    add Format.binary64 (wholeForm a) (wholeForm b) = wholeForm (a + b) := by
  rcases Nat.eq_zero_or_pos a with rfl | ha
  · rw [zero_add, wholeForm, dif_pos rfl, wholeForm]
    split <;> rfl
  rcases Nat.eq_zero_or_pos b with rfl | hb
  · rw [add_zero, wholeForm, dif_neg ha.ne', wholeForm, dif_pos rfl]
    rfl
  have hla := log2_le_of_lt ha.ne' (by omega)
  have hlb := log2_le_of_lt hb.ne' (by omega)
  -- both numbers get the smaller of their exponents, and so the same number of zeros
  let j := 52 - min a.log2 b.log2
  have hmin : min ((a.log2 : Int) - 52) ((b.log2 : Int) - 52) = -(j : Int) := by omega
  have hscaled (n : Nat) (hn : n.log2 ≤ 52) (hj : 52 - n.log2 ≤ j) :
      digits n <<< ((n.log2 : Int) - 52 - -(j : Int)).toNat = n * 2 ^ j := by
    rw [digits, Nat.shiftLeft_eq, mul_assoc, ← pow_add]
    congr 2
    omega
  have hsum : ((a * 2 ^ j : Nat) : Int) + ((b * 2 ^ j : Nat) : Int) = ((a + b) * 2 ^ j : Nat) := by
    push_cast
    ring
  rw [wholeForm, dif_neg ha.ne', wholeForm, dif_neg hb.ne', add]
  simp only [decreaseExponent, Sign.apply, hmin, hscaled a hla (by omega),
    hscaled b hlb (by omega), hsum]
  exact normalize_scaled h j

/-- The product of two whole numbers. -/
lemma mul_wholeForm (ha : a < 2 ^ 53) (hb : b < 2 ^ 53) (h : a * b < 2 ^ 53) :
    mul Format.binary64 (wholeForm a) (wholeForm b) = wholeForm (a * b) := by
  rcases Nat.eq_zero_or_pos a with rfl | hapos
  · rw [zero_mul, wholeForm, dif_pos rfl, wholeForm]
    split <;> rfl
  rcases Nat.eq_zero_or_pos b with rfl | hbpos
  · rw [mul_zero, wholeForm, dif_neg hapos.ne', wholeForm, dif_pos rfl]
    rfl
  have hla := log2_le_of_lt hapos.ne' ha
  have hlb := log2_le_of_lt hbpos.ne' hb
  have h0 : a * b ≠ 0 := Nat.mul_ne_zero hapos.ne' hbpos.ne'
  let j := 52 - a.log2 + (52 - b.log2)
  have hmantissa : digits a * digits b = a * b * 2 ^ j := by
    rw [digits, digits, pow_add]
    ring
  have hexponent : (a.log2 : Int) - 52 + ((b.log2 : Int) - 52) = -(j : Int) := by omega
  have hlog : a.log2 + b.log2 ≤ (a * b).log2 := by
    rw [Nat.le_log2 h0, pow_add]
    exact Nat.mul_le_mul (Nat.log2_self_le hapos.ne') (Nat.log2_self_le hbpos.ne')
  rw [wholeForm, dif_neg hapos.ne', wholeForm, dif_neg hbpos.ne', mul, hmantissa, hexponent]
  exact roundWithAccuracy_scaled h0 h (by omega)

/-- Whole numbers compare as the natural numbers do. -/
lemma compare_wholeForm (ha : a < 2 ^ 53) (hb : b < 2 ^ 53) :
    (wholeForm a).compare (wholeForm b) = some (compare a b) := by
  rcases Nat.eq_zero_or_pos a with rfl | hapos
  · rcases Nat.eq_zero_or_pos b with rfl | hbpos
    · rfl
    · rw [Nat.compare_eq_lt.mpr hbpos, wholeForm, dif_pos rfl, wholeForm, dif_neg hbpos.ne']
      rfl
  rcases Nat.eq_zero_or_pos b with rfl | hbpos
  · rw [Nat.compare_eq_gt.mpr hapos, wholeForm, dif_neg hapos.ne', wholeForm, dif_pos rfl]
    rfl
  rw [wholeForm, dif_neg hapos.ne', wholeForm, dif_neg hbpos.ne', UnpackedFloat.compare]
  congr 1
  rcases lt_trichotomy a.log2 b.log2 with hlog | hlog | hlog
  · have hexponent : (a.log2 : Int) - 52 < (b.log2 : Int) - 52 := by omega
    have hlt := lt_of_log2_lt hapos.ne' hbpos.ne' hlog
    rw [Int.compare_eq_lt.mpr hexponent, Nat.compare_eq_lt.mpr hlt]
    rfl
  · -- As many zeros stand behind the digits of the one as behind those of the other.
    have hdigits : compare (a * 2 ^ (52 - b.log2)) (b * 2 ^ (52 - b.log2)) = compare a b := by
      rw [← cmp_eq_compare, ← cmp_eq_compare, cmp_mul_pos_right (Nat.two_pow_pos _)]
    rw [hlog, Int.compare_eq_eq.mpr rfl, digits, digits, hlog, hdigits]
    rfl
  · have hexponent : (b.log2 : Int) - 52 < (a.log2 : Int) - 52 := by omega
    have hgt := lt_of_log2_lt hbpos.ne' hapos.ne' hlog
    rw [Int.compare_eq_gt.mpr hexponent, Nat.compare_eq_gt.mpr hgt]
    rfl

end Arithmetic

/-! ### Binary64 numbers -/

section Numbers

variable {a b n : Nat}

/-- The binary64 number of a natural number is packed from its form. -/
lemma toModel_ofNat (h : n < 2 ^ 53) : (Float.ofNat n).toModel = .pack (wholeForm n) := by
  have hword : n.toUInt64.toNat = n := UInt64.toNat_ofNat_of_lt' (Nat.lt_trans h (by decide))
  have hconverted : n.toUInt64.toFloat.toModel.unpack = wholeForm n := by
    have hofWord : ofUInt64 Format.binary64 n.toUInt64 = wholeForm n := by
      have hscaled := normalize_scaled h 0
      rw [pow_zero, mul_one] at hscaled
      rw [ofUInt64, hword]
      exact hscaled
    change unpack Format.binary64 (pack Format.binary64 (ofUInt64 Format.binary64 n.toUInt64)) = _
    rw [hofWord, unpack_pack_wholeForm h]
  have hone : (Float.ofBits 0x3FF0000000000000).toModel.unpack = wholeForm 1 := rfl
  have hproduct : Float.ofNat n = n.toUInt64.toFloat * Float.ofBits 0x3FF0000000000000 :=
    dif_pos ⟨h, Nat.zero_le _⟩
  rw [hproduct]
  change Float.Model.pack (mul Format.binary64 n.toUInt64.toFloat.toModel.unpack
    (Float.ofBits 0x3FF0000000000000).toModel.unpack) = _
  rw [hconverted, hone, mul_wholeForm h (by decide) (by omega), mul_one]

/-- The binary64 number of a natural number has its form. -/
lemma unpack_ofNat (h : n < 2 ^ 53) : (Float.ofNat n).toModel.unpack = wholeForm n := by
  rw [toModel_ofNat h]
  exact unpack_pack_wholeForm h

/-- **Sums of whole numbers are exact.** -/
theorem ofNat_add (h : a + b < 2 ^ 53) : Float.ofNat a + Float.ofNat b = Float.ofNat (a + b) := by
  have hsum : (Float.ofNat a + Float.ofNat b).toModel = (Float.ofNat (a + b)).toModel := by
    change Float.Model.pack (add Format.binary64 (Float.ofNat a).toModel.unpack
      (Float.ofNat b).toModel.unpack) = _
    rw [unpack_ofNat (by omega), unpack_ofNat (by omega), add_wholeForm h, toModel_ofNat h]
  exact congrArg Float.ofModel hsum

/-- **Products of whole numbers are exact.** -/
theorem ofNat_mul (ha : a < 2 ^ 53) (hb : b < 2 ^ 53) (h : a * b < 2 ^ 53) :
    Float.ofNat a * Float.ofNat b = Float.ofNat (a * b) := by
  have hproduct : (Float.ofNat a * Float.ofNat b).toModel = (Float.ofNat (a * b)).toModel := by
    change Float.Model.pack (mul Format.binary64 (Float.ofNat a).toModel.unpack
      (Float.ofNat b).toModel.unpack) = _
    rw [unpack_ofNat ha, unpack_ofNat hb, mul_wholeForm ha hb h, toModel_ofNat h]
  exact congrArg Float.ofModel hproduct

lemma compare_ofNat (ha : a < 2 ^ 53) (hb : b < 2 ^ 53) :
    (Float.ofNat a).toModel.unpack.compare (Float.ofNat b).toModel.unpack = some (compare a b) := by
  rw [unpack_ofNat ha, unpack_ofNat hb, compare_wholeForm ha hb]

/-- One is less than another as the natural numbers are. -/
lemma ofNat_lt_iff (ha : a < 2 ^ 53) (hb : b < 2 ^ 53) : Float.ofNat a < Float.ofNat b ↔ a < b := by
  refine decide_eq_true_iff.trans ?_
  change ((Float.ofNat a).toModel.unpack.compare (Float.ofNat b).toModel.unpack == some .lt) = true
    ↔ a < b
  rw [compare_ofNat ha hb, beq_iff_eq, Option.some.injEq, Nat.compare_eq_lt]

lemma ofNat_le_iff (ha : a < 2 ^ 53) (hb : b < 2 ^ 53) : Float.ofNat a ≤ Float.ofNat b ↔ a ≤ b := by
  refine decide_eq_true_iff.trans ?_
  change ((Float.ofNat a).toModel.unpack.compare (Float.ofNat b).toModel.unpack).any (·.isLE) = true
    ↔ a ≤ b
  rw [compare_ofNat ha hb, Option.any_some, Nat.isLE_compare]

lemma ofNat_beq_iff (ha : a < 2 ^ 53) (hb : b < 2 ^ 53) :
    (Float.ofNat a == Float.ofNat b) = true ↔ a = b := by
  change ((Float.ofNat a).toModel.unpack.compare (Float.ofNat b).toModel.unpack == some .eq) = true
    ↔ a = b
  rw [compare_ofNat ha hb, beq_iff_eq, Option.some.injEq, Nat.compare_eq_eq]

/-- The bits of a whole number: its exponent before its digits without the first. -/
lemma toBits_ofNat (h0 : n ≠ 0) (h : n < 2 ^ 53) :
    (Float.ofNat n).toBits.toNat = (n.log2 + 1023) * 2 ^ 52 + (digits n - 2 ^ 52) := by
  obtain ⟨hlow, hhigh⟩ := digits_bounds h0 h
  have hpacked : (Float.ofNat n).toBits.toNat
      = (0#1 ++ BitVec.ofNat 11 (n.log2 + 1023) ++ BitVec.ofNat 52 (digits n)).toNat := by
    change ((Float.ofNat n).toModel.toBits).toBitVec.toNat = _
    rw [toModel_ofNat h]
    exact congrArg BitVec.toNat (pack_wholeForm h0 h)
  rw [hpacked, BitVec.toNat_append, BitVec.toNat_append, toNat_exponentField h0 h,
    toNat_digitsField h0 h, BitVec.toNat_zero, Nat.zero_shiftLeft, Nat.zero_or,
    ← Nat.shiftLeft_add_eq_or_of_lt (by omega), Nat.shiftLeft_eq]

/-- A whole number stands for its digits with its exponent. -/
lemma of_ofNat (h0 : n ≠ 0) (h : n < 2 ^ 53) :
    of (Float.ofNat n) = finite false (digits n) ((n.log2 : Int) - 52) := by
  have hlog := log2_le_of_lt h0 h
  obtain ⟨hlow, hhigh⟩ := digits_bounds h0 h
  have hbits := toBits_ofNat h0 h
  have hsign : ¬0x8000000000000000 ≤ (Float.ofNat n).toBits.toNat := by omega
  have hfield : (Float.ofNat n).toBits.toNat >>> 52 % 0x800 = n.log2 + 1023 := by
    rw [Nat.shiftRight_eq_div_pow]
    omega
  have hfraction : (Float.ofNat n).toBits.toNat % 0x10000000000000 = digits n - 2 ^ 52 := by omega
  have hdigits : 0x10000000000000 + (digits n - 2 ^ 52) = digits n := by omega
  have hexponent : ((n.log2 + 1023 : Nat) : Int) - 1075 = (n.log2 : Int) - 52 := by omega
  rw [of]
  simp only [hfield, hfraction, hdigits, hexponent, hsign, decide_false]
  rw [if_neg (by omega), if_neg (by omega)]

/-- The exponent of a whole number undoes the zeros behind its digits. -/
lemma exponent_cases (h0 : n ≠ 0) (h : n < 2 ^ 53) :
    ((n.log2 : Int) - 52 = .ofNat 0 ∧ digits n = n)
      ∨ ∃ k, (n.log2 : Int) - 52 = .negSucc k ∧ digits n = n * 2 ^ (k + 1) := by
  have hlog := log2_le_of_lt h0 h
  rcases Nat.eq_or_lt_of_le hlog with heq | hlt
  · refine .inl ⟨by rw [heq]; rfl, ?_⟩
    rw [digits, heq, Nat.sub_self, pow_zero, mul_one]
  · refine .inr ⟨51 - n.log2, by omega, ?_⟩
    rw [digits, show 52 - n.log2 = 51 - n.log2 + 1 by omega]

lemma isWhole_ofNat (h : n < 2 ^ 53) : (of (Float.ofNat n)).isWhole = true := by
  rcases Nat.eq_zero_or_pos n with rfl | hpos
  · rfl
  rw [of_ofNat hpos.ne' h]
  rcases exponent_cases hpos.ne' h with ⟨hexponent, -⟩ | ⟨k, hexponent, hdigits⟩
  · rw [hexponent]
    rfl
  · rw [hexponent, hdigits, isWhole, Nat.one_shiftLeft, Nat.mul_mod_left]
    rfl

lemma wholePart?_ofNat (h : n < 2 ^ 53) : (of (Float.ofNat n)).wholePart? = some (n : Int) := by
  rcases Nat.eq_zero_or_pos n with rfl | hpos
  · rfl
  rw [of_ofNat hpos.ne' h]
  rcases exponent_cases hpos.ne' h with ⟨hexponent, hdigits⟩ | ⟨k, hexponent, hdigits⟩
  · rw [hexponent, hdigits, wholePart?, Nat.shiftLeft_zero]
    rfl
  · rw [hexponent, hdigits, wholePart?, Nat.shiftRight_eq_div_pow,
      Nat.mul_div_cancel _ (Nat.two_pow_pos _)]
    rfl

end Numbers

end Binary64

end ChatCommand
