/-
Scores: how closely two texts agree, in percent.

* `percentage`, `withBonus`, `interpolate`, `shareOf`: the formulas of scoring, over any arithmetic;
* `Score`: a percentage as the library holds it, a binary32 number from 0 to 100 kept as its
  bits, so that its order is the order of those bits;
* `Score.ofNumber`: the nearest score to a number, zero for what is no number;
* `Score.reaches`, `Score.isBelow`: a score beside a bar, which may be any number;
* `Bar`: what bars ask of a type of numbers;
* `Scale`: what the similarity of texts asks of a type of scores;
* `Score.le_hundred`, `Score.reaches_mono`: scores are percentages, and bars respect their order;
* `Score.lt_of_position_lt`, `Score.greatest_ne_negativeZero`: the total order differs from that of
  numbers in the zero below zero alone, which is never the greatest of some scores.
-/

namespace ChatCommand

/-! ### Formulas -/

/-- An arithmetic in which scores can be computed. -/
class ScoreArithmetic (α : Type) extends Add α, Sub α, Mul α, Div α where
  ofNat : Nat → α

instance : ScoreArithmetic Float where
  ofNat := Float.ofNat

instance : ScoreArithmetic Float32 where
  ofNat := Float32.ofNat

section Formulas

variable {α : Type} [ScoreArithmetic α]

open ScoreArithmetic (ofNat)

/-- The share of `length` that `distance` leaves, in percent. -/
def percentage (distance length : Nat) : α :=
  (ofNat 1 - ofNat distance / ofNat length) * ofNat 100

/-- A score raised by half of what it lacks to a hundred, times the share `covered` of
`length`. -/
def withBonus (base : α) (covered length : Nat) : α :=
  base + (ofNat 100 - base) * (ofNat covered / ofNat length) * (ofNat 1 / ofNat 2)

/-- The number between `lower` and `upper` at the given share of the way. -/
def interpolate (lower upper share : α) : α :=
  lower + (upper - lower) * share

/-- The share of `longest` that `length` is, one at most. -/
def shareOf (length longest : Nat) : α :=
  if longest ≤ length then ofNat 1 else ofNat length / ofNat longest

end Formulas

/-! ### Binary32 numbers by their bits -/

/-- The bits of a binary32 number without its sign. -/
def magnitudeBits (x : Float32) : Nat :=
  x.toBits.toNat % 0x80000000

/-- Whether the sign bit of a binary32 number is set. -/
def hasSignBit (x : Float32) : Bool :=
  0x80000000 ≤ x.toBits.toNat

/-- The place of a number among the binary32 numbers, with both zeros at 0. `none` for what is
no number. -/
def orderKey? (x : Float32) : Option Int :=
  if 0x7f800000 < magnitudeBits x then none
  else if hasSignBit x then some (-(magnitudeBits x : Int)) else some (magnitudeBits x)

/-! ### Scores -/

/-- The bits of a hundred. -/
def hundredBits : Nat := 0x42c80000

/-- The bits of the zero below zero. -/
def negativeZeroBits : Nat := 0x80000000

/-- A binary32 number from 0 to 100, as its bits. Either zero may occur. -/
structure Score where
  bits : Nat
  in_range : bits ≤ hundredBits ∨ bits = negativeZeroBits
deriving DecidableEq

namespace Score

def zero : Score := ⟨0, .inl (Nat.zero_le _)⟩

def hundred : Score := ⟨hundredBits, .inl (Nat.le_refl _)⟩

def negativeZero : Score := ⟨negativeZeroBits, .inr rfl⟩

instance : Inhabited Score := ⟨zero⟩

/-- The score as a number. -/
def number (s : Score) : Float32 :=
  Float32.ofBits s.bits.toUInt32

/-- The nearest score: what is no number or lies below zero becomes zero, what lies above a
hundred becomes a hundred. -/
def ofNumber (x : Float32) : Score :=
  if 0x7f800000 < magnitudeBits x then zero
  else if hasSignBit x then
    if magnitudeBits x = 0 then negativeZero else zero
  else if h : magnitudeBits x ≤ hundredBits then ⟨magnitudeBits x, .inl h⟩
  else hundred

/-- The place of a score among the numbers from 0 to 100: both zeros are at 0. -/
def magnitude (s : Score) : Nat :=
  if s.bits = negativeZeroBits then 0 else s.bits

/-- The place of a score in the total order, where the negative zero comes first. -/
def position (s : Score) : Nat :=
  if s.bits = negativeZeroBits then 0 else s.bits + 1

instance : LE Score := ⟨fun a b => a.magnitude ≤ b.magnitude⟩

instance : LT Score := ⟨fun a b => a.magnitude < b.magnitude⟩

instance (a b : Score) : Decidable (a ≤ b) :=
  inferInstanceAs (Decidable (a.magnitude ≤ b.magnitude))

instance (a b : Score) : Decidable (a < b) :=
  inferInstanceAs (Decidable (a.magnitude < b.magnitude))

/-- The greater of two scores, the first if they are equal as numbers. -/
instance : Max Score := ⟨fun a b => if a < b then b else a⟩

/-- Whether the score is at least the bar. No score reaches a bar that is no number. -/
def reaches (s : Score) (bar : Float32) : Bool :=
  match orderKey? bar with
  | none => false
  | some k => k ≤ s.magnitude

/-- Whether the score is less than the bar. No score is less than a bar that is no number. -/
def isBelow (s : Score) (bar : Float32) : Bool :=
  match orderKey? bar with
  | none => false
  | some k => s.magnitude < k

/-- The greatest of some scores and zero. -/
def greatest (scores : List Score) : Score :=
  scores.foldl max zero

/-- The mean, added up from the left. Zero if there are none. -/
def mean (scores : List Score) : Score :=
  if scores.isEmpty then zero
  else
    ofNumber (scores.foldl (fun sum s => sum + s.number) (-0.0) / Float32.ofNat scores.length)

end Score

/-! ### Order -/

namespace Score

theorem le_def {a b : Score} : a ≤ b ↔ a.magnitude ≤ b.magnitude := Iff.rfl

theorem lt_def {a b : Score} : a < b ↔ a.magnitude < b.magnitude := Iff.rfl

theorem le_total (a b : Score) : a ≤ b ∨ b ≤ a := Nat.le_total _ _

theorem not_le {a b : Score} : ¬a ≤ b ↔ b < a := Nat.not_le

/-- Every score is a hundred at most. -/
theorem le_hundred (s : Score) : s ≤ hundred := by
  have hm : magnitude hundred = hundredBits := by decide
  show magnitude s ≤ magnitude hundred
  rw [hm]
  unfold magnitude
  by_cases hz : s.bits = negativeZeroBits
  · rw [if_pos hz]
    exact Nat.zero_le _
  · rw [if_neg hz]
    exact s.in_range.resolve_right hz

/-- Every score is zero at least. -/
theorem zero_le (s : Score) : zero ≤ s := Nat.zero_le _

/-- Places in the total order ascend as the numbers do, but for the zero below zero. -/
theorem lt_of_position_lt {a b : Score} (ha : a ≠ negativeZero) (h : a.position < b.position) :
    a < b := by
  have hbits : a.bits ≠ negativeZeroBits := by
    intro hz
    obtain ⟨bits, _⟩ := a
    subst hz
    exact ha rfl
  rw [lt_def, magnitude, magnitude, if_neg hbits]
  rw [position, position, if_neg hbits] at h
  split <;> simp_all

/-- The greatest of some scores is not the zero below zero. -/
theorem greatest_ne_negativeZero (scores : List Score) : greatest scores ≠ negativeZero := by
  have key (scores : List Score) (a : Score) (ha : a ≠ negativeZero) :
      scores.foldl max a ≠ negativeZero := by
    induction scores generalizing a with
    | nil => exact ha
    | cons s scores ih =>
      refine ih _ ?_
      by_cases h : a < s
      · rw [show max a s = s from if_pos h]
        rintro rfl
        exact absurd h (Nat.not_lt_zero _)
      · rwa [show max a s = a from if_neg h]
  exact key scores zero (by decide)

/-- What reaches a bar, a greater score reaches too. -/
theorem reaches_mono {a b : Score} (h : a ≤ b) {bar : Float32} (ha : a.reaches bar = true) :
    b.reaches bar = true := by
  unfold reaches at ha ⊢
  split at ha
  · contradiction
  · simp only [decide_eq_true_eq] at ha ⊢
    exact Int.le_trans ha (Int.ofNat_le.mpr h)

/-- A score is not less than a bar exactly if it reaches it, or the bar is no number. -/
theorem isBelow_eq_false_iff {s : Score} {bar : Float32} :
    s.isBelow bar = false ↔ s.reaches bar = true ∨ orderKey? bar = none := by
  rw [isBelow, reaches]
  cases orderKey? bar <;> simp

end Score

/-! ### Bars -/

/-- An arithmetic of bars that scores have to reach. -/
class Bar (α : Type) extends ScoreArithmetic α where
  /-- Whether a score is at least the bar. -/
  reachedBy : α → Score → Bool
  /-- Whether a score is less than the bar. -/
  missedBy : α → Score → Bool

instance : Bar Float32 where
  reachedBy bar s := s.reaches bar
  missedBy bar s := s.isBelow bar

/-! ### Scales -/

/-- What the similarity of texts asks of a type of scores. -/
class Scale (σ : Type) extends Max σ where
  /-- The score of full agreement. -/
  full : σ
  /-- Whether a score is that of full agreement. -/
  isFull : σ → Bool
  /-- The score of two texts at a distance, the longer of which has the given length. -/
  ofDistance : Nat → Nat → σ
  /-- A score with the bonus for covering a part of the longer text. -/
  raised : σ → Nat → Nat → σ

/-- The distance is measured in binary64 and rounded to binary32, where all else happens. -/
instance : Scale Score where
  full := .hundred
  isFull s := decide (Score.hundred ≤ s)
  ofDistance distance length := .ofNumber (percentage distance length : Float).toFloat32
  raised base covered length := .ofNumber (withBonus base.number covered length)

end ChatCommand
