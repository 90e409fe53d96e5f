/-
Binary64 numbers taken apart.

* `Binary64`: what a binary64 number stands for, a multiple of a power of two where it is finite;
* `Binary64.of`: read off the bits;
* `wholePart?`, `isWhole`, `roundHalfAway?`: exact operations with integers.
-/

namespace ChatCommand

/-- What a binary64 number stands for: no number, an infinity, or `significand` times two to the
power `exponent`, with a sign. -/
inductive Binary64 where
  | notANumber
  | infinite (negative : Bool)
  | finite (negative : Bool) (significand : Nat) (exponent : Int)

namespace Binary64

/-- What the number stands for, from its sign, exponent and fraction bits. -/
def of (x : Float) : Binary64 :=
  let bits := x.toBits.toNat
  let negative := decide (0x8000000000000000 ≤ bits)
  let field : Nat := (bits >>> 52) % 0x800
  let fraction : Nat := bits % 0x10000000000000
  if field = 0x7ff then
    if fraction = 0 then infinite negative else notANumber
  else if field = 0 then finite negative fraction (-1074)
  else finite negative (0x10000000000000 + fraction) ((field : Int) - 1075)

/-- An integer with the given sign. -/
def signed (negative : Bool) (n : Nat) : Int :=
  if negative then -(n : Int) else n

/-- The integer between the number and zero that is closest to it. -/
def wholePart? : Binary64 → Option Int
  | finite negative significand (.ofNat e) => some (signed negative (significand <<< e))
  | finite negative significand (.negSucc e) => some (signed negative (significand >>> (e + 1)))
  | _ => none

/-- Whether the number is an integer. -/
def isWhole : Binary64 → Bool
  | finite _ _ (.ofNat _) => true
  | finite _ significand (.negSucc e) => significand % (1 <<< (e + 1)) == 0
  | _ => false

/-- The closest integer, of two the one farther from zero. -/
def roundHalfAway? : Binary64 → Option Int
  | finite negative significand (.ofNat e) => some (signed negative (significand <<< e))
  | finite negative significand (.negSucc e) =>
    some (signed negative ((significand + (1 <<< e)) >>> (e + 1)))
  | _ => none

end Binary64

/-- The 64-bit integer closest to `n`. -/
def clampInt64 (n : Int) : Int64 :=
  Int64.ofInt (max (-0x8000000000000000) (min 0x7fffffffffffffff n))

/-- The 64-bit integer closest to a number without its fraction, 0 for what is no number. -/
def truncateToInt64 (x : Float) : Int64 :=
  match Binary64.of x with
  | .notANumber => 0
  | .infinite negative => if negative then Int64.minValue else Int64.maxValue
  | .finite .. => clampInt64 ((Binary64.of x).wholePart?.getD 0)

/-- The 64-bit integer closest to a number, with halves away from zero, 0 for what is no
number. -/
def roundToInt64 (x : Float) : Int64 :=
  match (Binary64.of x).roundHalfAway? with
  | some n => clampInt64 n
  | none => truncateToInt64 x

/-- The number without its integer part. No number if it is not finite. -/
def fractionOf (x : Float) : Float :=
  match (Binary64.of x).wholePart? with
  | some n => x - Float.ofInt n
  | none => 0.0 / 0.0

end ChatCommand
