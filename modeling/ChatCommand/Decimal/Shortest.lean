/-
The shortest decimal text of a binary64 number.

* `Rounding`: the reals that round to a number, as fractions over one denominator;
* `shortestDigits`: the fewest digits that lie among them, of those the nearest to the number;
* `positional`: digits times a power of ten, without an exponent;
* `showNumber`: the text of a number.
-/
import ChatCommand.Decimal.Binary64

namespace ChatCommand

/-- A positive number and the ends of the interval of reals that round to it, each over
`denominator`. -/
structure Rounding where
  low : Nat
  number : Nat
  high : Nat
  denominator : Nat
  /-- Whether the ends round to the number too. -/
  closed : Bool

namespace Rounding

/-- The rounding of `significand` times two to the power `exponent`. The number below a power of
two is closer by half, unless it is among the smallest. -/
def of (significand : Nat) (exponent : Int) : Rounding :=
  let below := if significand = 0x10000000000000 ∧ -1074 < exponent then 1 else 2
  let shift := exponent - 2
  let scale := 1 <<< shift.toNat
  { low := (4 * significand - below) * scale
    number := 4 * significand * scale
    high := (4 * significand + 2) * scale
    denominator := 1 <<< (-shift).toNat
    closed := significand % 2 == 0 }

/-- Whether `digits` times `step` over `unit` rounds to the number. -/
def holds (r : Rounding) (unit step digits : Nat) : Bool :=
  if r.closed then r.low * unit ≤ digits * step && digits * step ≤ r.high * unit
  else r.low * unit < digits * step && digits * step < r.high * unit

/-- The multiple of ten to the power `place` that rounds to the number, of two the nearer, and of
two as near the greater. -/
def onGrid? (r : Rounding) (place : Int) : Option Nat :=
  let unit := Nat.pow 10 (-place).toNat
  let step := r.denominator * Nat.pow 10 place.toNat
  let under := r.number * unit / step
  let rest := r.number * unit % step
  match r.holds unit step under, r.holds unit step (under + 1) with
  | true, true => some (if step ≤ 2 * rest then under + 1 else under)
  | true, false => some under
  | false, true => some (under + 1)
  | false, false => none

/-- How many zeros follow the point before the first digit of a number less than one. -/
def leadingZeros (r : Rounding) : Nat → Nat → Nat
  | 0, zeros => zeros
  | fuel + 1, zeros =>
    if r.number * Nat.pow 10 (zeros + 1) < r.denominator then r.leadingZeros fuel (zeros + 1) else zeros

/-- The number of digits before the point, or less by the zeros that follow it. -/
def magnitude (r : Rounding) : Int :=
  let whole := r.number / r.denominator
  if whole = 0 then -(r.leadingZeros 400 0 : Int) else (Nat.toDigits 10 whole).length

/-- The fewest digits that round to the number, from a count of digits on, and the place of the
last of them. -/
def shortestFrom (r : Rounding) : Nat → Nat → Nat × Int
  | 0, count => (r.number / r.denominator, r.magnitude - count)
  | fuel + 1, count =>
    match r.onGrid? (r.magnitude - count) with
    | some digits => (digits, r.magnitude - count)
    | none => r.shortestFrom fuel (count + 1)

end Rounding

/-- The fewest digits that round to a number, as an integer times a power of ten. Seventeen always
do. -/
def shortestDigits (significand : Nat) (exponent : Int) : Nat × Int :=
  (Rounding.of significand exponent).shortestFrom 17 1

/-- Digits without the zeros at their end, of which `places` stand behind the point. -/
def dropTrailingZeros (digits : Nat) : Nat → Nat × Nat
  | 0 => (digits, 0)
  | places + 1 =>
    if digits % 10 = 0 then dropTrailingZeros (digits / 10) places else (digits, places + 1)

/-- Digits times ten to the power `place`, without an exponent. -/
def positional (digits : Nat) (place : Int) : List Char :=
  match place with
  | .ofNat zeros => Nat.toDigits 10 digits ++ List.replicate zeros '0'
  | .negSucc n =>
    let (digits, places) := dropTrailingZeros digits (n + 1)
    let text := Nat.toDigits 10 digits
    if places = 0 then text
    else if places < text.length then
      text.take (text.length - places) ++ '.' :: text.drop (text.length - places)
    else '0' :: '.' :: (List.replicate (places - text.length) '0' ++ text)

/-- The shortest text that reads back as the number, never with an exponent. -/
def showNumber (x : Float) : String :=
  match Binary64.of x with
  | .notANumber => "NaN"
  | .infinite negative => if negative then "-inf" else "inf"
  | .finite negative significand exponent =>
    let text :=
      if significand = 0 then ['0']
      else
        let (digits, place) := shortestDigits significand exponent
        positional digits place
    String.ofList (if negative then '-' :: text else text)

end ChatCommand
