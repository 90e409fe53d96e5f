/-
Reading decimal numbers.

* `DecimalText`: what a decimal text says, an infinity, no number, or digits and an exponent;
* `DecimalText.read?`: reads a sign, digits with at most one point, and an exponent, or one of the
  words `inf`, `infinity` and `nan` in any case;
* `DecimalText.toFloat`, `DecimalText.toFloat32`: the nearest machine number.
-/

namespace ChatCommand

/-- What a decimal text says. -/
inductive DecimalText where
  | notANumber
  | infinite (negative : Bool)
  /-- The number `digits` times ten to the power `exponent`. -/
  | finite (negative : Bool) (digits : Nat) (exponent : Int)

namespace DecimalText

/-- The number of a sequence of digits, added to `n` times a power of ten. -/
def digitsFrom (n : Nat) (digits : List Char) : Nat :=
  digits.foldl (fun n c => n * 10 + (c.toNat - '0'.toNat)) n

/-- Splits off the leading digits. -/
def spanDigits (s : List Char) : List Char × List Char :=
  s.span Char.isDigit

/-- An exponent mark, an optional sign and digits, or nothing. -/
def readExponent? : List Char → Option Int
  | [] => some 0
  | mark :: rest =>
    if mark == 'e' || mark == 'E' then
      let (negative, digits) :=
        match rest with
        | '-' :: ds => (true, ds)
        | '+' :: ds => (false, ds)
        | ds => (false, ds)
      if digits.isEmpty || !digits.all Char.isDigit then none
      else
        let n : Int := digitsFrom 0 digits
        some (if negative then -n else n)
    else none

/-- Digits with at most one point among or beside them, and an exponent. -/
def readUnsigned? (negative : Bool) (s : List Char) : Option DecimalText :=
  let (whole, rest) := spanDigits s
  let (fraction, rest) :=
    match rest with
    | '.' :: rest => spanDigits rest
    | rest => ([], rest)
  if whole.isEmpty && fraction.isEmpty then none
  else do
    let e ← readExponent? rest
    some (finite negative (digitsFrom (digitsFrom 0 whole) fraction) (e - fraction.length))

/-- Reads a number or one of the words for what is not finite. -/
def read? (s : List Char) : Option DecimalText :=
  let (negative, unsigned) :=
    match s with
    | '-' :: rest => (true, rest)
    | '+' :: rest => (false, rest)
    | rest => (false, rest)
  let word := String.ofList (unsigned.map Char.toLower)
  if word == "inf" || word == "infinity" then some (infinite negative)
  else if word == "nan" then some notANumber
  else readUnsigned? negative unsigned

/-- The place of the leading digit: the number is less than ten to this power. -/
def magnitude (digits : Nat) (exponent : Int) : Int :=
  (Nat.toDigits 10 digits).length + exponent

/-- The nearest binary64 number. -/
def toFloat : DecimalText → Float
  | notANumber => 0.0 / 0.0
  | infinite negative => if negative then -1.0 / 0.0 else 1.0 / 0.0
  | finite negative digits exponent =>
    let size : Float :=
      if digits = 0 ∨ magnitude digits exponent < -400 then 0.0
      else if 400 < magnitude digits exponent then 1.0 / 0.0
      else OfScientific.ofScientific digits (decide (exponent < 0)) exponent.natAbs
    if negative then -size else size

/-- The nearest binary32 number. -/
def toFloat32 : DecimalText → Float32
  | notANumber => 0.0 / 0.0
  | infinite negative => if negative then -1.0 / 0.0 else 1.0 / 0.0
  | finite negative digits exponent =>
    let size : Float32 :=
      if digits = 0 ∨ magnitude digits exponent < -400 then 0.0
      else if 400 < magnitude digits exponent then 1.0 / 0.0
      else OfScientific.ofScientific digits (decide (exponent < 0)) exponent.natAbs
    if negative then -size else size

end DecimalText

/-- The binary64 number that a decimal text says. -/
def readNumber? (s : String) : Option Float :=
  (DecimalText.read? s.toList).map DecimalText.toFloat

end ChatCommand
