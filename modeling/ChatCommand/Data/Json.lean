/-
JSON text.

* `Json.read?`: the datum of a JSON text, which must end after its value;
* `Json.readValue?_congr`, `Json.readItems?_congr`, `Json.readEntries?_congr`: white space before a
  value does not count;
* `Json.Numeral`: a number as it is written, and the number it stands for: an integer of 64 bits,
  or its significant digits times or over a power of ten;
* `Json.write`: a datum over several lines, two spaces for each level.

A string with half a character and a number beyond all binary64 numbers are well-formed JSON, but
have no value: they are read as `Datum.unreadable`.
-/
import ChatCommand.Data.Datum

namespace ChatCommand

namespace Json

/-- The bracket that opens a table. -/
def openBrace : Char := '\x7b'

/-- The bracket that closes a table. -/
def closeBrace : Char := '\x7d'

/-- The rest of a text behind the white space of JSON. -/
def skipBlanks (s : List Char) : List Char :=
  s.dropWhile fun c => c == ' ' || c == '\n' || c == '\t' || c == '\r'

/-! ### Numbers -/

/-- A number as it is written. -/
structure Numeral where
  negative : Bool
  whole : List Char
  fraction : Option (List Char)
  exponent : Option (Bool × List Char)

/-- Splits off a nonempty run of digits. -/
def readDigits? (s : List Char) : Option (List Char × List Char) :=
  let (digits, rest) := s.span Char.isDigit
  if digits.isEmpty then none else some (digits, rest)

/-- Reads a point and digits if there is a point. -/
def readFraction? : List Char → Option (Option (List Char) × List Char)
  | '.' :: rest => (readDigits? rest).map fun (digits, rest) => (some digits, rest)
  | s => some (none, s)

/-- Reads an exponent if there is a mark. -/
def readExponent? : List Char → Option (Option (Bool × List Char) × List Char)
  | [] => some (none, [])
  | mark :: rest =>
    if mark == 'e' || mark == 'E' then
      let (negative, rest) :=
        match rest with
        | '-' :: rest => (true, rest)
        | '+' :: rest => (false, rest)
        | rest => (false, rest)
      (readDigits? rest).map fun (digits, rest) => (some (negative, digits), rest)
    else some (none, mark :: rest)

/-- Reads a number. A leading zero stands alone. -/
def readNumeral? (s : List Char) : Option (Numeral × List Char) := do
  let (negative, s) :=
    match s with
    | '-' :: rest => (true, rest)
    | s => (false, s)
  let (whole, s) ← readDigits? s
  if whole.length != 1 && whole.head? == some '0' then none
  else do
    let (fraction, s) ← readFraction? s
    let (exponent, s) ← readExponent? s
    some (⟨negative, whole, fraction, exponent⟩, s)

/-- Appends digits to a significand as long as it keeps within 64 bits. Gives the significand and
how many digits were appended and left out. -/
def appendDigits (significand appended : Nat) : List Char → Nat × Nat × Nat
  | [] => (significand, appended, 0)
  | c :: rest =>
    let next := significand * 10 + (c.toNat - '0'.toNat)
    if next < 0x10000000000000000 then appendDigits next (appended + 1) rest
    else (significand, appended, rest.length + 1)

/-- A number times ten to a power. The quotient for a power below -308 is taken in steps. `none`
if the product is infinite. -/
def scaled? : Nat → Float → Int → Option Float
  | 0, _, _ => some 0.0
  | fuel + 1, x, exponent =>
    if exponent.natAbs ≤ 308 then
      let power : Float := OfScientific.ofScientific 1 false exponent.natAbs
      if exponent < 0 then some (x / power)
      else if (x * power).isFinite then some (x * power) else none
    else if x == 0.0 then some x
    else if 0 < exponent then none
    else scaled? fuel (x / OfScientific.ofScientific 1 false 308) (exponent + 308)

namespace Numeral

/-- The exponent as it is written, 0 if there is none. -/
def writtenExponent (n : Numeral) : Int :=
  match n.exponent with
  | none => 0
  | some (negative, digits) =>
    let e : Int := digits.foldl (fun e c => e * 10 + (c.toNat - '0'.toNat)) 0
    if negative then -e else e

/-- The binary64 number of a numeral whose significand fits 64 bits after leaving out digits at
the end. -/
def real (n : Numeral) : Datum :=
  let (significand, _, leftOut) := appendDigits 0 0 n.whole
  let (significand, appended, _) := appendDigits significand 0 (n.fraction.getD [])
  let e := n.writtenExponent
  let x? :=
    if e.natAbs < 0x80000000 then scaled? 8 (Float.ofNat significand) (leftOut - appended + e)
    else if significand != 0 && 0 < e then none
    else some 0.0
  match x? with
  | none => .unreadable
  | some x => .real (if n.negative then -x else x)

/-- The number of a numeral: an integer if it is written as one and fits 64 bits, else a binary64
number. -/
def datum (n : Numeral) : Datum :=
  if n.fraction.isSome || n.exponent.isSome then n.real
  else
    let (significand, _, leftOut) := appendDigits 0 0 n.whole
    if leftOut != 0 then n.real
    else if !n.negative then .integer significand
    else if significand = 0 then .real (-0.0)
    else if significand ≤ 0x8000000000000000 then .integer (-(significand : Int))
    else .real (-(Float.ofNat significand))

end Numeral

/-! ### Strings -/

def hexValue? (c : Char) : Option Nat :=
  if '0' ≤ c && c ≤ '9' then some (c.toNat - '0'.toNat)
  else if 'a' ≤ c && c ≤ 'f' then some (c.toNat - 'a'.toNat + 10)
  else if 'A' ≤ c && c ≤ 'F' then some (c.toNat - 'A'.toNat + 10)
  else none

/-- The unit of four hexadecimal digits. -/
def hexUnit? (a b c d : Char) : Option Nat := do
  some ((((← hexValue? a) * 16 + (← hexValue? b)) * 16 + (← hexValue? c)) * 16 + (← hexValue? d))

/-- The character of a backslash and a letter. -/
def escaped? : Char → Option Char
  | '"' => some '"'
  | '\\' => some '\\'
  | '/' => some '/'
  | 'b' => some '\x08'
  | 'f' => some '\x0c'
  | 'n' => some '\n'
  | 'r' => some '\r'
  | 't' => some '\t'
  | _ => none

def isHighHalf (unit : Nat) : Bool := 0xd800 ≤ unit && unit < 0xdc00

def isLowHalf (unit : Nat) : Bool := 0xdc00 ≤ unit && unit < 0xe000

/-- A piece of a string: a character, or a unit given by its number. -/
inductive Piece where
  | char (c : Char)
  | unit (n : Nat)

/-- Reads the pieces of a string up to its closing quote. -/
def readPieces? : List Char → Option (List Piece × List Char)
  | [] => none
  | '"' :: rest => some ([], rest)
  | '\\' :: 'u' :: a :: b :: c :: d :: rest => do
    let n ← hexUnit? a b c d
    let (pieces, rest) ← readPieces? rest
    some (.unit n :: pieces, rest)
  | '\\' :: c :: rest => do
    let char ← escaped? c
    let (pieces, rest) ← readPieces? rest
    some (.char char :: pieces, rest)
  | c :: rest =>
    if c == '\\' || c.toNat < 0x20 then none
    else do
      let (pieces, rest) ← readPieces? rest
      some (.char c :: pieces, rest)

/-- The characters of some pieces, where two halves in a row are one character. `none` if a half
stands alone. -/
def joinPieces? : List Piece → Option (List Char)
  | [] => some []
  | .char c :: rest => (joinPieces? rest).map (c :: ·)
  | .unit high :: .unit low :: rest =>
    if isHighHalf high && isLowHalf low then
      (joinPieces? rest).map (Char.ofNat (0x10000 + (high - 0xd800) * 0x400 + (low - 0xdc00)) :: ·)
    else if isHighHalf high || isLowHalf high then none
    else (joinPieces? (.unit low :: rest)).map (Char.ofNat high :: ·)
  | .unit n :: rest =>
    if isHighHalf n || isLowHalf n then none
    else (joinPieces? rest).map (Char.ofNat n :: ·)

/-- The datum of a string with these pieces. -/
def stringDatum (pieces : List Piece) : Datum :=
  match joinPieces? pieces with
  | none => .unreadable
  | some cs => .text (String.ofList cs)

/-! ### Values -/

mutual

/-- Reads a value. The fuel bounds the values, items and entries that are begun. -/
def readValue? : Nat → List Char → Option (Datum × List Char)
  | 0, _ => none
  | fuel + 1, s =>
    match skipBlanks s with
    | 'n' :: 'u' :: 'l' :: 'l' :: rest => some (.null, rest)
    | 't' :: 'r' :: 'u' :: 'e' :: rest => some (.truth true, rest)
    | 'f' :: 'a' :: 'l' :: 's' :: 'e' :: rest => some (.truth false, rest)
    | '"' :: rest => (readPieces? rest).map fun (pieces, rest) => (stringDatum pieces, rest)
    | '[' :: rest =>
      match skipBlanks rest with
      | ']' :: rest => some (.list [], rest)
      | rest => (readItems? fuel rest).map fun (items, rest) => (.list items, rest)
    | c :: rest =>
      if c == openBrace then
        match skipBlanks rest with
        | d :: rest' =>
          if d == closeBrace then some (.table [], rest')
          else (readEntries? fuel rest).map fun (entries, rest) => (.table entries, rest)
        | [] => none
      else (readNumeral? (c :: rest)).map fun (n, rest) => (n.datum, rest)
    | [] => none

/-- Reads the items of a list that has some, up to its closing bracket. -/
def readItems? : Nat → List Char → Option (List Datum × List Char)
  | 0, _ => none
  | fuel + 1, s =>
    match readValue? fuel s with
    | none => none
    | some (item, rest) =>
      match skipBlanks rest with
      | ']' :: rest => some ([item], rest)
      | ',' :: rest => (readItems? fuel rest).map fun (items, rest) => (item :: items, rest)
      | _ => none

/-- Reads the entries of a table that has some, up to its closing brace. -/
def readEntries? : Nat → List Char → Option (List (Datum × Datum) × List Char)
  | 0, _ => none
  | fuel + 1, s =>
    match skipBlanks s with
    | '"' :: rest =>
      match readPieces? rest with
      | none => none
      | some (key, rest) =>
        match skipBlanks rest with
        | ':' :: rest =>
          match readValue? fuel rest with
          | none => none
          | some (value, rest) =>
            match skipBlanks rest with
            | ',' :: rest =>
              (readEntries? fuel rest).map fun (entries, rest) =>
                ((stringDatum key, value) :: entries, rest)
            | c :: rest => if c == closeBrace then some ([(stringDatum key, value)], rest) else none
            | [] => none
        | _ => none
    | _ => none

end

/-- White space before a value does not count. -/
theorem readValue?_congr {s t : List Char} (h : skipBlanks s = skipBlanks t) (fuel : Nat) :
    readValue? fuel s = readValue? fuel t := by
  cases fuel with
  | zero => rw [readValue?, readValue?]
  | succ fuel => rw [readValue?, readValue?, h]

/-- White space before the items of a list does not count. -/
theorem readItems?_congr {s t : List Char} (h : skipBlanks s = skipBlanks t) (fuel : Nat) :
    readItems? fuel s = readItems? fuel t := by
  cases fuel with
  | zero => rw [readItems?, readItems?]
  | succ fuel => rw [readItems?, readItems?, readValue?_congr h]

/-- White space before the entries of a table does not count. -/
theorem readEntries?_congr {s t : List Char} (h : skipBlanks s = skipBlanks t) (fuel : Nat) :
    readEntries? fuel s = readEntries? fuel t := by
  cases fuel with
  | zero => rw [readEntries?, readEntries?]
  | succ fuel => rw [readEntries?, readEntries?, h]

/-- The datum of a JSON text. Only white space may follow its value. -/
def read? (text : String) : Option Datum :=
  let s := text.toList
  match readValue? (2 * s.length + 2) s with
  | none => none
  | some (d, rest) => if (skipBlanks rest).isEmpty then some d else none

/-! ### Writing -/

/-- A character as a JSON string shows it. -/
def writeChar (c : Char) : List Char :=
  if c == '"' then ['\\', '"']
  else if c == '\\' then ['\\', '\\']
  else if c == '\x08' then ['\\', 'b']
  else if c == '\x0c' then ['\\', 'f']
  else if c == '\n' then ['\\', 'n']
  else if c == '\r' then ['\\', 'r']
  else if c == '\t' then ['\\', 't']
  else if c.toNat < 0x20 then
    ['\\', 'u', '0', '0', Nat.digitChar (c.toNat / 16), Nat.digitChar (c.toNat % 16)]
  else [c]

def writeString (s : String) : List Char :=
  '"' :: (s.toList.flatMap writeChar ++ ['"'])

def indentation (level : Nat) : List Char :=
  '\n' :: List.replicate (2 * level) ' '

mutual

/-- A datum at a level. Only what JSON has a form for is written, all else as `null`. -/
def writeAt (level : Nat) : Datum → List Char
  | .truth b => if b then "true".toList else "false".toList
  | .integer n => (toString n).toList
  | .signed n => (toString n).toList
  | .text s => writeString s
  | .list [] => ['[', ']']
  | .list (item :: items) =>
    '[' :: (indentation (level + 1) ++ writeAt (level + 1) item ++ writeItems level items)
  | .table [] => [openBrace, closeBrace]
  | .table ((key, value) :: entries) =>
    openBrace :: (indentation (level + 1) ++ writeAt (level + 1) key ++ ": ".toList
      ++ writeAt (level + 1) value ++ writeEntries level entries)
  | _ => "null".toList

/-- The items of a list after the first, and its closing bracket. -/
def writeItems (level : Nat) : List Datum → List Char
  | [] => indentation level ++ [']']
  | item :: items =>
    ',' :: (indentation (level + 1) ++ writeAt (level + 1) item ++ writeItems level items)

/-- The entries of a table after the first, and its closing brace. -/
def writeEntries (level : Nat) : List (Datum × Datum) → List Char
  | [] => indentation level ++ [closeBrace]
  | (key, value) :: entries =>
    ',' :: (indentation (level + 1) ++ writeAt (level + 1) key ++ ": ".toList
      ++ writeAt (level + 1) value ++ writeEntries level entries)

end

/-- The datum over several lines. -/
def write (d : Datum) : String :=
  String.ofList (writeAt 0 d)

end Json

end ChatCommand
