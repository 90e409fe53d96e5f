/-
Timestamps: an instant as date, time and offset from Greenwich.

* `Timestamp.read?`: reads year, month, day, a separator, the time with a fraction of a second, and
  the offset; white space may stand between the parts;
* `Timestamp.write`: the instant in Greenwich time, with 0, 3, 6 or 9 digits of the fraction;
* `Timestamp.writeSeconds`: date and time without the fraction.
-/
import ChatCommand.Text.Blank
import ChatCommand.Time.Instant

namespace ChatCommand

namespace Timestamp

open Text (isBlank trimStart)

/-! ### Reading -/

/-- The number of a run of ASCII digits. -/
def numberOf (digits : List Char) : Nat :=
  digits.foldl (fun n c => n * 10 + (c.toNat - '0'.toNat)) 0

/-- Reads one to `width` digits. -/
def readNumber? (width : Nat) (s : List Char) : Option (Nat × List Char) :=
  let digits := (s.take width).takeWhile Char.isDigit
  if digits.isEmpty then none else some (numberOf digits, s.drop digits.length)

/-- Reads any number of digits, but at least one. -/
def readLongNumber? (s : List Char) : Option (Nat × List Char) :=
  readNumber? s.length s

/-- Reads a year: up to four digits, or any number of them behind a sign. -/
def readYear? (s : List Char) : Option (Int × List Char) :=
  match trimStart s with
  | '-' :: rest => (readLongNumber? rest).map fun (n, rest) => (-(n : Int), rest)
  | '+' :: rest => (readLongNumber? rest).map fun (n, rest) => ((n : Int), rest)
  | s => (readNumber? 4 s).map fun (n, rest) => ((n : Int), rest)

/-- Reads one or two digits, with white space before them. -/
def readField? (s : List Char) : Option (Nat × List Char) :=
  readNumber? 2 (trimStart s)

/-- Reads a mark, with white space before it. -/
def readMark? (mark : Char) (s : List Char) : Option (List Char) :=
  match trimStart s with
  | c :: rest => if c = mark then some rest else none
  | [] => none

/-- Reads a fraction of a second if there is a point: digits, of which nine count. -/
def readFraction? : List Char → Option (Nat × List Char)
  | '.' :: s =>
    let digits := s.takeWhile Char.isDigit
    if digits.isEmpty then none
    else
      let counted := digits.take 9
      some (numberOf counted * Nat.pow 10 (9 - counted.length), s.drop digits.length)
  | s => some (0, s)

/-- Two digits as a number. -/
def twoDigits? (a b : Char) : Option Nat :=
  if a.isDigit && b.isDigit then some (numberOf [a, b]) else none

/-- Reads an offset from Greenwich in seconds: `Z`, `UTC` in any case, or a sign, two digits of
hours and two of minutes, with colons and white space between them. -/
def readOffset? (s : List Char) : Option (Int × List Char) :=
  match s with
  | 'Z' :: rest => some (0, rest)
  | 'z' :: rest => some (0, rest)
  | u :: t :: c :: rest =>
    if u.toLower = 'u' && t.toLower = 't' && c.toLower = 'c' then some (0, rest)
    else if u = '+' || u = '-' || u = '\u2212' then do
      let hours ← twoDigits? t c
      match rest.dropWhile (fun d => d = ':' || isBlank d) with
      | m :: n :: rest =>
        let minutes ← twoDigits? m n
        let seconds : Int := hours * 3600 + minutes * 60
        if minutes < 60 && hours < 24 then some (if u = '+' then seconds else -seconds, rest)
        else none
      | _ => none
    else none
  | _ => none

/-- Reads a date. -/
def readDate? (s : List Char) : Option (Date × List Char) := do
  let (year, s) ← readYear? s
  let (month, s) ← readField? (← readMark? '-' s)
  let (day, s) ← readField? (← readMark? '-' s)
  some (← Date.ofYmd? year month day, s)

/-- Reads a time of day, in nanoseconds. -/
def readTime? (s : List Char) : Option (Int × List Char) := do
  let (hour, s) ← readField? s
  let (minute, s) ← readField? (← readMark? ':' s)
  let (second, s) ← readField? (← readMark? ':' s)
  let (nanos, s) ← readFraction? s
  if hour < 24 && minute < 60 && second < 60 then
    some (((hour * 3600 + minute * 60 + second : Nat) : Int) * nanosPerSecond + nanos, s)
  else none

/-- The instant of a timestamp. -/
def read? (text : String) : Option Instant := do
  let (date, s) ← readDate? text.toList
  match s with
  | [] => none
  | separator :: s =>
    if separator = 'T' || separator = 't' || separator = ' ' then do
      let (nanos, s) ← readTime? s
      let (offset, s) ← readOffset? (trimStart s)
      let greenwich : Instant := ⟨(Instant.ofDate date nanos).total - offset * nanosPerSecond⟩
      if (trimStart s).isEmpty && decide greenwich.HasDate then some greenwich else none
    else none

/-! ### Writing -/

/-- A number with zeros before it up to some width. -/
def padded (width n : Nat) : List Char :=
  let digits := Nat.toDigits 10 n
  List.replicate (width - digits.length) '0' ++ digits

/-- A year in at least four digits, with a sign unless it lies between 0 and 9999. -/
def writeYear (year : Int) : List Char :=
  if 0 ≤ year ∧ year ≤ 9999 then padded 4 year.toNat
  else if 0 ≤ year then '+' :: padded 4 year.toNat
  else '-' :: padded 4 year.natAbs

def writeDate (d : Date) : List Char :=
  writeYear d.year ++ '-' :: padded 2 d.month ++ '-' :: padded 2 d.day

/-- Hours, minutes and seconds of a number of nanoseconds since midnight. -/
def writeTime (nanosOfDay : Int) : List Char :=
  let seconds := (nanosOfDay / nanosPerSecond).toNat
  padded 2 (seconds / 3600) ++ ':' :: padded 2 (seconds / 60 % 60) ++ ':' :: padded 2 (seconds % 60)

/-- A fraction of a second in the fewest of 0, 3, 6 and 9 digits. -/
def writeFraction (nanos : Nat) : List Char :=
  if nanos = 0 then []
  else if nanos % 1000000 = 0 then '.' :: padded 3 (nanos / 1000000)
  else if nanos % 1000 = 0 then '.' :: padded 6 (nanos / 1000)
  else '.' :: padded 9 nanos

/-- The instant in Greenwich time. -/
def write (i : Instant) : String :=
  String.ofList (writeDate i.date ++ 'T' :: writeTime i.nanosOfDay
    ++ writeFraction i.subsecond.toNat ++ ['Z'])

/-- Date and time in Greenwich, without the fraction of a second. -/
def writeSeconds (i : Instant) : String :=
  String.ofList (writeDate i.date ++ ' ' :: writeTime i.nanosOfDay)

end Timestamp

end ChatCommand
