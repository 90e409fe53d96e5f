/-
Lower case.

* `lowerChar`: the small form of one character; a dotted capital I becomes two characters;
* `lowercase`: the small form of a text, where a capital sigma that ends a word becomes the
  final form of the letter;
* `equalsIgnoringAsciiCase`: equality up to the case of the letters a to z.
-/
import ChatCommand.Text.LetterCase

namespace ChatCommand.Text

/-- The small letter of the code point `n` by the runs number `lo` to `hi - 1`, if one holds
it. -/
def lowerBetween (runs : Array LowerRun) (n lo hi : Nat) : Option Nat :=
  if _h : lo < hi then
    let mid := (lo + hi) / 2
    match runs[mid]? with
    | none => none
    | some run =>
      if n < run.first then lowerBetween runs n lo mid
      else if run.last < n then lowerBetween runs n (mid + 1) hi
      else if (n - run.first) % run.step == 0 then some (run.lower + (n - run.first)) else none
  else none
termination_by hi - lo
decreasing_by all_goals omega

/-- The small form of a character apart from its neighbours. -/
def lowerChar (c : Char) : List Char :=
  if c.toNat < 0x80 then [c.toLower]
  else if c.toNat == 0x130 then ['i', '\u0307']
  else
    match lowerBetween lowerRuns c.toNat 0 lowerRuns.size with
    | some n => [Char.ofNat n]
    | none => [c]

def isCased (c : Char) : Bool :=
  casedRanges.contains c.toNat

def isCaseIgnorable (c : Char) : Bool :=
  caseIgnorableRanges.contains c.toNat

/-- Whether the first character that is not looked through has a case. -/
def meetsCased (s : List Char) : Bool :=
  match s.dropWhile isCaseIgnorable with
  | [] => false
  | c :: _ => isCased c

/-- The small form of a text whose beginning, in reverse, is `before`. -/
def lowercaseFrom (before : List Char) : List Char → List Char
  | [] => []
  | c :: rest =>
    let small :=
      if c == 'Σ' then
        if meetsCased before && !meetsCased rest then ['ς'] else ['σ']
      else lowerChar c
    small ++ lowercaseFrom (c :: before) rest

/-- The small form of a text. -/
def lowercaseChars (s : List Char) : List Char :=
  if s.all (fun c => c.toNat < 0x80) then s.map Char.toLower else lowercaseFrom [] s

/-- The small form of a text. -/
def lowercase (s : String) : String :=
  String.ofList (lowercaseChars s.toList)

/-- Equality up to the case of the letters a to z. -/
def equalsIgnoringAsciiCase (a b : String) : Bool :=
  a.toList.map Char.toLower == b.toList.map Char.toLower

end ChatCommand.Text
