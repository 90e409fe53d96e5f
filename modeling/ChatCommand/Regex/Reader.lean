/-
Reading regular expressions.

* `Regex.read?`: the expression of a text, `none` if it is not well-formed.

An expression is made of alternatives with bars between them; an alternative of pieces, each with
its marks of repetition; a piece of a character, a class, a point, a group or an end of the text. A
mark of repetition needs a piece before it, a group its closing bracket, and the names of groups
must differ. What is nested too deep or repeated too often is refused.
-/
import ChatCommand.Regex.Assembly
import ChatCommand.Regex.Class
import ChatCommand.Text.Letter

namespace ChatCommand

namespace Regex

/-! ### Repetition -/

/-- The greatest number of rounds that can be asked for. -/
def countLimit : Nat := 0xffffffff

/-- Reads a number of rounds, with white space around it. -/
def readCount? (s : List Char) : Option (Nat × List Char) :=
  let (digits, rest) := (Text.trimStart s).span Char.isDigit
  let count := digits.foldl (fun n c => n * 10 + (c.toNat - '0'.toNat)) 0
  if digits.isEmpty || countLimit < count then none else some (count, Text.trimStart rest)

/-- Whether a repetition is greedy: a question mark behind it says no. -/
def readGreed : List Char → Bool × List Char
  | '?' :: rest => (false, rest)
  | s => (true, s)

/-- Reads the numbers of rounds behind an opening brace. -/
def readRounds? (s : List Char) : Option ((Nat × Option Nat) × List Char) := do
  let (least, s) ← readCount? s
  match s with
  | ',' :: s =>
    match s with
    | c :: rest =>
      if c = '\x7d' then some ((least, none), rest)
      else do
        let (most, s) ← readCount? s
        match s with
        | c :: rest => if c = '\x7d' ∧ least ≤ most then some ((least, some most), rest) else none
        | [] => none
    | [] => none
  | c :: rest => if c = '\x7d' then some ((least, some least), rest) else none
  | [] => none

/-- Reads a mark of repetition, `some none` if there is none. -/
def readRepetition? : List Char → Option (Option ((Nat × Option Nat) × List Char))
  | '*' :: rest => some (some ((0, none), rest))
  | '+' :: rest => some (some ((1, none), rest))
  | '?' :: rest => some (some ((0, some 1), rest))
  | c :: rest => if c = '\x7b' then (readRounds? rest).map some else some none
  | [] => some none

/-! ### Groups -/

def isNameStart (c : Char) : Bool := Text.isLetter c || c == '_'

def isNameRest (c : Char) : Bool :=
  Text.isLetterOrNumber c || c == '_' || c == '.' || c == '[' || c == ']'

/-- Reads the name of a group up to its closing angle bracket. -/
def readName? (s : List Char) : Option (String × List Char) :=
  let (name, rest) := s.span (· != '>')
  match name, rest with
  | c :: cs, _ :: rest =>
    if isNameStart c && cs.all isNameRest then some (String.ofList name, rest) else none
  | _, _ => none

/-- What an opening bracket begins. -/
inductive GroupHead where
  /-- Brackets that only hold a part together. -/
  | plain
  | group (name : Option String)

/-- Reads what follows the opening bracket of a group: a name, a mark for mere brackets, or
nothing. -/
def readGroupHead? : List Char → Option (GroupHead × List Char)
  | '?' :: ':' :: rest => some (.plain, rest)
  | '?' :: 'P' :: '<' :: rest => (readName? rest).map fun (name, rest) => (.group name, rest)
  | '?' :: '<' :: rest => (readName? rest).map fun (name, rest) => (.group name, rest)
  | '?' :: _ => none
  | s => some (.group none, s)

/-! ### Parts -/

/-- A part of an expression that has been read. -/
structure Part where
  expression : Regex
  /-- How deep brackets, repetitions, sequences and alternatives are nested in it. -/
  depth : Nat := 0
  /-- The names of its groups, in order. -/
  names : List String := []

namespace Part

/-- The depth of several parts put together. -/
def depthOf : List Part → Nat
  | [] => 0
  | [p] => p.depth
  | parts => (parts.map depth).foldl max 0 + 1

def sequence (parts : List Part) : Part :=
  ⟨.sequence (parts.map expression), depthOf parts, parts.flatMap names⟩

def alternatives (parts : List Part) : Part :=
  ⟨.alternatives (parts.map expression), depthOf parts, parts.flatMap names⟩

def repeated (least : Nat) (most : Option Nat) (greedy : Bool) (p : Part) : Part :=
  ⟨.repeated least most greedy p.expression, p.depth + 1, p.names⟩

def bracketed (p : Part) : GroupHead → Part
  | .plain => { p with depth := p.depth + 1 }
  | .group name => ⟨.group name p.expression, p.depth + 1, name.toList ++ p.names⟩

def ofClass (p : ClassPart) : Part := ⟨ofSet p.set, p.depth, []⟩

end Part

/-- Reads the marks of repetition behind a piece. -/
def readRepetitions? : Nat → Part → List Char → Option (Part × List Char)
  | 0, p, s => some (p, s)
  | fuel + 1, p, s => do
    match ← readRepetition? s with
    | none => some (p, s)
    | some ((least, most), rest) =>
      let (greedy, rest) := readGreed rest
      readRepetitions? fuel (p.repeated least most greedy) rest

/-! ### Expressions -/

mutual

/-- Reads alternatives up to a closing bracket or the end. -/
def readAlternatives? : Nat → List Char → Option (List Part × List Char)
  | 0, _ => none
  | fuel + 1, s => do
    let (pieces, s) ← readPieces? fuel s
    match s with
    | '|' :: rest =>
      let (others, rest) ← readAlternatives? fuel rest
      some (.sequence pieces :: others, rest)
    | s => some ([.sequence pieces], s)

/-- Reads pieces up to a bar, a closing bracket or the end. -/
def readPieces? : Nat → List Char → Option (List Part × List Char)
  | 0, _ => none
  | fuel + 1, s =>
    match s with
    | [] => some ([], [])
    | '|' :: _ => some ([], s)
    | ')' :: _ => some ([], s)
    | _ => do
      let (piece, s) ← readPiece? fuel s
      let (piece, s) ← readRepetitions? s.length piece s
      let (others, s) ← readPieces? fuel s
      some (piece :: others, s)

/-- Reads one piece without its marks of repetition. -/
def readPiece? : Nat → List Char → Option (Part × List Char)
  | 0, _ => none
  | fuel + 1, s =>
    match s with
    | [] => none
    | '(' :: rest => do
      let (head, rest) ← readGroupHead? rest
      let (inner, rest) ← readAlternatives? fuel rest
      match rest with
      | ')' :: rest => some ((Part.alternatives inner).bracketed head, rest)
      | _ => none
    | '[' :: rest => (readClass? (2 * rest.length + 2) rest).map fun (p, rest) => (.ofClass p, rest)
    | '.' :: rest => some (⟨anyChar, 0, []⟩, rest)
    | '^' :: rest => some (⟨textStart, 0, []⟩, rest)
    | '$' :: rest => some (⟨textEnd, 0, []⟩, rest)
    | '\\' :: 'A' :: rest => some (⟨textStart, 0, []⟩, rest)
    | '\\' :: 'z' :: rest => some (⟨textEnd, 0, []⟩, rest)
    | '\\' :: c :: rest =>
      match escapedChar? c with
      | some c => some (⟨literal c, 0, []⟩, rest)
      | none => (classEscape? c).map fun set => (⟨ofSet set, 0, []⟩, rest)
    | c :: rest =>
      if ['\\', '*', '+', '?', '\x7b'].contains c then none else some (⟨literal c, 0, []⟩, rest)

end

/-- How deep an expression may be nested. -/
def depthLimit : Nat := 250

/-- How many nodes an expression may need. -/
def weightLimit : Nat := 0x50000

/-- Whether a part may be a whole expression. -/
def Part.isAcceptable (p : Part) : Bool :=
  p.depth ≤ depthLimit && p.expression.weight ≤ weightLimit
    && p.names.eraseDups.length == p.names.length

/-- The expression of a text. -/
def read? (text : String) : Option Regex :=
  let s := text.toList
  match readAlternatives? (3 * s.length + 3) s with
  | some (parts, []) =>
    let whole := Part.alternatives parts
    if whole.isAcceptable then some whole.expression else none
  | _ => none

end Regex

end ChatCommand
