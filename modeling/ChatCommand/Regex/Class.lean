/-
Reading classes of characters.

* `escapedChar?`, `classEscape?`: what a backslash and the character behind it stand for;
* `ClassPart`: a set of characters that has been read, and how deep it is nested;
* `readClass?`: a class in brackets.

A class is made of characters, ranges, named classes and classes in brackets. Two ampersands, hyphens
or tildes keep what is common to both sides, what is only on the left, or what is on one side only;
they are taken from left to right.
-/
import ChatCommand.Regex.CharSet

namespace ChatCommand

namespace Regex

/-! ### Escapes -/

/-- The control character of a letter behind a backslash. -/
def controlEscape? : Char → Option Char
  | 'n' => some '\n'
  | 't' => some '\t'
  | 'r' => some '\r'
  | 'f' => some '\x0c'
  | 'v' => some '\x0b'
  | 'a' => some '\x07'
  | _ => none

/-- The class of a letter behind a backslash. -/
def classEscape? : Char → Option CharSet
  | 'd' => some .digits
  | 'D' => some CharSet.digits.complement
  | 's' => some .blanks
  | 'S' => some CharSet.blanks.complement
  | _ => none

/-- Marks that stand for themselves behind a backslash: ASCII characters but letters, digits and
angle brackets. -/
def isEscapable (c : Char) : Bool :=
  c.toNat < 0x80 && !c.isAlphanum && c != '<' && c != '>'

/-- The character of a backslash and the character behind it. -/
def escapedChar? (c : Char) : Option Char :=
  if isEscapable c then some c else controlEscape? c

/-! ### Named classes -/

/-- The classes of ASCII characters that have names. -/
def namedClass? : String → Option CharSet
  | "alnum" => some ⟨[(0x30, 0x39), (0x41, 0x5a), (0x61, 0x7a)]⟩
  | "alpha" => some ⟨[(0x41, 0x5a), (0x61, 0x7a)]⟩
  | "ascii" => some ⟨[(0x00, 0x7f)]⟩
  | "blank" => some ⟨[(0x09, 0x09), (0x20, 0x20)]⟩
  | "cntrl" => some ⟨[(0x00, 0x1f), (0x7f, 0x7f)]⟩
  | "digit" => some ⟨[(0x30, 0x39)]⟩
  | "graph" => some ⟨[(0x21, 0x7e)]⟩
  | "lower" => some ⟨[(0x61, 0x7a)]⟩
  | "print" => some ⟨[(0x20, 0x7e)]⟩
  | "punct" => some ⟨[(0x21, 0x2f), (0x3a, 0x40), (0x5b, 0x60), (0x7b, 0x7e)]⟩
  | "space" => some ⟨[(0x09, 0x0d), (0x20, 0x20)]⟩
  | "upper" => some ⟨[(0x41, 0x5a)]⟩
  | "word" => some ⟨[(0x30, 0x39), (0x41, 0x5a), (0x5f, 0x5f), (0x61, 0x7a)]⟩
  | "xdigit" => some ⟨[(0x30, 0x39), (0x41, 0x46), (0x61, 0x66)]⟩
  | _ => none

/-- Reads a named class behind its opening bracket: a name between colons, all other characters if
a circumflex stands before it. -/
def readNamedClass? : List Char → Option (CharSet × List Char)
  | ':' :: s => do
    let (negated, s) :=
      match s with
      | '^' :: rest => (true, rest)
      | s => (false, s)
    let (name, rest) := s.span (· != ':')
    match rest with
    | ':' :: ']' :: rest =>
      let set ← namedClass? (String.ofList name)
      some (if negated then set.complement else set, rest)
    | _ => none
  | _ => none

/-! ### Parts of classes -/

/-- A set of characters that has been read. -/
structure ClassPart where
  set : CharSet
  /-- How deep brackets, operations and rows of several parts are nested in it. -/
  depth : Nat := 0

namespace ClassPart

/-- The parts in a row: the characters of any of them. -/
def row : List ClassPart → ClassPart
  | [p] => p
  | [] => ⟨.empty, 0⟩
  | parts => ⟨.unions (parts.map set), (parts.map depth).foldl max 0 + 1⟩

def bracketed (negated : Bool) (p : ClassPart) : ClassPart :=
  ⟨if negated then p.set.complement else p.set, p.depth + 1⟩

end ClassPart

/-- An operation on two classes. -/
inductive ClassOperation where
  | intersection
  | difference
  | symmetricDifference

/-- The operation of a mark that is written twice. -/
def ClassOperation.ofMark? : Char → Option ClassOperation
  | '&' => some .intersection
  | '-' => some .difference
  | '~' => some .symmetricDifference
  | _ => none

def ClassOperation.combine (op : ClassOperation) (a b : ClassPart) : ClassPart where
  set :=
    match op with
    | .intersection => a.set.inter b.set
    | .difference => a.set.diff b.set
    | .symmetricDifference => (a.set.union b.set).diff (a.set.inter b.set)
  depth := max a.depth b.depth + 1

/-- One sign in a class: a character, or the letter of a class behind a backslash. -/
inductive ClassSign where
  | char (c : Char)
  | set (s : CharSet)

def ClassSign.part : ClassSign → ClassPart
  | char c => ⟨.singleton c, 0⟩
  | set s => ⟨s, 0⟩

/-- Reads one sign. -/
def readSign? : List Char → Option (ClassSign × List Char)
  | '\\' :: c :: rest =>
    match escapedChar? c with
    | some c => some (.char c, rest)
    | none => (classEscape? c).map fun s => (.set s, rest)
  | ['\\'] => none
  | c :: rest => some (.char c, rest)
  | [] => none

/-- Reads one sign, or a range of characters. A hyphen before a bracket or another hyphen makes no
range. -/
def readRange? (s : List Char) : Option (ClassPart × List Char) := do
  let (first, rest) ← readSign? s
  match rest with
  | '-' :: ']' :: _ => some (first.part, rest)
  | '-' :: '-' :: _ => some (first.part, rest)
  | '-' :: rest => do
    let (last, rest) ← readSign? rest
    match first, last with
    | .char a, .char b => if a ≤ b then some (⟨.range a b, 0⟩, rest) else none
    | _, _ => none
  | _ => some (first.part, rest)

/-- Reads the hyphens and the closing bracket that stand for themselves at the start of a class. -/
def readLeading (parts : List ClassPart) : List Char → List ClassPart × List Char
  | '-' :: rest => readLeading (parts ++ [⟨.singleton '-', 0⟩]) rest
  | ']' :: rest => if parts.isEmpty then ([⟨.singleton ']', 0⟩], rest) else (parts, ']' :: rest)
  | s => (parts, s)

/-! ### Classes -/

mutual

/-- Reads a class behind its opening bracket. -/
def readClass? : Nat → List Char → Option (ClassPart × List Char)
  | 0, _ => none
  | fuel + 1, s => do
    let (negated, s) :=
      match s with
      | '^' :: rest => (true, rest)
      | s => (false, s)
    let (leading, s) := readLeading [] s
    let (whole, rest) ← readClassParts? fuel id leading s
    some (whole.bracketed negated, rest)

/-- Reads the rest of a class behind some parts in a row. `left` joins what stands before the last
operation to the row. -/
def readClassParts? :
    Nat → (ClassPart → ClassPart) → List ClassPart → List Char → Option (ClassPart × List Char)
  | 0, _, _, _ => none
  | fuel + 1, left, parts, s =>
    match s with
    | ']' :: rest => some (left (.row parts), rest)
    | '[' :: rest =>
      match readNamedClass? rest with
      | some (set, rest) => readClassParts? fuel left (parts ++ [⟨set, 0⟩]) rest
      | none => do
        let (inner, rest) ← readClass? fuel rest
        readClassParts? fuel left (parts ++ [inner]) rest
    | c :: d :: rest =>
      match if c = d then ClassOperation.ofMark? c else none with
      | some op => readClassParts? fuel (op.combine (left (.row parts))) [] rest
      | none => do
        let (part, rest) ← readRange? (c :: d :: rest)
        readClassParts? fuel left (parts ++ [part]) rest
    | _ => none

end

end Regex

end ChatCommand
