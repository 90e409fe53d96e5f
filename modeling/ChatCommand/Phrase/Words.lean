/-
The words of an input.

* `splitWords`: the words, in lower case apart from quoted text;
* `readWords`: the scan, with the word being read in reverse;
* `splitMeridiem?`: a clock time that ends in `am` or `pm`, in two;
* `closeWord`: what a finished word contributes;
* `readWords_cons`, `readQuoted_cons`: what the next character does.

White space separates words. Quoted text is one word, with its quotes. Brackets, commas, marks and
operators are words of their own, and `<=`, `>=`, `!=` and `==` stay together. Points and colons
separate words except between digits.
-/
import ChatCommand.Text.Blank
import ChatCommand.Text.Lowercase

namespace ChatCommand

open Text (isBlank lowercaseChars)

/-- Splits `am` or `pm` off a clock time: a digit, then digits and colons. -/
def splitMeridiem? (word : List Char) : Option (List Char × List Char) :=
  match word.reverse with
  | 'm' :: half :: time =>
    if (half == 'a' || half == 'p') && !time.isEmpty && time.getLast?.all Char.isDigit
        && time.all (fun c => c.isDigit || c == ':') then
      some (time.reverse, [half, 'm'])
    else none
  | _ => none

/-- The words of a finished one, given in reverse: none if it is empty, and two if it is a clock
time with its half of the day. -/
def closeWord (word : List Char) : List (List Char) :=
  if word.isEmpty then []
  else
    let small := lowercaseChars word.reverse
    match splitMeridiem? small with
    | some (time, half) => [time, half]
    | none => [small]

/-- Marks that are words of their own. -/
def isMark (c : Char) : Bool :=
  ['(', ')', ',', '?', '+', '*', '/', '^'].contains c

/-- Marks that are words of their own, or with an equals sign behind them. -/
def isComparison (c : Char) : Bool :=
  ['<', '>', '=', '!'].contains c

/-- Whether a point or colon after `word` and before `rest` stands between digits. -/
def isBetweenDigits (word rest : List Char) : Bool :=
  word.head?.any Char.isDigit && rest.head?.any Char.isDigit

mutual

/-- The words of an input of which `word` has been read of the next, in reverse. -/
def readWords (word : List Char) : List Char → List (List Char)
  | [] => closeWord word
  | c :: rest =>
    if c == '"' then closeWord word ++ readQuoted ['"'] rest
    else if isBlank c then closeWord word ++ readWords [] rest
    else if c == '.' || c == ':' then
      if isBetweenDigits word rest then readWords (c :: word) rest
      else closeWord word ++ [c] :: readWords [] rest
    else if isMark c then closeWord word ++ [c] :: readWords [] rest
    else if isComparison c then
      match rest with
      | [] => closeWord word ++ [[c]]
      | d :: behind =>
        if d == '=' then closeWord word ++ [c, d] :: readWords [] behind
        else closeWord word ++ [c] :: readWords [] (d :: behind)
    else readWords (c :: word) rest

/-- The words of an input within a quotation, given in reverse. A quotation without end reaches to
the end of the input. -/
def readQuoted (quotation : List Char) : List Char → List (List Char)
  | [] => [('"' :: quotation).reverse]
  | c :: rest =>
    if c == '"' then ('"' :: quotation).reverse :: readWords [] rest
    else readQuoted (c :: quotation) rest

end

theorem readWords_nil (word : List Char) : readWords word [] = closeWord word := rfl

/-- What the next character does to the word being read. -/
theorem readWords_cons (word rest : List Char) (c : Char) :
    readWords word (c :: rest) =
      if c == '"' then closeWord word ++ readQuoted ['"'] rest
      else if isBlank c then closeWord word ++ readWords [] rest
      else if c == '.' || c == ':' then
        if isBetweenDigits word rest then readWords (c :: word) rest
        else closeWord word ++ [c] :: readWords [] rest
      else if isMark c then closeWord word ++ [c] :: readWords [] rest
      else if isComparison c then
        match rest with
        | [] => closeWord word ++ [[c]]
        | d :: behind =>
          if d == '=' then closeWord word ++ [c, d] :: readWords [] behind
          else closeWord word ++ [c] :: readWords [] (d :: behind)
      else readWords (c :: word) rest := by
  cases rest <;> rfl

theorem readQuoted_nil (quotation : List Char) :
    readQuoted quotation [] = [('"' :: quotation).reverse] := rfl

theorem readQuoted_cons (quotation rest : List Char) (c : Char) :
    readQuoted quotation (c :: rest) =
      if c == '"' then ('"' :: quotation).reverse :: readWords [] rest
      else readQuoted (c :: quotation) rest := rfl

/-- The words of an input. -/
def splitWords (input : String) : List String :=
  (readWords [] input.toList).map String.ofList

end ChatCommand
