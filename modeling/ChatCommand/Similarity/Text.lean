/-
Similarity of texts, whatever their case.

* `similarity`: the share of the longer text that the edit distance leaves;
* `singular`: a word without its plural or possessive ending;
* `singularSimilarity`: the better of the similarity as written and that of the singulars;
* `partialSimilarity`: the similarity with a bonus for a beginning or a part of the words.
-/
import ChatCommand.Score
import ChatCommand.Similarity.EditDistance
import ChatCommand.Text.Blank
import ChatCommand.Text.Lowercase

namespace ChatCommand

open Text

section Scaled

variable {σ : Type} [Scale σ]

/-- The similarity of two texts in lower case. -/
def agreement (a b : List Char) : σ :=
  if a = b then Scale.full
  else Scale.ofDistance (editDistance a b) (max a.length b.length)

/-- The similarity of two texts, whatever their case. -/
def similarity (a b : String) : σ :=
  agreement (lowercaseChars a.toList) (lowercaseChars b.toList)

end Scaled

/-! ### Plurals -/

/-- The end of a word in reverse, without a plural or possessive ending. -/
def singularReversed : List Char → List Char
  | 's' :: '\'' :: stem => stem
  | '\'' :: 's' :: stem => stem
  | word =>
    if word.length ≤ 3 then word
    else
      match word with
      | 's' :: 'e' :: 'i' :: stem => 'y' :: stem
      | 's' :: 's' :: stem => 's' :: 's' :: stem
      | 's' :: stem => stem
      | _ => word

/-- The text in lower case without white space around it and without a plural or possessive
ending. Three characters or fewer lose only a possessive. -/
def singular (s : String) : String :=
  String.ofList (singularReversed (trim (lowercaseChars s.toList)).reverse).reverse

section Scaled

variable {σ : Type} [Scale σ]

/-- The better of the similarity as written and the similarity of the singulars. -/
def singularSimilarity (a b : String) : σ :=
  let written : σ := similarity a b
  if Scale.isFull written then written else max written (similarity (singular a) (singular b))

end Scaled

/-! ### Partial texts -/

/-- The length of the longest common beginning. -/
def sharedPrefixLength : List Char → List Char → Nat
  | x :: xs, y :: ys => if x == y then sharedPrefixLength xs ys + 1 else 0
  | _, _ => 0

/-- The length of the shorter text if it has words and all of them are words of the longer,
else 0. Of two texts of one length the first counts as the shorter. -/
def sharedWordsLength (a b : List Char) : Nat :=
  let (short, long) := if a.length ≤ b.length then (a, b) else (b, a)
  let words := splitBlanks short
  if words.isEmpty then 0
  else if words.all (splitBlanks long).contains then short.length else 0

/-- The similarity with a bonus for what the shorter text covers of the longer. -/
def partialSimilarity {σ : Type} [Scale σ] (text candidate : String) : σ :=
  let base : σ := similarity text candidate
  if Scale.isFull base then base
  else
    let a := lowercaseChars text.toList
    let b := lowercaseChars candidate.toList
    if a.isEmpty || b.isEmpty then base
    else
      Scale.raised base (max (sharedPrefixLength a b) (sharedWordsLength a b))
        (max a.length b.length)

end ChatCommand
