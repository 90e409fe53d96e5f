/-
Merging neighbours that read as one.

* `Context.merge?`: neighbours as one phrase, if it reads at least as well as any of them;
* `Sentence.findMerge?`: the first neighbours that merge, fewer before more and left before right;
* `Sentence.refactor`: merges until none is left;
* `Sentence.questions`: the spans that are read in the course of it.

A tie merges too: of "white" and "pass", both words of a map's name, and "white pass" the longer
span is the one that was meant.
-/
import ChatCommand.Sentence.Basic
import ChatCommand.Sentence.Repetition

namespace ChatCommand

/-- Some neighbours as one phrase, read by all stages up to one, if its preferred reading is at
least as similar as that of any of them. -/
def Context.merge? (ctx : Context) (stage : Stage) (window : List Phrase) : Option Phrase :=
  let merged := ctx.tokenizeText stage (joinText window)
  match merged.best? with
  | some best =>
    if Score.greatest (window.map Phrase.bestSimilarity) ≤ best.similarity then some merged
    else none
  | none => none

namespace Sentence

/-- The places of two or more neighbours, fewer before more and left before right: where they start
and how many they are. -/
def mergePlaces (s : Sentence) : List (Nat × Nat) :=
  (List.range' 2 (s.length - 1)).flatMap fun count => (s.offsets count).map fun offset =>
    (offset, count)

/-- The first neighbours that merge. -/
def findMerge? (ctx : Context) (stage : Stage) (s : Sentence) : Option Splice :=
  s.mergePlaces.findSome? fun (offset, count) =>
    (ctx.merge? stage (s.window offset count)).map fun phrase => { offset, count, phrase }

/-- The sentence after the first merge. -/
def mergeStep? (ctx : Context) (stage : Stage) (s : Sentence) : Option Sentence :=
  (s.findMerge? ctx stage).map s.splice

/-- Merges until none is left. The last stage recognizes nothing, so nothing merges in it. -/
def refactor (ctx : Context) (stage : Stage) (s : Sentence) : Progress :=
  if stage = .reduction then { sentence := s }
  else .ofRun .refactor ctx.budget (Repetition.run (mergeStep? ctx stage) ctx.budget s)

/-! ### What is read -/

/-- The elements of a list up to the first with some property, that one included. -/
def upToFirst {α : Type} (p : α → Bool) : List α → List α
  | [] => []
  | a :: rest => if p a then [a] else a :: upToFirst p rest

/-- The spans that are read in the search for the first merge. -/
def searchedSpans (ctx : Context) (stage : Stage) (s : Sentence) : List String :=
  let windows := s.mergePlaces.map fun (offset, count) => s.window offset count
  (upToFirst (fun w => (ctx.merge? stage w).isSome) windows).map joinText

/-- The spans that are read in the course of merging, each with the stages it is read in. -/
def questions (ctx : Context) (stage : Stage) (s : Sentence) : List (Stage × String) :=
  if stage = .reduction then []
  else
    (Repetition.trail (mergeStep? ctx stage) ctx.budget s).flatMap fun s =>
      (searchedSpans ctx stage s).flatMap fun text => stage.upTo.map fun t => (t, text)

end Sentence

end ChatCommand
