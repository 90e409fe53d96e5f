/-
Sentences.

* `Sentence`: the phrases of an input, in order;
* `Sentence.ofWords`, `Sentence.ofText`: one phrase for each word, in which nothing has been read;
* `Sentence.tokenize`: every phrase with its tokens of one more stage;
* `Splice`, `Sentence.splice`: one phrase in the place of several neighbours;
* `Progress`: a sentence, with what stopped the work on it if something did;
* `Sentence.length_splice`, `Sentence.take_append_window_append_drop`: what a splice replaces.
-/
import ChatCommand.Phrase.Words
import ChatCommand.Sentence.Context

namespace ChatCommand

/-- The phrases of an input, in order. -/
abbrev Sentence := List Phrase

/-- One phrase in the place of some neighbours. -/
structure Splice where
  /-- How many phrases stand before the place. -/
  offset : Nat
  /-- How many phrases are replaced. -/
  count : Nat
  phrase : Phrase

namespace Sentence

/-- One phrase for each word, in which nothing has been read. -/
def ofWords (words : List String) : Sentence :=
  words.map fun word => { text := word }

def ofText (input : String) : Sentence :=
  ofWords (splitWords input)

/-- The text of the whole sentence. -/
def text (s : Sentence) : String := joinText s

/-- Every phrase with its tokens of one more stage. -/
def tokenize (ctx : Context) (stage : Stage) (s : Sentence) : Sentence :=
  s.map (ctx.readPhrase · stage)

/-- Neighbours of a sentence: `count` phrases behind the first `offset`. -/
def window (s : Sentence) (offset count : Nat) : List Phrase :=
  (s.drop offset).take count

/-- The places at which so many neighbours stand. -/
def offsets (s : Sentence) (count : Nat) : List Nat :=
  if count ≤ s.length then List.range (s.length - count + 1) else []

def splice (s : Sentence) (r : Splice) : Sentence :=
  s.take r.offset ++ r.phrase :: s.drop (r.offset + r.count)

theorem length_window (s : Sentence) (offset count : Nat) :
    (s.window offset count).length = min count (s.length - offset) := by
  simp [window]

/-- The places of so many neighbours are those with so many phrases behind them. -/
theorem mem_offsets {s : Sentence} {count offset : Nat} :
    offset ∈ s.offsets count ↔ offset + count ≤ s.length := by
  unfold offsets
  split
  · rw [List.mem_range]
    omega
  · simp only [List.not_mem_nil, false_iff]
    omega

/-- A sentence is what stands before a window, the window, and what stands behind it. -/
theorem take_append_window_append_drop (s : Sentence) (offset count : Nat) :
    s.take offset ++ s.window offset count ++ s.drop (offset + count) = s := by
  rw [window, List.append_assoc, ← List.drop_drop, List.take_append_drop, List.take_append_drop]

/-- A splice takes as many phrases away as it replaces, and adds one. -/
theorem length_splice {s : Sentence} {r : Splice} (h : r.offset + r.count ≤ s.length) :
    (s.splice r).length + r.count = s.length + 1 := by
  simp only [splice, List.length_append, List.length_take, List.length_cons, List.length_drop]
  omega

@[simp]
theorem length_tokenize (ctx : Context) (stage : Stage) (s : Sentence) :
    (s.tokenize ctx stage).length = s.length := by
  simp [tokenize]

end Sentence

/-- A sentence, with what stopped the work on it if something did. -/
structure Progress where
  sentence : Sentence
  fault? : Option Fault := none

/-- The result of a loop with a budget. -/
def Progress.ofRun (loop : Loop) (budget : Nat) : Sentence × Bool → Progress
  | (sentence, exceeded) =>
    { sentence, fault? := if exceeded then some (.budgetExceeded loop.name budget) else none }

/-- A loop ends without a fault unless it exceeds its budget. -/
theorem Progress.fault?_ofRun_eq_none_iff {loop : Loop} {budget : Nat} {ending : Sentence × Bool} :
    (ofRun loop budget ending).fault? = none ↔ ending.2 = false := by
  obtain ⟨s, exceeded⟩ := ending
  cases exceeded <;> simp [ofRun]

end ChatCommand
