/-
Regular expressions.

* `Regex`: texts, sets of characters, sequence, choice, repetition, groups and the ends of the text;
* `Regex.same`: whether two expressions may stand for each other;
* `Regex.shortest?`, `Regex.isHollow`: what is known of the lengths of the texts that match;
* `Regex.weight`: how much of an automaton an expression needs;
* `eq_of_same`: expressions that may stand for each other are equal.
-/
import ChatCommand.Regex.CharSet

namespace ChatCommand

/-- A regular expression. -/
inductive Regex where
  /-- The given characters, one after the other. -/
  | text (s : List Char)
  | char (set : CharSet)
  | seq (a b : Regex)
  /-- Either of two, the first preferred. -/
  | choice (a b : Regex)
  /-- At least `least` and at most `most` rounds, as many as possible if `greedy`, else as few. -/
  | rounds (least : Nat) (most : Option Nat) (greedy : Bool) (a : Regex)
  /-- A part whose text can be asked for, by its name if it has one. -/
  | group (name : Option String) (a : Regex)
  | textStart
  | textEnd

namespace Regex

def empty : Regex := text []

def literal (c : Char) : Regex := text [c]

/-- Every character but the line feed. -/
def anyChar : Regex := char (CharSet.singleton '\n').complement

def digit : Regex := char .digits

/-! ### Likeness -/

/-- Whether two expressions may stand for each other. A group stands for itself alone, since each
has a text of its own. -/
def same : Regex → Regex → Bool
  | text s, text t => s == t
  | char s, char t => decide (s = t)
  | seq a b, seq c d => same a c && same b d
  | choice a b, choice c d => same a c && same b d
  | rounds least most greedy a, rounds least' most' greedy' b =>
    least == least' && most == most' && greedy == greedy' && same a b
  | textStart, textStart => true
  | textEnd, textEnd => true
  | _, _ => false

theorem eq_of_same : {a b : Regex} → same a b = true → a = b
  | text _, text _, h => by simpa [same] using h
  | char _, char _, h => by simpa [same] using h
  | seq _ _, seq _ _, h => by
    simp only [same, Bool.and_eq_true] at h
    rw [eq_of_same h.1, eq_of_same h.2]
  | choice _ _, choice _ _, h => by
    simp only [same, Bool.and_eq_true] at h
    rw [eq_of_same h.1, eq_of_same h.2]
  | rounds .., rounds .., h => by
    simp only [same, Bool.and_eq_true, beq_iff_eq] at h
    obtain ⟨⟨⟨rfl, rfl⟩, rfl⟩, h⟩ := h
    rw [eq_of_same h]
  | textStart, textStart, _ => rfl
  | textEnd, textEnd, _ => rfl

/-! ### Lengths -/

/-- The length of a shortest text that matches, if every part matches some text. -/
def shortest? : Regex → Option Nat
  | text s => some s.length
  | char set => if set.isEmpty then none else some 1
  | seq a b => do return (← a.shortest?) + (← b.shortest?)
  | choice a b => do return min (← a.shortest?) (← b.shortest?)
  | rounds least _ _ a => a.shortest?.map (· * least)
  | group _ a => a.shortest?
  | textStart => some 0
  | textEnd => some 0

/-- Whether the expression is known to match some text, and none that is empty. -/
def isSolid (e : Regex) : Bool :=
  e.shortest?.any (0 < ·)

/-- Whether the expression can match the empty text alone. -/
def isHollow : Regex → Bool
  | text s => s.isEmpty
  | char _ => false
  | seq a b => a.isHollow && b.isHollow
  | choice a b => a.isHollow && b.isHollow
  | rounds _ most _ a => most.isSome && a.isHollow
  | group _ a => a.isHollow
  | textStart => true
  | textEnd => true

/-- How much of an automaton an expression needs: each round that must be or has a limit is a copy
of its own. -/
def weight : Regex → Nat
  | text s => (s.map Char.utf8Size).sum
  | char _ => 1
  | seq a b => a.weight + b.weight
  | choice a b => a.weight + b.weight + 2
  | rounds least none _ a => max least 1 * a.weight + 2
  | rounds least (some most) _ a => least * a.weight + (most - least) * (a.weight + 1) + 1
  | group _ a => a.weight + 2
  | textStart => 1
  | textEnd => 1

end Regex

end ChatCommand
