/-
Putting expressions together.

* `Regex.sequence`: one after the other, where neighbouring texts become one text;
* `Regex.alternatives`: one of several, where single characters become one set and a beginning that
  all alternatives share stands before the choice;
* `Regex.repeated`: rounds, where more than one round of what can only be empty is none;
* `items_ofItems`, `branches_ofBranches`: taking apart undoes putting together;
* `commonItems_prefix_left`, `commonItems_prefix_right`: what is shared begins both sequences.

Sharing a beginning matters for the preference among matches: all continuations are tried for one
way to match the beginning before its next way.
-/
import ChatCommand.Regex.Basic

namespace ChatCommand

namespace Regex

/-! ### Sequences -/

/-- The parts of a sequence, in order. -/
def items : Regex → List Regex
  | text [] => []
  | seq a b => a :: b.items
  | e => [e]

/-- The parts one after the other, as they are. -/
def ofItems : List Regex → Regex
  | [] => empty
  | [a] => a
  | a :: rest => seq a (ofItems rest)

/-- Makes one text of neighbouring texts. -/
def joinTexts : List Regex → List Regex
  | [] => []
  | text s :: rest =>
    match joinTexts rest with
    | text t :: others => text (s ++ t) :: others
    | others => text s :: others
  | a :: rest => a :: joinTexts rest

/-- The expressions one after the other. -/
def sequence (parts : List Regex) : Regex :=
  ofItems (joinTexts (parts.flatMap items))

/-! ### Alternatives -/

/-- The alternatives of a choice, in order of preference. -/
def branches : Regex → List Regex
  | choice a b => a :: b.branches
  | e => [e]

/-- One of the expressions, as they are, those before preferred. -/
def ofBranches : List Regex → Regex
  | [] => char .empty
  | [a] => a
  | a :: rest => choice a (ofBranches rest)

/-- A character of the set, as a text if there is but one. -/
def ofSet (set : CharSet) : Regex :=
  match set.only? with
  | some c => literal c
  | none => char set

/-- The characters of an expression that matches single characters. -/
def characters? : Regex → Option CharSet
  | text [c] => some (.singleton c)
  | char set => some set
  | _ => none

/-- One of several single characters, else one of the expressions as they are. -/
def merged (parts : List Regex) : Regex :=
  match parts with
  | [a] => a
  | _ =>
    match parts.mapM characters? with
    | some sets => ofSet (.unions sets)
    | none => ofBranches parts

/-- The items at the beginning of two sequences that are the same. -/
def commonItems : List Regex → List Regex → List Regex
  | a :: as, b :: bs => if a.same b then a :: commonItems as bs else []
  | _, _ => []

/-- The items with which all expressions begin. An expression that is no sequence of several items
shares nothing. -/
def sharedItems (parts : List Regex) : List Regex :=
  let sequences := parts.map items
  match sequences with
  | [] => []
  | first :: rest =>
    if sequences.all fun s => 2 ≤ s.length then rest.foldl commonItems first else []

/-- The expression without its first items. -/
def dropItems (count : Nat) (e : Regex) : Regex :=
  ofItems (e.items.drop count)

/-- One of the expressions, those before preferred. What follows the shared items shares nothing, so
that no second step is needed. -/
def alternatives (parts : List Regex) : Regex :=
  let parts := parts.flatMap branches
  match parts with
  | [a] => a
  | _ =>
    match parts.mapM characters?, sharedItems parts with
    | none, a :: shared =>
      let behind := (parts.map (dropItems (shared.length + 1))).flatMap branches
      sequence (a :: shared ++ [merged behind])
    | _, _ => merged parts

/-! ### Repetition -/

/-- Rounds of an expression. More than one round of what can only be empty changes nothing. -/
def repeated (least : Nat) (most : Option Nat) (greedy : Bool) (a : Regex) : Regex :=
  let (least, most) :=
    if a.isHollow then (min least 1, some (min (most.getD 1) 1)) else (least, most)
  if most = some 0 then empty
  else if least = 1 ∧ most = some 1 then a
  else rounds least most greedy a

def optional (a : Regex) : Regex := repeated 0 (some 1) true a

/-- So many rounds and no more. -/
def times (count : Nat) (a : Regex) : Regex := repeated count (some count) true a

/-- At least one round, and as many as possible. -/
def many (a : Regex) : Regex := repeated 1 none true a

/-! ### Laws -/

/-- The items of a sequence of items are those items. -/
theorem items_ofItems {parts : List Regex} (h : ∀ e ∈ parts, e.items = [e]) :
    (ofItems parts).items = parts := by
  induction parts with
  | nil => rfl
  | cons a rest ih =>
    cases rest with
    | nil => exact h a List.mem_cons_self
    | cons b others =>
      rw [ofItems, items, ih fun e he => h e (List.mem_cons_of_mem a he)]
      simp

/-- The alternatives of a choice among some are those alternatives. -/
theorem branches_ofBranches {parts : List Regex} (hne : parts ≠ [])
    (h : ∀ e ∈ parts, e.branches = [e]) : (ofBranches parts).branches = parts := by
  induction parts with
  | nil => exact absurd rfl hne
  | cons a rest ih =>
    cases rest with
    | nil => exact h a List.mem_cons_self
    | cons b others =>
      rw [ofBranches, branches,
        ih (List.cons_ne_nil b others) fun e he => h e (List.mem_cons_of_mem a he)]
      simp

/-- The common items stand at the beginning of the first sequence. -/
theorem commonItems_prefix_left (as bs : List Regex) : commonItems as bs <+: as := by
  induction as generalizing bs with
  | nil => simp [commonItems]
  | cons a as ih =>
    cases bs with
    | nil => simp [commonItems]
    | cons b bs =>
      rw [commonItems]
      split
      · exact List.cons_prefix_cons.2 ⟨rfl, ih bs⟩
      · exact List.nil_prefix

/-- The common items stand at the beginning of the second sequence. -/
theorem commonItems_prefix_right (as bs : List Regex) : commonItems as bs <+: bs := by
  induction as generalizing bs with
  | nil => simp [commonItems]
  | cons a as ih =>
    cases bs with
    | nil => simp [commonItems]
    | cons b bs =>
      rw [commonItems]
      split
      case isTrue h => exact List.cons_prefix_cons.2 ⟨eq_of_same h, ih bs⟩
      case isFalse => exact List.nil_prefix

end Regex

end ChatCommand
