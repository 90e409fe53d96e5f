/-
Grammars: what words mean and how phrases are reduced.

* `Grammar`: a reading for families of the vocabulary, and rules in order;
* `Grammar.withReading`, `Grammar.withRule`: a grammar with one more of either, where a rule takes
  the place of an earlier one with its name;
* `Grammar.rulesOf`, `Grammar.windowLengths`: the rules of a tier, by the number of phrases they
  take;
* `Grammar.map_id_placeRule`, `Grammar.pairwise_windowLengths`: names keep their order, and the
  numbers of phrases ascend.
-/
import ChatCommand.Grammar.Rule
import ChatCommand.Vocabulary.Reading

namespace ChatCommand

/-- What words mean and how phrases are reduced. -/
structure Grammar where
  /-- The reading of a family. Words of a family without one are not recognized. -/
  reading? : Family → Option Reading
  /-- The rules, in the order of the first registration of their names. -/
  rules : List Rule

namespace Grammar

def empty : Grammar := ⟨fun _ => none, []⟩

/-- The grammar with this reading of a family. -/
def withReading (g : Grammar) (family : Family) (reading : Reading) : Grammar :=
  { g with reading? := fun f => if f = family then some reading else g.reading? f }

/-- Puts a rule in the place of the first one with its name, or at the end. -/
def placeRule (rule : Rule) : List Rule → List Rule
  | [] => [rule]
  | r :: rest => if r.id = rule.id then rule :: rest else r :: placeRule rule rest

/-- The grammar with this rule, in the place of the one with its name if there is one. -/
def withRule (g : Grammar) (rule : Rule) : Grammar :=
  { g with rules := placeRule rule g.rules }

/-- The rule of this name. -/
def rule? (g : Grammar) (id : String) : Option Rule :=
  g.rules.find? fun r => r.id == id

/-- The rules of a tier that take so many phrases, in order. -/
def rulesOf (g : Grammar) (tier : Tier) (length : Nat) : List Rule :=
  g.rules.filter fun r => decide (r.tier = tier) && r.arity == length

/-- Puts a number into an ascending list, unless it is there. -/
def insertAscending (n : Nat) : List Nat → List Nat
  | [] => [n]
  | m :: rest =>
    if n < m then n :: m :: rest else if n = m then m :: rest else m :: insertAscending n rest

/-- How many phrases the rules of a tier take: each number once, ascending. -/
def windowLengths (g : Grammar) (tier : Tier) : List Nat :=
  (g.rules.filter fun r => r.tier = tier).foldr (fun r lengths => insertAscending r.arity lengths) []

/-! ### Rules in order -/

/-- The names of rules stay where they are, and a new one comes last. -/
theorem map_id_placeRule (rule : Rule) (rules : List Rule) :
    (placeRule rule rules).map Rule.id =
      if rule.id ∈ rules.map Rule.id then rules.map Rule.id
      else rules.map Rule.id ++ [rule.id] := by
  induction rules with
  | nil => simp [placeRule]
  | cons r rest ih =>
    by_cases h : r.id = rule.id
    · simp [placeRule, h]
    · have h' : ¬rule.id = r.id := fun e => h e.symm
      by_cases hm : rule.id ∈ rest.map Rule.id
      · rw [if_pos hm] at ih
        simp only [placeRule, if_neg h, List.map_cons, ih]
        rw [if_pos (List.mem_cons_of_mem _ hm)]
      · rw [if_neg hm] at ih
        simp only [placeRule, if_neg h, List.map_cons, ih]
        rw [if_neg (by simpa [h'] using hm), List.cons_append]

/-- The rule just placed is there. -/
theorem mem_placeRule_self (rule : Rule) (rules : List Rule) : rule ∈ placeRule rule rules := by
  induction rules with
  | nil => simp [placeRule]
  | cons r rest ih =>
    by_cases h : r.id = rule.id
    · simp [placeRule, h]
    · simp [placeRule, h, ih]

theorem mem_insertAscending {n m : Nat} {numbers : List Nat} :
    m ∈ insertAscending n numbers ↔ m = n ∨ m ∈ numbers := by
  induction numbers with
  | nil => simp [insertAscending]
  | cons k rest ih =>
    rw [insertAscending]
    split
    · simp
    · split
      · next h => subst h; simp
      · simp only [List.mem_cons, ih]
        grind

/-- Insertion keeps a list strictly ascending. -/
theorem pairwise_insertAscending {n : Nat} {numbers : List Nat}
    (h : numbers.Pairwise (· < ·)) : (insertAscending n numbers).Pairwise (· < ·) := by
  induction numbers with
  | nil => simp [insertAscending]
  | cons k rest ih =>
    have hk := List.pairwise_cons.mp h
    rw [insertAscending]
    split
    · next hn =>
      refine List.pairwise_cons.mpr ⟨fun m hm => ?_, h⟩
      rcases List.mem_cons.mp hm with rfl | hm
      · exact hn
      · exact Nat.lt_trans hn (hk.1 m hm)
    · split
      · exact h
      · refine List.pairwise_cons.mpr ⟨fun m hm => ?_, ih hk.2⟩
        rcases mem_insertAscending.mp hm with rfl | hm
        · omega
        · exact hk.1 m hm

/-- The numbers of phrases that the rules of a tier take are strictly ascending. -/
theorem pairwise_windowLengths (g : Grammar) (tier : Tier) :
    (g.windowLengths tier).Pairwise (· < ·) := by
  rw [windowLengths]
  induction g.rules.filter fun r => r.tier = tier with
  | nil => simp
  | cons r rest ih => exact pairwise_insertAscending ih

/-- Every rule of a tier takes one of them. -/
theorem mem_windowLengths {g : Grammar} {tier : Tier} {n : Nat} :
    n ∈ g.windowLengths tier ↔ ∃ r ∈ g.rules, r.tier = tier ∧ r.arity = n := by
  have key (rules : List Rule) :
      n ∈ rules.foldr (fun r lengths => insertAscending r.arity lengths) [] ↔
        ∃ r ∈ rules, r.arity = n := by
    induction rules with
    | nil => simp
    | cons r rest ih =>
      simp only [List.foldr_cons, mem_insertAscending, ih, List.mem_cons]
      grind
  simp only [windowLengths, key, List.mem_filter, decide_eq_true_eq]
  grind

end Grammar

end ChatCommand
