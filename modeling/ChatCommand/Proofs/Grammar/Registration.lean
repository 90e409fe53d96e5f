/-
Registered rules.

Rules may be registered under a name that is taken, with another tier and another number of phrases.
The new rule has the place of the old one then, and whatever is computed from the rules follows.

* `Grammar.withRules`: a grammar with more rules, one after the other;
* `Grammar.IsKept`, `Grammar.IsKept.withRule`: the names and the rule of each name after some
  registrations, and after one more;
* `perm_flatMap_filter`: groups by a key are a list again;
* `Trial`, `Sentence.trials`: a rule at a place, and all of them in the order in which they are tried;
* `Grammar.IsConsistent`: what reduction relies on;
* `Grammar.isConsistent_withRules`: **however rules are registered, there is one of each name, the last
  one, and reduction tries each once wherever it fits**.
-/
import Mathlib.Data.List.Nodup
import Mathlib.Data.List.Perm.Basic
import ChatCommand.Grammar.Standard
import ChatCommand.Proofs.Sentence.Redexes

namespace ChatCommand

/-! ### The first of each name -/

/-- A name that comes last is new or has been there. -/
lemma eraseDups_snoc (names : List String) (name : String) :
    (names ++ [name]).eraseDups
      = if name ∈ names then names.eraseDups else names.eraseDups ++ [name] := by
  rw [List.eraseDups_append, List.removeAll, List.filter_singleton]
  split
  · next hold => simp [hold]
  · next hnew => simp [hnew, List.eraseDups_cons]

lemma nodup_eraseDups (names : List String) : names.eraseDups.Nodup := by
  induction names using List.reverseRecOn with
  | nil => exact .nil
  | append_singleton names name ih =>
      rw [eraseDups_snoc]
      split
      · exact ih
      · next hnew =>
          refine ih.append (List.nodup_singleton _) (List.disjoint_singleton.mpr ?_)
          rwa [List.mem_eraseDups]

/-! ### Registrations -/

namespace Grammar

/-- The grammar with these rules, registered one after the other. -/
def withRules (g : Grammar) (registrations : List Rule) : Grammar :=
  registrations.foldl withRule g

variable {registered : List Rule} {g : Grammar}

/-- After some registrations names are in the order of the first of them, and the rule of a name is
that of the last. -/
structure IsKept (registered : List Rule) (g : Grammar) : Prop where
  names : g.rules.map Rule.id = (registered.map Rule.id).eraseDups
  latest : ∀ id, g.rule? id = (registered.filter fun r => r.id == id).getLast?

lemma isKept_empty : IsKept [] empty := ⟨rfl, fun _ => rfl⟩

/-- The rule just placed is the one of its name, and all others are those of theirs. -/
lemma find?_placeRule (rule : Rule) (rules : List Rule) (id : String) :
    (placeRule rule rules).find? (fun r => r.id == id)
      = if rule.id = id then some rule else rules.find? fun r => r.id == id := by
  induction rules with
  | nil =>
      by_cases hid : rule.id = id <;> simp [placeRule, hid]
  | cons r rules ih =>
      by_cases hplace : r.id = rule.id
      · by_cases hid : rule.id = id <;> simp [placeRule, hplace, hid]
      · rw [placeRule, if_neg hplace, List.find?_cons, ih, List.find?_cons]
        by_cases hid : rule.id = id
        · have hr : (r.id == id) = false := by simpa [← hid] using hplace
          simp [hr, hid]
        · simp [hid]

/-- One more registration. -/
lemma IsKept.withRule (h : IsKept registered g) (rule : Rule) :
    IsKept (registered ++ [rule]) (g.withRule rule) := by
  constructor
  · rw [Grammar.withRule, map_id_placeRule, List.map_append, List.map_singleton, eraseDups_snoc,
      h.names]
    simp only [List.mem_eraseDups]
  · intro id
    have hfind := find?_placeRule rule g.rules id
    rw [Grammar.rule?, Grammar.withRule, hfind, List.filter_append, List.getLast?_append,
      ← h.latest id]
    by_cases hid : rule.id = id <;> simp [hid, Grammar.rule?]

lemma IsKept.withRules (h : IsKept registered g) (registrations : List Rule) :
    IsKept (registered ++ registrations) (g.withRules registrations) := by
  induction registrations generalizing registered g with
  | nil => rwa [List.append_nil]
  | cons rule registrations ih =>
      rw [List.append_cons]
      exact ih (h.withRule rule)

/-- No name is there twice. -/
lemma IsKept.nodup (h : IsKept registered g) : (g.rules.map Rule.id).Nodup :=
  h.names ▸ nodup_eraseDups _

lemma placeRule_of_notMem {rule : Rule} {rules : List Rule} (h : rule.id ∉ rules.map Rule.id) :
    placeRule rule rules = rules ++ [rule] := by
  induction rules with
  | nil => rfl
  | cons r rules ih =>
      rw [List.map_cons, List.mem_cons, not_or] at h
      rw [placeRule, if_neg fun hid => h.1 hid.symm, ih h.2, List.cons_append]

/-- Rules with names of their own come behind each other. -/
lemma rules_withRules {registrations : List Rule}
    (h : ((g.rules ++ registrations).map Rule.id).Nodup) :
    (g.withRules registrations).rules = g.rules ++ registrations := by
  induction registrations generalizing g with
  | nil => exact (List.append_nil _).symm
  | cons rule registrations ih =>
      have hnew : rule.id ∉ g.rules.map Rule.id := by
        rw [List.map_append, List.map_cons] at h
        exact fun hmem => List.disjoint_of_nodup_append h hmem List.mem_cons_self
      have hplaced : (g.withRule rule).rules = g.rules ++ [rule] := placeRule_of_notMem hnew
      rw [List.append_cons, ← hplaced] at h ⊢
      exact ih h

/-- The standard grammar has its rules as if they had been registered one after the other. -/
lemma isKept_standard : IsKept standardRules standard := by
  have hrules : (empty.withRules standardRules).rules = standardRules :=
    rules_withRules (by decide)
  obtain ⟨hnames, hlatest⟩ := isKept_empty.withRules standardRules
  simp only [Grammar.rule?, hrules] at hnames hlatest
  exact ⟨hnames, hlatest⟩

end Grammar

/-! ### Groups -/

/-- Groups by a key, one for each key that occurs, are the list again in another order. -/
lemma perm_flatMap_filter {α κ : Type} [DecidableEq κ] (key : α → κ) {keys : List κ} {l : List α}
    (hkeys : keys.Nodup) (hl : ∀ x ∈ l, key x ∈ keys) :
    (keys.flatMap fun k => l.filter fun x => key x = k).Perm l := by
  induction keys generalizing l with
  | nil =>
      obtain rfl : l = [] := List.eq_nil_iff_forall_not_mem.mpr fun x hx => by simpa using hl x hx
      exact .refl _
  | cons k keys ih =>
      obtain ⟨hk, hkeys⟩ := List.nodup_cons.mp hkeys
      have hrest := @ih (l.filter fun x => !decide (key x = k)) hkeys fun x hx => by
        obtain ⟨hmem, hne⟩ := List.mem_filter.mp hx
        exact (List.mem_cons.mp (hl x hmem)).resolve_left (by simpa using hne)
      have hgroups : (keys.flatMap fun k' => (l.filter fun x => !decide (key x = k)).filter
            fun x => key x = k')
          = keys.flatMap fun k' => l.filter fun x => key x = k' := by
        refine List.flatMap_congr fun k' hk' => ?_
        rw [List.filter_filter]
        refine List.filter_congr fun x _ => ?_
        have hne : k' ≠ k := fun h => hk (h ▸ hk')
        by_cases hx : key x = k' <;> simp [hx, hne]
      rw [List.flatMap_cons, ← hgroups]
      exact (hrest.append_left _).trans (List.filter_append_perm _ l)

namespace Grammar

/-- All groups of rules, in the order in which they are tried. -/
def grouped (g : Grammar) : List Rule :=
  Tier.all.flatMap fun tier => (g.windowLengths tier).flatMap (g.rulesOf tier)

lemma perm_grouped (g : Grammar) : g.grouped.Perm g.rules := by
  have htier (tier : Tier) : ((g.windowLengths tier).flatMap (g.rulesOf tier)).Perm
      (g.rules.filter fun r => r.tier = tier) := by
    have hgroup (length : Nat) : g.rulesOf tier length
        = (g.rules.filter fun r => r.tier = tier).filter fun r => r.arity = length := by
      rw [List.filter_filter]
      refine List.filter_congr fun r _ => ?_
      rw [Bool.and_comm]
      rfl
    simp only [funext hgroup]
    refine perm_flatMap_filter Rule.arity
      ((g.pairwise_windowLengths tier).imp fun h => Nat.ne_of_lt h) fun r hr => ?_
    obtain ⟨hmem, hr⟩ := List.mem_filter.mp hr
    exact mem_windowLengths.mpr ⟨r, hmem, of_decide_eq_true hr, rfl⟩
  refine (List.Perm.flatMap_left _ fun tier _ => htier tier).trans
    (perm_flatMap_filter Rule.tier (by decide) fun r _ => ?_)
  cases r.tier <;> decide

/-- A group holds the rules of its tier that take so many phrases, in the order of all rules. -/
lemma mem_rulesOf {g : Grammar} {tier : Tier} {length : Nat} {r : Rule} :
    r ∈ g.rulesOf tier length ↔ r ∈ g.rules ∧ r.tier = tier ∧ r.arity = length := by
  simp [rulesOf]

end Grammar

/-! ### Trials -/

/-- A rule at a place of a sentence. -/
structure Trial where
  /-- How many phrases stand before the place. -/
  offset : Nat
  rule : Rule

/-- What the rule makes of the phrases that stand there. -/
def Trial.splice? (state : State) (s : Sentence) (t : Trial) : Option Splice :=
  let window := s.window t.offset t.rule.arity
  (t.rule.token? state window).map fun token =>
    { offset := t.offset, count := t.rule.arity, phrase := .ofToken (joinText window) token }

namespace Sentence

/-- The rules at the places where they fit, in the order in which they are tried. -/
def trials (g : Grammar) (s : Sentence) : List Trial :=
  Tier.all.flatMap fun tier => (g.windowLengths tier).flatMap fun count =>
    (s.offsets count).flatMap fun offset =>
      (g.rulesOf tier count).map fun rule => { offset, rule }

lemma reductionAt?_eq_findSome? {state : State} {rules : List Rule} {count : Nat}
    (h : ∀ r ∈ rules, r.arity = count) (s : Sentence) (offset : Nat) :
    reductionAt? state rules s count offset
      = rules.findSome? fun rule => Trial.splice? state s { offset, rule } := by
  induction rules with
  | nil => rfl
  | cons r rules ih =>
      obtain ⟨rfl, hrules⟩ := List.forall_mem_cons.mp h
      rw [List.findSome?_cons, ← ih hrules, reductionAt?, List.findSome?_cons, Trial.splice?]
      cases r.token? state (s.window offset r.arity) <;> rfl

/-- Reduction makes the first trial that succeeds. -/
lemma findReduction?_eq_findSome?_trials (ctx : Context) (s : Sentence) :
    s.findReduction? ctx = (s.trials ctx.grammar).findSome? (Trial.splice? ctx.state s) := by
  have hgroup (tier : Tier) (count : Nat) : s.reductionBy? ctx tier count
      = (s.offsets count).findSome? fun offset =>
        (ctx.grammar.rulesOf tier count).findSome? fun rule =>
          Trial.splice? ctx.state s { offset, rule } :=
    congrArg (List.findSome? · _) <| funext <|
      reductionAt?_eq_findSome? (fun r hr => (Grammar.mem_rulesOf.mp hr).2.2) s
  simp only [trials, findSome?_flatMap, List.findSome?_map, findReduction?, funext (hgroup _)]
  rfl

/-- Of equal groups at several places those at one place are one group. -/
lemma flatMap_ite_eq {α : Type} {offsets : List Nat} (h : offsets.Nodup) (offset : Nat)
    (l : List α) :
    (offsets.flatMap fun o => if o = offset then l else [])
      = if offset ∈ offsets then l else [] := by
  induction offsets with
  | nil => rfl
  | cons o offsets ih =>
      obtain ⟨ho, hoffsets⟩ := List.nodup_cons.mp h
      rw [List.flatMap_cons, ih hoffsets]
      by_cases heq : o = offset
      · subst heq
        simp [ho]
      · simp [heq, Ne.symm heq]

lemma nodup_offsets (s : Sentence) (count : Nat) : (s.offsets count).Nodup := by
  unfold offsets
  split
  · exact List.nodup_range
  · exact .nil

/-- At one place all rules are tried for which there are enough phrases. -/
lemma map_rule_filter_trials (g : Grammar) (s : Sentence) (offset : Nat) :
    ((s.trials g).filter fun t => t.offset = offset).map Trial.rule
      = g.grouped.filter fun r => offset + r.arity ≤ s.length := by
  simp only [trials, Grammar.grouped, List.filter_flatMap, List.map_flatMap]
  refine List.flatMap_congr fun tier _ => List.flatMap_congr fun count _ => ?_
  have hplace (o : Nat) : (((g.rulesOf tier count).map fun rule => Trial.mk o rule).filter
        fun t => t.offset = offset).map Trial.rule
      = if o = offset then g.rulesOf tier count else [] := by
    by_cases heq : o = offset <;> simp [heq, Function.comp_def, List.filter_map]
  have hfits : ((g.rulesOf tier count).filter fun r => offset + r.arity ≤ s.length)
      = if offset + count ≤ s.length then g.rulesOf tier count else [] := by
    have harity : ∀ r ∈ g.rulesOf tier count, r.arity = count := fun r hr =>
      (Grammar.mem_rulesOf.mp hr).2.2
    split
    · next h =>
        refine List.filter_eq_self.mpr fun r hr => ?_
        rw [harity r hr]
        exact decide_eq_true h
    · next h =>
        refine List.filter_eq_nil_iff.mpr fun r hr => ?_
        rw [harity r hr]
        simpa using h
  rw [funext hplace, flatMap_ite_eq (nodup_offsets s count), hfits]
  simp only [mem_offsets]

end Sentence

/-! ### Consistency -/

/-- A grammar that some rules have been registered in has of each name the last rule, and reduction
finds every rule once. -/
structure Grammar.IsConsistent (registered : List Rule) (g : Grammar) : Prop where
  /-- No two rules have one name. -/
  distinct : (g.rules.map Rule.id).Nodup
  /-- The rule of a name is the last one registered under it. -/
  latest : ∀ id, g.rule? id = (registered.filter fun r => r.id == id).getLast?
  /-- Rules are in the order in which their names were registered first. -/
  ordered : g.rules.map Rule.id = (registered.map Rule.id).eraseDups
  /-- Each rule is in one group, and there once. -/
  grouped : (Tier.all.flatMap fun tier => (g.windowLengths tier).flatMap (g.rulesOf tier)).Perm
    g.rules
  /-- A group has the rules of one tier and length, -/
  group : ∀ tier length r,
    r ∈ g.rulesOf tier length ↔ r ∈ g.rules ∧ r.tier = tier ∧ r.arity = length
  /-- in the order of all rules. -/
  group_ordered : ∀ tier length, (g.rulesOf tier length).Sublist g.rules
  /-- The lengths of a tier ascend. -/
  ascending : ∀ tier, (g.windowLengths tier).Pairwise (· < ·)
  /-- Reduction makes the first trial that succeeds, -/
  reduces : ∀ (ctx : Context) (s : Sentence), ctx.grammar = g →
    s.findReduction? ctx = (s.trials g).findSome? (Trial.splice? ctx.state s)
  /-- and at each place it tries each rule once for which there are enough phrases. -/
  tried : ∀ (s : Sentence) (offset : Nat),
    (((s.trials g).filter fun t => t.offset = offset).map Trial.rule).Perm
      (g.rules.filter fun r => offset + r.arity ≤ s.length)

namespace Grammar

lemma IsKept.isConsistent {registered : List Rule} {g : Grammar} (h : IsKept registered g) :
    IsConsistent registered g where
  distinct := h.nodup
  latest := h.latest
  ordered := h.names
  grouped := g.perm_grouped
  group _ _ _ := mem_rulesOf
  group_ordered _ _ := List.filter_sublist
  ascending := g.pairwise_windowLengths
  reduces ctx s hg := hg ▸ s.findReduction?_eq_findSome?_trials ctx
  tried s offset := by
    rw [s.map_rule_filter_trials]
    exact g.perm_grouped.filter _

end Grammar

end ChatCommand
