/-
Which redex a reduction rewrites.

A redex is a rule at a place of a sentence where it takes as many phrases as stand there. Redexes
are ordered by tier, then by the number of phrases, then from left to right, then by the order of
the rules.

* `Redex`, `Redex.Makes`, `Redex.Applies`: redexes, and what the rule makes of the phrases;
* `Redex.Precedes`: the order of redexes;
* `Redex.IsFirst`: the redex that applies and precedes all others that do;
* `Sentence.findReduction?_eq_some_iff`, `Sentence.findReduction?_eq_none_iff`: the search finds the
  first redex, and finds none exactly if no redex applies;
* `Sentence.Reduces`: rewriting the first redex, which is what one reduction does;
* `Sentence.reduces_of_mem_reductions`: **reduction rewrites the first redex again and again, and
  ends in a sentence without redexes, which it would leave as it is**.
-/
import Mathlib.Data.List.Basic
import ChatCommand.Proofs.Sentence.Focus

namespace ChatCommand

/-! ### Searching in order -/

section Search

variable {α β : Type}

/-- A search in lists that are put together is a search through these lists. -/
lemma findSome?_flatMap {γ : Type} (l : List α) (f : α → List β) (g : β → Option γ) :
    (l.flatMap f).findSome? g = l.findSome? fun a => (f a).findSome? g := by
  induction l with
  | nil => rfl
  | cons a l ih =>
      rw [List.flatMap_cons, List.findSome?_append, List.findSome?_cons, ih]
      cases (f a).findSome? g <;> rfl

/-- A search among some elements of a list is a search through all places of the list. -/
lemma findSome?_filter (l : List α) (p : α → Bool) (g : α → Option β) :
    (l.filter p).findSome? g
      = (List.range l.length).findSome? fun i => l[i]?.bind fun a => if p a then g a else none := by
  induction l with
  | nil => rfl
  | cons a l ih =>
      rw [List.length_cons, List.range_succ_eq_map, List.findSome?_cons, List.findSome?_map]
      cases hp : p a with
      | false =>
          rw [List.filter_cons_of_neg (by simp [hp]), ih]
          simp only [List.getElem?_cons_zero, Option.bind_some, hp, Bool.false_eq_true, if_false]
          rfl
      | true =>
          rw [List.filter_cons_of_pos hp, List.findSome?_cons, ih]
          simp only [List.getElem?_cons_zero, Option.bind_some, hp, if_true]
          cases g a <;> rfl

/-- A search may leave out what has no result. -/
lemma findSome?_filter_eq {l : List α} {keep : α → Bool} {f : α → Option β}
    (h : ∀ a ∈ l, keep a = false → f a = none) : (l.filter keep).findSome? f = l.findSome? f := by
  induction l with
  | nil => rfl
  | cons a l ih =>
      have hrest := ih fun b hb => h b (List.mem_cons_of_mem _ hb)
      cases hkeep : keep a with
      | true => rw [List.filter_cons_of_pos hkeep, List.findSome?_cons, List.findSome?_cons, hrest]
      | false =>
          rw [List.filter_cons_of_neg (by simp [hkeep]), List.findSome?_cons,
            h a List.mem_cons_self hkeep, hrest]

/-- A search through an ordered list finds the first element that has a result. -/
lemma findSome?_eq_some_iff_first {r : α → α → Prop} (hr : ∀ a b, r a b → ¬r b a) {l : List α}
    (hl : l.Pairwise r) {f : α → Option β} {b : β} :
    l.findSome? f = some b ↔
      ∃ a ∈ l, f a = some b ∧ ∀ a' ∈ l, (f a').isSome → a' = a ∨ r a a' := by
  rw [List.findSome?_eq_some_iff]
  constructor
  · rintro ⟨before, a, after, rfl, ha, hbefore⟩
    have hafter : ∀ a' ∈ after, r a a' :=
      (List.pairwise_cons.mp (List.pairwise_append.mp hl).2.1).1
    refine ⟨a, by simp, ha, fun a' ha' hsome => ?_⟩
    rcases List.mem_append.mp ha' with hmem | hmem
    · simp [hbefore a' hmem] at hsome
    · exact (List.mem_cons.mp hmem).imp_right (hafter a')
  · rintro ⟨a, ha, hfa, hfirst⟩
    obtain ⟨before, after, rfl⟩ := List.append_of_mem ha
    refine ⟨before, a, after, rfl, hfa, fun x hx => ?_⟩
    have hxa : r x a := (List.pairwise_append.mp hl).2.2 x hx a List.mem_cons_self
    by_contra hne
    rcases hfirst x (by simp [hx]) (Option.isSome_iff_ne_none.mpr hne) with rfl | hax
    · exact hr _ _ hxa hxa
    · exact hr _ _ hxa hax

end Search

/-! ### Redexes -/

/-- The place of a tier in the order in which tiers are tried. -/
def Tier.index (tier : Tier) : Nat := Tier.all.idxOf tier

/-- A rule at a place of a sentence. -/
structure Redex where
  tier : Tier
  /-- How many phrases the rule takes. -/
  count : Nat
  /-- How many phrases stand before them. -/
  offset : Nat
  /-- The place of the rule in the order of the rules. -/
  place : Nat

namespace Redex

/-- The rule is of the tier, takes so many phrases, and makes the token of those that stand
there. -/
def Makes (ctx : Context) (s : Sentence) (r : Redex) (t : Token) : Prop :=
  r.offset + r.count ≤ s.length ∧ ∃ rule, ctx.grammar.rules[r.place]? = some rule
    ∧ rule.tier = r.tier ∧ rule.arity = r.count
    ∧ rule.token? ctx.state (s.window r.offset r.count) = some t

/-- The rule makes a token of the phrases that stand there. -/
def Applies (ctx : Context) (s : Sentence) (r : Redex) : Prop :=
  ∃ t, r.Makes ctx s t

/-- A redex is tried before another: it is of an earlier tier, or of the same tier and takes fewer
phrases, or as many and stands further to the left, or there too and its rule comes first. -/
def Precedes (r r' : Redex) : Prop :=
  r.tier.index < r'.tier.index ∨ r.tier = r'.tier ∧
    (r.count < r'.count ∨ r.count = r'.count ∧
      (r.offset < r'.offset ∨ r.offset = r'.offset ∧ r.place < r'.place))

/-- The redex applies, and precedes every other that does. -/
def IsFirst (ctx : Context) (s : Sentence) (r : Redex) : Prop :=
  r.Applies ctx s ∧ ∀ r', r'.Applies ctx s → r' = r ∨ r.Precedes r'

/-- A phrase with the token in the place of those that the rule takes. -/
def splice (s : Sentence) (r : Redex) (t : Token) : Splice where
  offset := r.offset
  count := r.count
  phrase := .ofToken (joinText (s.window r.offset r.count)) t

lemma Precedes.asymm (r r' : Redex) (h : r.Precedes r') : ¬r'.Precedes r := by
  rintro h'
  simp only [Precedes] at h h'
  have heq (t u : Tier) (htu : t = u) : t.index = u.index := congrArg _ htu
  grind

variable {ctx : Context} {s : Sentence}

/-- A redex makes one token at most. -/
lemma Makes.unique {r : Redex} {t u : Token} (ht : r.Makes ctx s t) (hu : r.Makes ctx s u) :
    t = u := by
  obtain ⟨-, rule, hrule, -, -, htoken⟩ := ht
  obtain ⟨-, rule', hrule', -, -, htoken'⟩ := hu
  obtain rfl : rule = rule' := Option.some.inj (hrule.symm.trans hrule')
  exact Option.some.inj (htoken.symm.trans htoken')

/-- There is one first redex at most. -/
lemma IsFirst.unique {r r' : Redex} (h : r.IsFirst ctx s) (h' : r'.IsFirst ctx s) : r = r' := by
  rcases h'.2 r h.1 with heq | hr
  · exact heq
  · rcases h.2 r' h'.1 with heq | hr'
    · exact heq.symm
    · exact absurd hr (Precedes.asymm _ _ hr')

/-- What the rule makes of the phrases that stand there, if it is of the tier and takes so many. -/
def token? (ctx : Context) (s : Sentence) (r : Redex) : Option Token :=
  ctx.grammar.rules[r.place]?.bind fun rule =>
    if decide (rule.tier = r.tier) && rule.arity == r.count then
      rule.token? ctx.state (s.window r.offset r.count)
    else none

lemma makes_iff {r : Redex} {t : Token} :
    r.Makes ctx s t ↔ r.offset + r.count ≤ s.length ∧ r.token? ctx s = some t := by
  simp only [Makes, token?, Option.bind_eq_some_iff]
  grind

end Redex

/-! ### The search for a reduction -/

namespace Sentence

variable {ctx : Context} {s : Sentence}

/-- Every rule at every place where so many phrases stand as some rule of its tier takes, in the
order in which they are tried. -/
def redexes (ctx : Context) (s : Sentence) : List Redex :=
  Tier.all.flatMap fun tier => (ctx.grammar.windowLengths tier).flatMap fun count =>
    (s.offsets count).flatMap fun offset => (List.range ctx.grammar.rules.length).map fun place =>
      { tier, count, offset, place }

/-- Whatever makes a token is among them. -/
lemma mem_redexes {r : Redex} {t : Token} (h : r.Makes ctx s t) : r ∈ s.redexes ctx := by
  obtain ⟨hfits, rule, hrule, htier, harity, -⟩ := h
  obtain ⟨hplace, hget⟩ := List.getElem?_eq_some_iff.mp hrule
  have hmem : rule ∈ ctx.grammar.rules := List.mem_of_getElem? hrule
  have hall : r.tier ∈ Tier.all := by cases r.tier <;> decide
  simp only [redexes, List.mem_flatMap, List.mem_map, List.mem_range]
  exact ⟨r.tier, hall, r.count, Grammar.mem_windowLengths.mpr ⟨rule, hmem, htier, harity⟩,
    r.offset, mem_offsets.mpr hfits, r.place, hplace, rfl⟩

lemma le_of_mem_redexes {r : Redex} (h : r ∈ s.redexes ctx) : r.offset + r.count ≤ s.length := by
  simp only [redexes, List.mem_flatMap, List.mem_map] at h
  obtain ⟨tier, -, count, -, offset, hoffset, place, -, rfl⟩ := h
  exact mem_offsets.mp hoffset

lemma pairwise_offsets (s : Sentence) (count : Nat) : (s.offsets count).Pairwise (· < ·) := by
  rw [offsets]
  split
  · exact List.pairwise_lt_range
  · exact .nil

/-- They stand in their order. -/
lemma pairwise_redexes (ctx : Context) (s : Sentence) :
    (s.redexes ctx).Pairwise Redex.Precedes := by
  have htiers : Tier.all.Pairwise fun t u => t.index < u.index := by decide
  refine List.pairwise_flatMap.mpr ⟨fun tier _ => ?_, htiers.imp fun htier => ?_⟩
  · refine List.pairwise_flatMap.mpr ⟨fun count _ => ?_,
      (ctx.grammar.pairwise_windowLengths tier).imp fun hcount => ?_⟩
    · refine List.pairwise_flatMap.mpr ⟨fun offset _ => ?_,
        (s.pairwise_offsets count).imp fun hoffset => ?_⟩
      · exact List.pairwise_map.mpr (List.pairwise_lt_range.imp fun hplace =>
          .inr ⟨rfl, .inr ⟨rfl, .inr ⟨rfl, hplace⟩⟩⟩)
      · simp only [List.mem_map]
        rintro _ ⟨_, -, rfl⟩ _ ⟨_, -, rfl⟩
        exact .inr ⟨rfl, .inr ⟨rfl, .inl hoffset⟩⟩
    · simp only [List.mem_flatMap, List.mem_map]
      rintro _ ⟨_, -, _, -, rfl⟩ _ ⟨_, -, _, -, rfl⟩
      exact .inr ⟨rfl, .inl hcount⟩
  · simp only [List.mem_flatMap, List.mem_map]
    rintro _ ⟨_, -, _, -, _, -, rfl⟩ _ ⟨_, -, _, -, _, -, rfl⟩
    exact .inl htier

/-- The search for a reduction goes through them. -/
lemma findReduction?_eq_findSome? (ctx : Context) (s : Sentence) :
    s.findReduction? ctx
      = (s.redexes ctx).findSome? fun r => (r.token? ctx s).map (r.splice s) := by
  have hat (tier : Tier) (count offset : Nat) :
      reductionAt? ctx.state (ctx.grammar.rulesOf tier count) s count offset
        = (List.range ctx.grammar.rules.length).findSome? fun place =>
            (Redex.token? ctx s { tier, count, offset, place }).map
              (Redex.splice s { tier, count, offset, place }) := by
    simp only [reductionAt?, Grammar.rulesOf, findSome?_filter, List.map_findSome?]
    rfl
  simp only [redexes, findSome?_flatMap, List.findSome?_map, Function.comp_def, ← hat]
  rfl

/-- **The search finds the first redex**, with a phrase for the token that it makes. -/
theorem findReduction?_eq_some_iff {splice : Splice} :
    s.findReduction? ctx = some splice ↔
      ∃ (r : Redex) (t : Token), r.IsFirst ctx s ∧ r.Makes ctx s t ∧ splice = r.splice s t := by
  rw [findReduction?_eq_findSome?,
    findSome?_eq_some_iff_first Redex.Precedes.asymm (pairwise_redexes ctx s)]
  constructor
  · rintro ⟨r, hr, hsplice, hfirst⟩
    obtain ⟨t, ht, rfl⟩ := Option.map_eq_some_iff.mp hsplice
    have hmakes : r.Makes ctx s t := Redex.makes_iff.mpr ⟨le_of_mem_redexes hr, ht⟩
    refine ⟨r, t, ⟨⟨t, hmakes⟩, ?_⟩, hmakes, rfl⟩
    rintro r' ⟨u, hu⟩
    exact hfirst r' (mem_redexes hu) (by simp [(Redex.makes_iff.mp hu).2])
  · rintro ⟨r, t, ⟨-, hfirst⟩, hmakes, rfl⟩
    refine ⟨r, mem_redexes hmakes, by simp [(Redex.makes_iff.mp hmakes).2], fun r' hr' hsome => ?_⟩
    obtain ⟨u, hu⟩ := Option.isSome_iff_exists.mp (Option.isSome_map.symm.trans hsome)
    exact hfirst r' ⟨u, Redex.makes_iff.mpr ⟨le_of_mem_redexes hr', hu⟩⟩

/-- **The search finds nothing exactly if no redex applies.** -/
theorem findReduction?_eq_none_iff : s.findReduction? ctx = none ↔ ∀ r : Redex, ¬r.Applies ctx s := by
  rw [findReduction?_eq_findSome?, List.findSome?_eq_none_iff]
  constructor
  · rintro hnone r ⟨t, ht⟩
    simpa [(Redex.makes_iff.mp ht).2] using hnone r (mem_redexes ht)
  · intro hnone r hr
    by_contra hne
    obtain ⟨splice, hsplice⟩ := Option.ne_none_iff_exists'.mp hne
    obtain ⟨t, ht, -⟩ := Option.map_eq_some_iff.mp hsplice
    exact hnone r ⟨t, Redex.makes_iff.mpr ⟨le_of_mem_redexes hr, ht⟩⟩

/-- Where a redex applies, some redex comes first. -/
lemma exists_isFirst {r : Redex} (h : r.Applies ctx s) : ∃ r' : Redex, r'.IsFirst ctx s := by
  have hfound : s.findReduction? ctx ≠ none := fun hnone =>
    findReduction?_eq_none_iff.mp hnone r h
  obtain ⟨splice, hsplice⟩ := Option.ne_none_iff_exists'.mp hfound
  obtain ⟨r', -, hfirst, -⟩ := findReduction?_eq_some_iff.mp hsplice
  exact ⟨r', hfirst⟩

/-! ### Rewriting -/

/-- The second sentence is the first with its first redex rewritten. -/
def Reduces (ctx : Context) (s s' : Sentence) : Prop :=
  ∃ (r : Redex) (t : Token), r.IsFirst ctx s ∧ r.Makes ctx s t ∧ s' = s.splice (r.splice s t)

/-- One reduction rewrites the first redex. -/
lemma reductionStep?_eq_some_iff {s' : Sentence} :
    s.reductionStep? ctx = some s' ↔ s.Reduces ctx s' := by
  simp only [reductionStep?, Option.map_eq_some_iff, findReduction?_eq_some_iff, Reduces]
  grind

lemma reductionStep?_eq_none_iff :
    s.reductionStep? ctx = none ↔ ∀ r : Redex, ¬r.Applies ctx s := by
  rw [reductionStep?, Option.map_eq_none_iff, findReduction?_eq_none_iff]

/-- A reduction leaves phrases with a reading. -/
lemma isUnread_of_reductionStep? {s' : Sentence} (hs : ∀ p ∈ s, p.isUnread = false)
    (h : s.reductionStep? ctx = some s') : ∀ p ∈ s', p.isUnread = false := by
  obtain ⟨before, window, after, r, t, rfl, -, -, -, rfl⟩ := exists_of_reductionStep? h
  exact forall_mem_replace hs rfl

lemma isUnread_reduce (ctx : Context) (s : Sentence) :
    ∀ p ∈ (s.reduce ctx).sentence, p.isUnread = false := by
  refine Repetition.run_induction (fun _ _ => isUnread_of_reductionStep?) fun p hp => ?_
  simpa using (List.mem_filter.mp hp).2

/-- Reduction ends without a fault exactly where no redex applies. -/
lemma fault?_reduce_eq_none_iff :
    (s.reduce ctx).fault? = none ↔ ∀ r : Redex, ¬r.Applies ctx (s.reduce ctx).sentence := by
  rw [← reductionStep?_eq_none_iff, reduce, Progress.fault?_ofRun_eq_none_iff]
  refine ⟨Repetition.step?_run_eq_none, fun hnone => ?_⟩
  by_contra hexceeded
  have hsome := Repetition.isSome_step?_run (eq_true_of_ne_false hexceeded)
  exact Option.isSome_iff_ne_none.mp hsome hnone

/-- **Reduction rewrites the first redex again and again.** It begins with the phrases in which
something has been read; each sentence that it passes through is the one before with its first redex
rewritten, by tier, then by the number of phrases, then from left to right, then by the order of the
rules; and the last one is what it leaves. No phrase there is without a reading, and reduction ends
without a fault exactly if no redex applies there. Then reducing it again changes nothing, whatever
the budget. -/
theorem reduces_of_mem_reductions (ctx : Context) (s : Sentence) :
    ((s.reductions ctx).head? = some s.withoutUnread
        ∧ (s.reductions ctx).IsChain (Reduces ctx)
        ∧ (s.reductions ctx).getLast? = some (s.reduce ctx).sentence)
      ∧ (∀ p ∈ (s.reduce ctx).sentence, p.tokens ≠ [])
      ∧ ((s.reduce ctx).fault? = none ↔ ∀ r : Redex, ¬r.Applies ctx (s.reduce ctx).sentence)
      ∧ ((s.reduce ctx).fault? = none → ∀ budget,
          (s.reduce ctx).sentence.reduce { ctx with budget }
            = { sentence := (s.reduce ctx).sentence }) := by
  refine ⟨⟨Repetition.head?_trail _ _ _, ?_, getLast?_reductions ctx s⟩, fun p hp => ?_,
    fault?_reduce_eq_none_iff, fun hfault budget => ?_⟩
  · exact (Repetition.isChain_trail _ _ _).imp fun _ _ => reductionStep?_eq_some_iff.mp
  · simpa [Phrase.isUnread] using isUnread_reduce ctx s p hp
  · have hread : (s.reduce ctx).sentence.withoutUnread = (s.reduce ctx).sentence :=
      List.filter_eq_self.mpr fun p hp => by simp [isUnread_reduce ctx s p hp]
    have hnormal : (s.reduce ctx).sentence.reductionStep? { ctx with budget } = none :=
      reductionStep?_eq_none_iff.mpr (fault?_reduce_eq_none_iff.mp hfault)
    rw [reduce, hread, Repetition.run_of_eq_none hnormal]
    rfl

end Sentence

end ChatCommand
