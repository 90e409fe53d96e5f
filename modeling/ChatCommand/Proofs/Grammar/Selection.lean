/-
Players selected by a chain of filters.

* `Selection`, `Selection.Admits`, `Selection.select`: a filter, the players that pass it, and those
  of a list that pass several;
* `Selection.Spelled`, `Selection.Spell`: the phrases of one filter, and of several one after the
  other;
* `Signature.isIdle`, `Sentence.IsSelecting`: rules that take no neighbours in sentences of players
  and filters;
* `Sentence.reductionStep?_of_isSelecting`: the other rules are those that take three phrases and
  come last;
* `Sentence.leads_of_spell`: **the filter behind the players is always the next to be applied**;
* `Sentence.reduce_selection`: **players with filters behind them are reduced to the players that
  pass all filters, whatever the order of these**.
-/
import Mathlib.Algebra.Ring.Nat
import Mathlib.Data.List.Chain
import ChatCommand.Proofs.Sentence.Cutoff
import ChatCommand.Proofs.Sentence.Standard
import ChatCommand.Roster.Demo

namespace ChatCommand

/-! ### Filters -/

/-- A filter of players. -/
inductive Selection where
  /-- Players from one of some countries. -/
  | from (countries : List String)
  /-- Players that carry one of some items. -/
  | carrying (items : List Item)
  /-- Players that meet a condition. -/
  | meeting (c : PropertyCondition)
  /-- All but some players. -/
  | except (excluded : List Player)
  /-- All but the speaker. -/
  | exceptSpeaker

/-- The player passes the filter, whoever speaks. -/
def Selection.Admits (speaker : Option Player) (p : Player) : Selection → Prop
  | .from countries => ∃ c ∈ countries, Text.equalsIgnoringAsciiCase p.countryName c = true
  | .carrying items => ∃ i ∈ items, p.carries i.name = true
  | .meeting c => c.holds p = true
  | .except excluded => ∀ q ∈ excluded, p.uid ≠ q.uid
  | .exceptSpeaker => ∀ q ∈ speaker, p.uid ≠ q.uid

instance (speaker : Option Player) (p : Player) : (f : Selection) → Decidable (f.Admits speaker p)
  | .from countries =>
    inferInstanceAs (Decidable (∃ c ∈ countries,
      Text.equalsIgnoringAsciiCase p.countryName c = true))
  | .carrying items => inferInstanceAs (Decidable (∃ i ∈ items, p.carries i.name = true))
  | .meeting c => inferInstanceAs (Decidable (c.holds p = true))
  | .except excluded => inferInstanceAs (Decidable (∀ q ∈ excluded, p.uid ≠ q.uid))
  | .exceptSpeaker => inferInstanceAs (Decidable (∀ q ∈ speaker, p.uid ≠ q.uid))

/-- The players of a list that pass the filters, in its order. -/
def Selection.select (speaker : Option Player) (filters : List Selection) (players : List Player) :
    List Player :=
  players.filter fun p => ∀ f ∈ filters, f.Admits speaker p

/-- How many reductions a filter takes: a condition is put together first. -/
def Selection.steps : Selection → Nat
  | .meeting _ => 2
  | _ => 1

namespace Selection

variable {speaker : Option Player} {players : List Player}

/-- One filter selects the players that pass it. -/
lemma select_singleton {f : Selection} {keep : Player → Bool}
    (hkeep : ∀ p, keep p = true ↔ f.Admits speaker p) :
    select speaker [f] players = players.filter keep := by
  refine List.filter_congr fun p _ => ?_
  rw [Bool.eq_iff_iff, hkeep, decide_eq_true_eq, List.forall_mem_singleton]

/-- Filters select among the players that pass the first of them. -/
lemma select_cons (f : Selection) (filters : List Selection) :
    select speaker (f :: filters) players
      = select speaker filters (select speaker [f] players) := by
  rw [select, select, select, List.filter_filter]
  refine List.filter_congr fun p _ => ?_
  rw [← Bool.decide_and, decide_eq_decide, List.forall_mem_cons, List.forall_mem_singleton,
    and_comm]

/-- The order of the filters does not matter. -/
lemma select_of_perm {filters order : List Selection} (h : order.Perm filters) :
    select speaker order players = select speaker filters players := by
  simp only [select, h.mem_iff]

end Selection

/-! ### Phrases -/

/-- The phrase has one reading, of this variant. -/
def Phrase.Shows (p : Phrase) (variant : TokenVariant) : Prop :=
  ∃ t, p.tokens = [t] ∧ t.variant = variant

/-- The phrase has one reading, of this variant and with this value or none. -/
def Phrase.Means (p : Phrase) (variant : TokenVariant) (value : Option Value) : Prop :=
  ∃ t, p.tokens = [t] ∧ t.variant = variant ∧ t.value = value

/-- A phrase with this reading. -/
def Phrase.reading (text : String) (variant : TokenVariant) (value : Option Value := none) :
    Phrase :=
  .ofToken text { text, variant, value, similarity := .zero }

lemma Phrase.means_reading (text : String) (variant : TokenVariant) (value : Option Value) :
    (reading text variant value).Means variant value :=
  ⟨_, rfl, rfl, rfl⟩

lemma Phrase.Means.shows {p : Phrase} {variant : TokenVariant} {value : Option Value}
    (h : p.Means variant value) : p.Shows variant :=
  h.imp fun _ ht => ⟨ht.1, ht.2.1⟩

namespace Selection

/-- The phrases of a filter: "from" or "in" and countries, "with" and items, "with" and a property
compared with a number, "except" and players or the speaker. -/
inductive Spelled : Selection → List Phrase → Prop
  | from {p q : Phrase} {word : Preposition} {countries : List String}
      (hword : word = .from ∨ word = .in) (hp : p.Shows (.preposition word))
      (hq : q.Means (.thing .location) (some (.locations countries))) :
      Spelled (.from countries) [p, q]
  | carrying {p q : Phrase} {items : List Item} (hp : p.Shows (.preposition .with))
      (hq : q.Means (.thing .item) (some (.items items))) : Spelled (.carrying items) [p, q]
  | meeting {p q r s : Phrase} {property : NumericProperty} {operator : EqualityOperator}
      {operand : Float} (hp : p.Shows (.preposition .with))
      (hq : q.Means (.numericProperty property) none) (hr : r.Shows (.equality operator))
      (hs : s.Means .number (some (.number operand))) :
      Spelled (.meeting { property, operator, operand }) [p, q, r, s]
  | except {p q : Phrase} {excluded : List Player} (hp : p.Shows (.preposition .except))
      (hq : q.Means (.thing .player) (some (.players excluded))) :
      Spelled (.except excluded) [p, q]
  | exceptSpeaker {p q : Phrase} (hp : p.Shows (.preposition .except))
      (hq : q.Shows .selfReflection) : Spelled .exceptSpeaker [p, q]

/-- The phrases of some filters, one after the other. -/
inductive Spell : List Selection → Sentence → Prop
  | nil : Spell [] []
  | cons {f : Selection} {filters : List Selection} {part : List Phrase} {s : Sentence}
      (head : Spelled f part) (tail : Spell filters s) : Spell (f :: filters) (part ++ s)

end Selection

/-! ### Rules that have no part -/

namespace TokenVariant

/-- The variants in a sentence of players and filters. -/
def selecting : List TokenVariant :=
  [.thing .player, .thing .item, .thing .location, .selfReflection, .number,
      .preposition .from, .preposition .in, .preposition .with, .preposition .except]
    ++ Named.all.map .numericProperty ++ Named.all.map .equality

/-- Whether two variants may stand beside each other in such a sentence: each filter begins with a
preposition, behind which there is an object, or a property, a comparison and a number. -/
def mayPrecede : TokenVariant → TokenVariant → Bool
  | _, .preposition _ | .preposition _, .thing _ | .preposition _, .numericProperty _
  | .preposition _, .selfReflection | .numericProperty _, .equality _ | .equality _, .number => true
  | _, _ => false

end TokenVariant

/-- Whether a rule takes no neighbours in a sentence of players and filters: it has a parameter for
something else, or two that are not beside each other. -/
def Signature.isIdle (s : Signature) : Bool :=
  (s.parameters.any fun c => TokenVariant.selecting.all fun v => !c.contains v) ||
    match s.parameters with
    | [c, d] => !s.anyOrder && TokenVariant.selecting.all fun u =>
        TokenVariant.selecting.all fun v => !(u.mayPrecede v && c.contains u && d.contains v)
    | _ => false

/-- All rules of the grammar are idle but those that select players by three phrases. -/
lemma Grammar.isIdle_of_mem {r : Rule} (hr : r ∈ standardRules)
    (h : ¬(r.tier = .general ∧ r.arity = 3)) : r.signature.isIdle = true := by
  simp only [standardRules, List.mem_append, Joining.rules, Arithmetic.rules, Times.rules,
    Filters.rules, List.mem_cons, List.not_mem_nil, or_false] at hr
  rcases hr with ((hr | hr) | hr) | hr
  · rcases hr with rfl | rfl | rfl | rfl | rfl | rfl | rfl | rfl <;> decide +kernel
  · rcases hr with rfl | rfl | rfl | rfl <;> decide +kernel
  · rcases hr with rfl | rfl | rfl | rfl | rfl | rfl | rfl | rfl | rfl <;> decide +kernel
  · rcases hr with rfl | rfl | rfl | rfl | rfl | rfl <;>
      first
      | decide +kernel
      | exact absurd ⟨rfl, rfl⟩ h

/-! ### Sentences of players and filters -/

namespace Sentence

/-- The preferred readings are of the variants that the phrases show. -/
lemma variants_eq {s : Sentence} {variants : List TokenVariant} {best : List Token}
    (hs : List.Forall₂ Phrase.Shows s variants)
    (hbest : List.Forall₂ (fun p t => Phrase.best? p = some t) s best) :
    variants = best.map Token.variant := by
  induction hs generalizing best with
  | nil => rw [List.forall₂_nil_left_iff.mp hbest, List.map_nil]
  | cons hp _ ih =>
      obtain ⟨u, _, hu, hrest, rfl⟩ := List.forall₂_cons_left_iff.mp hbest
      obtain ⟨t, htokens, rfl⟩ := hp
      obtain rfl := Option.some.inj ((Phrase.best?_of_tokens htokens).symm.trans hu)
      rw [ih hrest, List.map_cons]

/-- Each phrase of the sentence has one reading, of a variant that may stand there. -/
structure IsSelecting (s : Sentence) (variants : List TokenVariant) : Prop where
  shows : List.Forall₂ Phrase.Shows s variants
  selecting : ∀ v ∈ variants, v ∈ TokenVariant.selecting
  chain : variants.IsChain fun u v => u.mayPrecede v = true

namespace IsSelecting

variable {s s' : Sentence} {variants variants' : List TokenVariant}

lemma window (hs : IsSelecting s variants) (offset count : Nat) :
    IsSelecting (s.window offset count) ((variants.drop offset).take count) where
  shows := List.forall₂_take count (List.forall₂_drop offset hs.shows)
  selecting := fun v hv => hs.selecting v (List.mem_of_mem_drop (List.mem_of_mem_take hv))
  chain := (hs.chain.drop offset).take count

/-- Behind anything there may be what begins with a preposition. -/
lemma append (hs : IsSelecting s variants) (hs' : IsSelecting s' variants')
    (hhead : ∀ v ∈ variants'.head?, ∃ word, v = .preposition word) :
    IsSelecting (s ++ s') (variants ++ variants') where
  shows := List.rel_append hs.shows hs'.shows
  selecting := fun v hv =>
    (List.mem_append.mp hv).elim (hs.selecting v) (hs'.selecting v)
  chain := by
    refine List.isChain_append.mpr ⟨hs.chain, hs'.chain, fun u _ v hv => ?_⟩
    obtain ⟨word, rfl⟩ := hhead v hv
    rfl

/-- In every phrase of the sentence something has been read. -/
lemma withoutUnread (hs : IsSelecting s variants) : s.withoutUnread = s := by
  refine withoutUnread_eq_self fun p hp => ?_
  obtain ⟨_, -, t, htokens, -⟩ := exists_mem_of_forall₂ hs.shows p hp
  exact ⟨t, htokens⟩

/-- An idle rule takes no neighbours. -/
lemma bind?_eq_none (hs : IsSelecting s variants) {signature : Signature}
    (hidle : signature.isIdle = true) : signature.bind? s = none := by
  rw [Signature.isIdle, Bool.or_eq_true] at hidle
  rcases hidle with hforeign | hapart
  · obtain ⟨c, hc, hnone⟩ := List.any_eq_true.mp hforeign
    refine Signature.bind?_eq_none_of_not_contains hc fun p hp t ht => ?_
    obtain ⟨v, hv, u, htokens, rfl⟩ := exists_mem_of_forall₂ hs.shows p hp
    obtain rfl : t = u := by simpa [htokens] using ht
    simpa using List.all_eq_true.mp hnone _ (hs.selecting _ hv)
  · split at hapart
    · next c d hparameters =>
        simp only [Bool.and_eq_true, Bool.not_eq_true', List.all_eq_true] at hapart
        obtain ⟨horder, hnone⟩ := hapart
        by_contra hne
        obtain ⟨b, hb⟩ := Option.ne_none_iff_exists'.mp hne
        obtain ⟨-, -, best, hbest, -, hargs⟩ := Signature.bind?_eq_some_iff.mp hb
        rw [horder] at hargs
        have haccepts := Signature.accepts_of_bind? hb
        rw [hparameters, hargs.2] at haccepts
        obtain ⟨t, _, ht, hrest, rfl⟩ := List.forall₂_cons_left_iff.mp haccepts
        obtain ⟨u, _, hu, hnil, rfl⟩ := List.forall₂_cons_left_iff.mp hrest
        obtain rfl := List.forall₂_nil_left_iff.mp hnil
        obtain rfl := variants_eq hs.shows hbest
        have hpair :=
          hnone t.variant (hs.selecting _ (by simp)) u.variant (hs.selecting _ (by simp))
        rw [(List.isChain_cons_cons.mp hs.chain).1, Signature.contains_of_accepts ht,
          Signature.contains_of_accepts hu] at hpair
        contradiction
    · contradiction

/-- The phrases of a filter are selecting, and begin with a preposition. -/
lemma exists_of_spelled {f : Selection} {part : List Phrase} (h : f.Spelled part) :
    ∃ word variants, IsSelecting part (.preposition word :: variants) := by
  cases h with
  | «from» hword hp hq =>
      refine ⟨_, _, ⟨.cons hp (.cons hq.shows .nil), ?_, ?_⟩⟩
      · rcases hword with rfl | rfl <;> decide
      · simp [TokenVariant.mayPrecede]
  | carrying hp hq => exact ⟨_, _, ⟨.cons hp (.cons hq.shows .nil), by decide, by decide⟩⟩
  | @meeting _ _ _ _ property operator _ hp hq hr hn =>
      refine ⟨_, _, ⟨.cons hp (.cons hq.shows (.cons hr (.cons hn.shows .nil))), ?_, ?_⟩⟩
      · cases property <;> cases operator <;> decide
      · simp [TokenVariant.mayPrecede]
  | except hp hq => exact ⟨_, _, ⟨.cons hp (.cons hq.shows .nil), by decide, by decide⟩⟩
  | exceptSpeaker hp hq => exact ⟨_, _, ⟨.cons hp (.cons hq .nil), by decide, by decide⟩⟩

end IsSelecting

lemma isSelecting_singleton {p : Phrase} (hp : p.Shows (.thing .player)) :
    IsSelecting [p] [.thing .player] :=
  ⟨.cons hp .nil, by decide, by decide⟩

/-- A selecting sentence that is empty or begins with a preposition. -/
def IsTail (s : Sentence) : Prop :=
  ∃ variants, IsSelecting s variants ∧ ∀ v ∈ variants.head?, ∃ word, v = .preposition word

lemma IsTail.append {s s' : Sentence} {variants : List TokenVariant} (hs' : IsTail s')
    (hs : IsSelecting s variants) : ∃ variants', IsSelecting (s ++ s') variants' := by
  obtain ⟨_, hs', hhead⟩ := hs'
  exact ⟨_, hs.append hs' hhead⟩

lemma isTail_of_spell {filters : List Selection} {s : Sentence} (h : Selection.Spell filters s) :
    IsTail s := by
  induction h with
  | nil => exact ⟨[], ⟨.nil, by simp, .nil⟩, by simp⟩
  | cons head _ ih =>
      obtain ⟨word, _, hpart⟩ := IsSelecting.exists_of_spelled head
      obtain ⟨_, hs, hhead⟩ := ih
      exact ⟨_, hpart.append hs hhead, fun v hv => ⟨word, by simpa using hv.symm⟩⟩

/-- Only the rules that take three phrases and come last take any of such a sentence. -/
lemma reductionStep?_of_isSelecting {ctx : Context} (hctx : ctx.grammar = .standard)
    {s : Sentence} {variants : List TokenVariant} (hs : IsSelecting s variants) :
    s.reductionStep? ctx = applyFirst? ctx.state (Grammar.standard.rulesOf .general 3) 3 s := by
  have hidle (tier : Tier) (count : Nat) (h : ¬(tier = .general ∧ count = 3)) :
      applyFirst? ctx.state (Grammar.standard.rulesOf tier count) count s = none := by
    refine applyFirst?_eq_none fun offset => List.findSome?_eq_none_iff.mpr fun r hr => ?_
    obtain ⟨hr, hplace⟩ := List.mem_filter.mp hr
    simp only [Bool.and_eq_true, decide_eq_true_eq, beq_iff_eq] at hplace
    rw [← hplace.1, ← hplace.2] at h
    rw [Rule.token?, (hs.window offset count).bind?_eq_none (Grammar.isIdle_of_mem hr h)]
    rfl
  rw [reductionStep?_standard hctx]
  simp only [List.findSome?_cons, List.findSome?_nil, hidle .joining _ (by simp),
    hidle .firstOrder _ (by simp), hidle .secondOrder _ (by simp), hidle .thirdOrder _ (by simp),
    hidle .general 2 (by simp)]
  cases applyFirst? ctx.state (Grammar.standard.rulesOf .general 3) 3 s <;> rfl

end Sentence

/-! ### Rules that select -/

/-- What rules that take three phrases in their order make of them is what the first of those that
accept their readings makes of these. -/
lemma Rule.findSome?_token? {state : State} {rules : List Rule}
    (hrules : ∀ r ∈ rules, r.signature.anyOrder = false ∧ r.signature.compatible = false
      ∧ r.arity = 3) {p q r : Phrase} {t u v : Token}
    (hp : p.tokens = [t]) (hq : q.tokens = [u]) (hr : r.tokens = [v]) :
    rules.findSome? (·.token? state [p, q, r])
      = rules.findSome? fun rule =>
          if rule.signature.acceptsInOrder [t, u, v] then
            rule.outcome state { text := joinText [p, q, r], tokens := [t, u, v] }
          else none := by
  induction rules with
  | nil => rfl
  | cons rule rules ih =>
      obtain ⟨horder, hcompatible, harity⟩ := hrules rule List.mem_cons_self
      rw [List.findSome?_cons, List.findSome?_cons,
        token?_inOrder state horder (by rw [hcompatible]; rfl) (.cons hp (.cons hq (.cons hr .nil)))
          harity.symm,
        ih fun r hr => hrules r (List.mem_cons_of_mem _ hr)]

/-- What the rules that select players make of three arguments. -/
def Filters.selected? (state : State) (b : Binding) : Option Token :=
  (Grammar.standard.rulesOf .general 3).findSome? fun r =>
    if r.signature.acceptsInOrder b.tokens then r.outcome state b else none

/-- The rules that take three phrases and come last, whose readings they take in their order. -/
lemma Filters.findSome?_token?_eq_selected? {state : State} {p q r : Phrase} {t u v : Token}
    (hp : p.tokens = [t]) (hq : q.tokens = [u]) (hr : r.tokens = [v]) :
    (Grammar.standard.rulesOf .general 3).findSome? (·.token? state [p, q, r])
      = selected? state { text := joinText [p, q, r], tokens := [t, u, v] } := by
  have hrules : Grammar.standard.rulesOf .general 3 = [Times.rules[8], rules[0], rules[2],
      rules[3], rules[4], rules[5]] := rfl
  refine Rule.findSome?_token? ?_ hp hq hr
  rw [hrules]
  decide

namespace Sentence

variable {ctx : Context} {p q r set : Phrase} {t u v : Token} {s : Sentence}
  {variants : List TokenVariant}

/-- Three phrases that the rules make something of are replaced, if they stand in front. -/
lemma applyFirst?_of_selected? (state : State) (hp : p.tokens = [t]) (hq : q.tokens = [u])
    (hr : r.tokens = [v]) {result : Token}
    (h : Filters.selected? state ⟨joinText [p, q, r], [t, u, v]⟩ = some result) :
    applyFirst? state (Grammar.standard.rulesOf .general 3) 3 (p :: q :: r :: s)
      = some (.ofToken (joinText [p, q, r]) result :: s) :=
  applyFirst?_of_eq_some rfl ((Filters.findSome?_token?_eq_selected? hp hq hr).trans h) s

/-- The search goes on behind a phrase, if the rules make nothing of the three that begin there. -/
lemma applyFirst?_of_selected?_eq_none (state : State) (hp : p.tokens = [t])
    (hq : q.tokens = [u]) (hr : r.tokens = [v])
    (h : Filters.selected? state ⟨joinText [p, q, r], [t, u, v]⟩ = none) :
    applyFirst? state (Grammar.standard.rulesOf .general 3) 3 (p :: q :: r :: s)
      = (applyFirst? state (Grammar.standard.rulesOf .general 3) 3 (q :: r :: s)).map (p :: ·) :=
  applyFirst?_of_eq_none ((Filters.findSome?_token?_eq_selected? hp hq hr).trans h)

/-- Players in front of two phrases that the rules take as a filter. -/
lemma exists_leads_of_selected? (hctx : ctx.grammar = .standard)
    (hs : IsSelecting (p :: q :: r :: s) variants) (hp : p.tokens = [t]) (hq : q.tokens = [u])
    (hr : r.tokens = [v]) {players : List Player} {keep : Player → Bool} {f : Selection}
    (h : Filters.selected? ctx.state ⟨joinText [p, q, r], [t, u, v]⟩
      = some (Filters.result ⟨joinText [p, q, r], [t, u, v]⟩ (players.filter keep)))
    (hkeep : ∀ p, keep p = true ↔ f.Admits ctx.state.speaker p) :
    ∃ p', Repetition.Leads (fun s s' => reductionStep? ctx s = some s') 1 (p :: q :: r :: s)
        (p' :: s)
      ∧ p'.Means (.thing .player)
        (some (.players (Selection.select ctx.state.speaker [f] players))) := by
  have hstep := (reductionStep?_of_isSelecting hctx hs).trans
    (applyFirst?_of_selected? ctx.state hp hq hr h)
  refine ⟨_, .step hstep (.stay _), _, rfl, rfl, ?_⟩
  rw [Selection.select_singleton hkeep]
  rfl

/-- A property, a comparison and a number behind players and "with" become a condition: neither the
players nor "with" take the property as it is. -/
lemma exists_reductionStep?_condition (hctx : ctx.grammar = .standard) {word operand : Phrase}
    {c : PropertyCondition} (hs : IsSelecting (set :: word :: p :: q :: operand :: s) variants)
    (hset : set.Shows (.thing .player)) (hword : word.Shows (.preposition .with))
    (hp : p.Means (.numericProperty c.property) none) (hq : q.Shows (.equality c.operator))
    (hoperand : operand.Means .number (some (.number c.operand))) :
    ∃ p' : Phrase, p'.Means (.numericProperty c.property) (some (.condition c))
      ∧ reductionStep? ctx (set :: word :: p :: q :: operand :: s)
        = some (set :: word :: p' :: s) := by
  obtain ⟨⟨_, _, _, _, _⟩, hset, rfl⟩ := hset
  obtain ⟨⟨_, _, _, _, _⟩, hword, rfl⟩ := hword
  obtain ⟨⟨_, _, _, _, _⟩, hp, rfl, rfl⟩ := hp
  obtain ⟨⟨_, _, _, _, _⟩, hq, rfl⟩ := hq
  obtain ⟨⟨_, _, _, _, _⟩, hoperand, rfl, rfl⟩ := hoperand
  have hfirst :=
    applyFirst?_of_selected?_eq_none (s := q :: operand :: s) ctx.state hset hword hp rfl
  rw [applyFirst?_of_selected?_eq_none ctx.state hword hp hq rfl,
    applyFirst?_of_selected? ctx.state hp hq hoperand rfl] at hfirst
  exact ⟨_, ⟨_, rfl, rfl, rfl⟩, (reductionStep?_of_isSelecting hctx hs).trans hfirst⟩

/-- A filter behind players is applied to them. -/
lemma exists_leads_of_spelled (hctx : ctx.grammar = .standard) {players : List Player}
    (hset : set.Means (.thing .player) (some (.players players))) {f : Selection}
    {part : List Phrase} (hpart : f.Spelled part) (hs : IsTail s) :
    ∃ p, Repetition.Leads (fun s s' => reductionStep? ctx s = some s') f.steps
        (set :: (part ++ s)) (p :: s)
      ∧ p.Means (.thing .player)
        (some (.players (Selection.select ctx.state.speaker [f] players))) := by
  have hshows := hset.shows
  obtain ⟨word, _, hbehind⟩ := IsSelecting.exists_of_spelled hpart
  have hfront := (isSelecting_singleton hshows).append hbehind fun v hv =>
    ⟨word, by simpa using hv.symm⟩
  obtain ⟨_, hall⟩ := hs.append hfront
  obtain ⟨⟨_, _, _, _, _⟩, hset, rfl, rfl⟩ := hset
  cases hpart with
  | @«from» _ _ _ countries hword hp hq =>
      obtain ⟨⟨_, _, _, _, _⟩, hp, rfl⟩ := hp
      obtain ⟨⟨_, _, _, _, _⟩, hq, rfl, rfl⟩ := hq
      rcases hword with rfl | rfl
      · exact exists_leads_of_selected? hctx hall hset hp hq rfl fun p => List.any_eq_true
      · exact exists_leads_of_selected? hctx hall hset hp hq rfl fun p => List.any_eq_true
  | carrying hp hq =>
      obtain ⟨⟨_, _, _, _, _⟩, hp, rfl⟩ := hp
      obtain ⟨⟨_, _, _, _, _⟩, hq, rfl, rfl⟩ := hq
      exact exists_leads_of_selected? hctx hall hset hp hq rfl fun p => List.any_eq_true
  | @meeting p q _ _ property operator operand hp hq hr hn =>
      obtain ⟨q', hq', hcompared⟩ := exists_reductionStep?_condition
        (c := { property, operator, operand }) hctx hall hshows hp hq hr hn
      have hthree : IsSelecting [set, p, q']
          [.thing .player, .preposition .with, .numericProperty property] := by
        refine ⟨.cons hshows (.cons hp (.cons hq'.shows .nil)), ?_, ?_⟩
        · cases property <;> decide
        · simp [TokenVariant.mayPrecede]
      obtain ⟨_, hnext⟩ := hs.append hthree
      obtain ⟨⟨_, _, _, _, _⟩, hp, rfl⟩ := hp
      obtain ⟨⟨_, _, _, _, _⟩, hq', rfl, rfl⟩ := hq'
      obtain ⟨p, hleads, hmeans⟩ := exists_leads_of_selected?
        (f := .meeting { property, operator, operand }) hctx hnext hset hp hq' rfl fun p => Iff.rfl
      exact ⟨p, .step hcompared hleads, hmeans⟩
  | except hp hq =>
      obtain ⟨⟨_, _, _, _, _⟩, hp, rfl⟩ := hp
      obtain ⟨⟨_, _, _, _, _⟩, hq, rfl, rfl⟩ := hq
      exact exists_leads_of_selected? hctx hall hset hp hq rfl fun p => by
        simp [Selection.Admits, samePlayer]
  | exceptSpeaker hp hq =>
      obtain ⟨⟨_, _, _, _, _⟩, hp, rfl⟩ := hp
      obtain ⟨⟨_, _, _, _, _⟩, hq, rfl⟩ := hq
      exact exists_leads_of_selected? hctx hall hset hp hq rfl fun p => by
        simp [Selection.Admits, samePlayer]

/-- **The filter behind the players is always the next to be applied**, so filters are applied in
their order. -/
theorem leads_of_spell (hctx : ctx.grammar = .standard) {filters : List Selection}
    (hs : Selection.Spell filters s) {players : List Player}
    (hset : set.Means (.thing .player) (some (.players players))) :
    ∃ p, Repetition.Leads (fun s s' => reductionStep? ctx s = some s')
        (filters.map Selection.steps).sum (set :: s) [p]
      ∧ p.Means (.thing .player)
        (some (.players (Selection.select ctx.state.speaker filters players))) := by
  induction hs generalizing set players with
  | nil => exact ⟨set, .stay _, by simpa [Selection.select] using hset⟩
  | cons head tail ih =>
      obtain ⟨q, hfirst, hq⟩ := exists_leads_of_spelled hctx hset head (isTail_of_spell tail)
      obtain ⟨p, hrest, hp⟩ := ih hq
      rw [← Selection.select_cons] at hp
      exact ⟨p, hfirst.trans hrest, hp⟩

/-- **Filters select the players that pass all of them.** Players with any filters behind them, in
any order, are reduced to the players of the set that pass every filter, in the order of the set. -/
theorem reduce_selection (hctx : ctx.grammar = .standard) {players : List Player}
    (hset : set.Means (.thing .player) (some (.players players))) {filters order : List Selection}
    (horder : order.Perm filters) (hs : Selection.Spell order s)
    (hbudget : (filters.map Selection.steps).sum ≤ ctx.budget) :
    ∃ p, reduce ctx (set :: s) = { sentence := [p] }
      ∧ p.Means (.thing .player)
        (some (.players (Selection.select ctx.state.speaker filters players))) := by
  obtain ⟨p, hleads, hp⟩ := leads_of_spell hctx hs hset
  have hread : withoutUnread (set :: s) = set :: s :=
    let ⟨_, hall⟩ := (isTail_of_spell hs).append (isSelecting_singleton hset.shows)
    hall.withoutUnread
  have hstop : reductionStep? ctx [p] = none := by
    rw [reductionStep?_of_isSelecting hctx (isSelecting_singleton hp.shows)]
    rfl
  rw [(horder.map Selection.steps).sum_nat] at hleads
  rw [Selection.select_of_perm horder] at hp
  exact ⟨p, reduce_of_leads hread hleads hstop hbudget, hp⟩

/-- Of two players from Australia, the one that speaks is left out. -/
theorem exists_reduce_selection :
    ∃ p, reduce { grammar := .standard, catalog := .empty, state := .demo }
        [.reading "players" (.thing .player) (some (.players Demo.players)),
          .reading "with" (.preposition .with), .reading "ping" (.numericProperty .ping),
          .reading ">" (.equality .greaterThan), .reading "40" .number (some (.number 40)),
          .reading "except" (.preposition .except), .reading "me" .selfReflection,
          .reading "in" (.preposition .in),
          .reading "australia" (.thing .location) (some (.locations ["australia"]))]
        = { sentence := [p] }
      ∧ p.Means (.thing .player)
        (some (.players (Demo.players.filter fun p => p.name = "Imisnew2"))) := by
  let c : PropertyCondition := { property := .ping, operator := .greaterThan, operand := 40 }
  have hs : Selection.Spell [.meeting c, .exceptSpeaker, .from ["australia"]]
      [.reading "with" (.preposition .with), .reading "ping" (.numericProperty .ping),
        .reading ">" (.equality .greaterThan), .reading "40" .number (some (.number 40)),
        .reading "except" (.preposition .except), .reading "me" .selfReflection,
        .reading "in" (.preposition .in),
        .reading "australia" (.thing .location) (some (.locations ["australia"]))] :=
    .cons (.meeting (Phrase.means_reading ..).shows (Phrase.means_reading ..)
        (Phrase.means_reading ..).shows (Phrase.means_reading ..)) <|
      .cons (.exceptSpeaker (Phrase.means_reading ..).shows (Phrase.means_reading ..).shows) <|
        .cons (.from (.inr rfl) (Phrase.means_reading ..).shows (Phrase.means_reading ..)) .nil
  have hselect : Selection.select State.demo.speaker
      [.from ["australia"], .meeting c, .exceptSpeaker] Demo.players
      = Demo.players.filter fun p => p.name = "Imisnew2" := by decide +kernel
  have horder : [Selection.meeting c, .exceptSpeaker, .from ["australia"]].Perm
      [.from ["australia"], .meeting c, .exceptSpeaker] :=
    ((List.Perm.swap ..).cons _).trans (.swap ..)
  rw [← hselect]
  exact reduce_selection rfl (Phrase.means_reading ..) horder hs (by decide)

end Sentence

end ChatCommand
