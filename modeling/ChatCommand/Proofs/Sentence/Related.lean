/-
Reduction of related sentences.

* `Phrase.Related`, `Sentence.Related`: the same spans, with readings that are related one by one;
* `Signature.rel_bind?`: whether phrases satisfy a signature is a matter of the variants of their
  readings;
* `Rule.Respects`: a rule makes related tokens of related arguments, or none of either;
* `Sentence.rel_reductionStep?`: rules that do so reduce related sentences to related ones;
* `Sentence.related_reduce`: **so do all reductions, as many steps for each, up to the same fault**.
-/
import Mathlib.Data.List.Forall2
import ChatCommand.Proofs.Sentence.TokenInvariant

namespace ChatCommand

variable {R : Token → Token → Prop}

/-! ### Related results -/

section Results

variable {α β γ δ ι : Type} {P : α → β → Prop} {Q : γ → δ → Prop}

/-- Related results are both missing, or both there and related. -/
lemma rel_iff {a : Option α} {b : Option β} :
    Option.Rel P a b ↔
      a = none ∧ b = none ∨ ∃ x y, a = some x ∧ b = some y ∧ P x y := by
  constructor
  · rintro (⟨hxy⟩ | _)
    · exact .inr ⟨_, _, rfl, rfl, hxy⟩
    · exact .inl ⟨rfl, rfl⟩
  · rintro (⟨rfl, rfl⟩ | ⟨x, y, rfl, rfl, hxy⟩)
    · exact .none
    · exact .some hxy

/-- Computations that may fail, of which the second goes on related results alike. -/
lemma rel_bind {a : Option α} {b : Option β} {f : α → Option γ} {g : β → Option δ}
    (h : Option.Rel P a b) (hfg : ∀ x y, P x y → Option.Rel Q (f x) (g y)) :
    Option.Rel Q (a.bind f) (b.bind g) := by
  cases h with
  | none => exact .none
  | some hxy => exact hfg _ _ hxy

lemma rel_map {a : Option α} {b : Option β} {f : α → γ} {g : β → δ} (h : Option.Rel P a b)
    (hfg : ∀ x y, P x y → Q (f x) (g y)) : Option.Rel Q (a.map f) (b.map g) := by
  cases h with
  | none => exact .none
  | some hxy => exact .some (hfg _ _ hxy)

lemma rel_map_right_iff {f : δ → β} {a : Option α} {b : Option δ} :
    Option.Rel P a (b.map f) ↔ Option.Rel (fun x y => P x (f y)) a b := by
  cases b with
  | none => simp [rel_iff]
  | some y => simp [rel_iff]

/-- Where alternatives are related one by one, so is the one that is taken. -/
lemma rel_or {a a' : Option α} {b b' : Option β} (h : Option.Rel P a b)
    (h' : Option.Rel P a' b') : Option.Rel P (a.or a') (b.or b') := by
  cases h with
  | none => exact h'
  | some hxy => exact .some hxy

/-- Of findings that are related one by one the first are related. -/
lemma rel_findSome? {f : ι → Option α} {g : ι → Option β} {l : List ι}
    (h : ∀ i ∈ l, Option.Rel P (f i) (g i)) :
    Option.Rel P (l.findSome? f) (l.findSome? g) := by
  induction l with
  | nil => exact .none
  | cons i l ih =>
      rw [List.findSome?_cons, List.findSome?_cons]
      rcases rel_iff.mp (h i List.mem_cons_self) with ⟨hf, hg⟩ | ⟨x, y, hf, hg, hxy⟩
      · rw [hf, hg]
        exact ih fun j hj => h j (List.mem_cons_of_mem _ hj)
      · rw [hf, hg]
        exact .some hxy

/-- Related steps make runs of one length from related starts to related ends. -/
lemma Repetition.rel_run {f : α → Option α} {g : β → Option β}
    (h : ∀ a b, P a b → Option.Rel P (f a) (g b)) (budget : Nat) {a : α} {b : β} (hab : P a b) :
    P (run f budget a).1 (run g budget b).1 ∧ (run f budget a).2 = (run g budget b).2 := by
  induction budget generalizing a b with
  | zero =>
      rw [run_zero, run_zero]
      rcases rel_iff.mp (h a b hab) with ⟨hf, hg⟩ | ⟨x, y, hf, hg, -⟩ <;> rw [hf, hg] <;>
        exact ⟨hab, rfl⟩
  | succ budget ih =>
      rcases rel_iff.mp (h a b hab) with ⟨hf, hg⟩ | ⟨x, y, hf, hg, hxy⟩
      · rw [run_of_eq_none hf, run_of_eq_none hg]
        exact ⟨hab, rfl⟩
      · rw [run_succ hf, run_succ hg]
        exact ih hxy

end Results

/-! ### Related sentences -/

/-- Phrases of one span, with readings that are related one by one. -/
structure Phrase.Related (R : Token → Token → Prop) (p q : Phrase) : Prop where
  text : p.text = q.text
  tokens : List.Forall₂ R p.tokens q.tokens

/-- Sentences of the same spans, with readings that are related one by one. -/
abbrev Sentence.Related (R : Token → Token → Prop) : Sentence → Sentence → Prop :=
  List.Forall₂ (Phrase.Related R)

/-- Arguments that were read in one text and are related one by one. -/
structure Binding.Related (R : Token → Token → Prop) (b c : Binding) : Prop where
  text : b.text = c.text
  tokens : List.Forall₂ R b.tokens c.tokens

/-- Seen from two states a rule makes related tokens of related arguments, or none of either. -/
def Rule.Respects (r : Rule) (state state' : State) (R : Token → Token → Prop) : Prop :=
  ∀ b c : Binding, b.Related R c → Option.Rel R (r.outcome state b) (r.outcome state' c)

lemma joinText_related {window window' : List Phrase} (h : Sentence.Related R window window') :
    joinText window = joinText window' := by
  have htexts : window.map Phrase.text = window'.map Phrase.text := by
    induction h with
    | nil => rfl
    | cons hp _ ih => rw [List.map_cons, List.map_cons, hp.text, ih]
  have hjoin (window : List Phrase) :
      joinText window = (window.map Phrase.text).foldl appendSpan "" := List.foldl_map.symm
  rw [hjoin, hjoin, htexts]

lemma Phrase.Related.best? {p q : Phrase} (h : p.Related R q) : Option.Rel R p.best? q.best? := by
  obtain ⟨_, ts⟩ := p
  obtain ⟨_, us⟩ := q
  have htokens : List.Forall₂ R ts us := h.tokens
  cases htokens with
  | nil => exact .none
  | cons htu _ => exact .some htu

lemma rel_mapM_best? {window window' : List Phrase} (h : Sentence.Related R window window') :
    Option.Rel (List.Forall₂ R) (window.mapM Phrase.best?) (window'.mapM Phrase.best?) := by
  induction h with
  | nil => exact .some .nil
  | cons hp _ ih =>
      rw [List.mapM_cons, List.mapM_cons]
      exact rel_bind hp.best? fun t u htu =>
        rel_bind ih fun ts us htus => .some (.cons htu htus)

/-! ### Signatures -/

namespace Signature

variable (hvariant : ∀ t u, R t u → t.variant = u.variant) (s : Signature)

include hvariant

lemma accepts_eq {t u : Token} (h : R t u) (parameter : TokenClass) :
    s.accepts parameter t = s.accepts parameter u := by
  rw [accepts, accepts, hvariant t u h]

lemma pairwiseCompatible_eq {ts us : List Token} (h : List.Forall₂ R ts us) :
    pairwiseCompatible ts = pairwiseCompatible us := by
  induction h with
  | nil => rfl
  | @cons t u ts us htu htus ih =>
      have hall : ts.all (fun v => t.variant.isCompatible v.variant)
          = us.all fun v => u.variant.isCompatible v.variant := by
        rw [hvariant t u htu]
        clear ih
        induction htus with
        | nil => rfl
        | cons hvw _ ih => rw [List.all_cons, List.all_cons, hvariant _ _ hvw, ih]
      rw [pairwiseCompatible, pairwiseCompatible, hall, ih]

lemma acceptsInOrder_eq {ts us : List Token} (h : List.Forall₂ R ts us) :
    s.acceptsInOrder ts = s.acceptsInOrder us := by
  have hzip (parameters : List TokenClass) :
      ((parameters.zip ts).all fun place => s.accepts place.1 place.2)
        = (parameters.zip us).all fun place => s.accepts place.1 place.2 := by
    induction h generalizing parameters with
    | nil => rfl
    | cons htu _ ih =>
        cases parameters with
        | nil => rfl
        | cons parameter parameters =>
            rw [List.zip_cons_cons, List.zip_cons_cons, List.all_cons, List.all_cons, ih]
            exact congrArg (· && _) (accepts_eq hvariant s htu parameter)
  exact hzip s.parameters

lemma rel_takeFirst? (parameter : TokenClass) {ts us : List Token} (h : List.Forall₂ R ts us) :
    Option.Rel (fun x y => R x.1 y.1 ∧ List.Forall₂ R x.2 y.2)
      (takeFirst? (s.accepts parameter) ts) (takeFirst? (s.accepts parameter) us) := by
  induction h with
  | nil => exact .none
  | cons htu htus ih =>
      rw [takeFirst?, takeFirst?, accepts_eq hvariant s htu]
      split
      · exact .some ⟨htu, htus⟩
      · exact rel_map ih fun x y hxy => ⟨hxy.1, .cons htu hxy.2⟩

lemma rel_assign? (parameters : List TokenClass) {ts us : List Token} (h : List.Forall₂ R ts us) :
    Option.Rel (List.Forall₂ R) (s.assign? parameters ts) (s.assign? parameters us) := by
  induction parameters generalizing ts us with
  | nil => exact .some .nil
  | cons parameter parameters ih =>
      rw [assign?, assign?]
      exact rel_bind (rel_takeFirst? hvariant s parameter h) fun x y hxy =>
        rel_bind (ih hxy.2) fun _ _ hothers => .some (.cons hxy.1 hothers)

/-- Of related phrases both or none satisfy a signature, with related arguments. -/
lemma rel_bind? {window window' : List Phrase} (h : Sentence.Related R window window') :
    Option.Rel (Binding.Related R) (s.bind? window) (s.bind? window') := by
  have hproduce {ts us : List Token} (htus : List.Forall₂ R ts us) :
      Option.Rel (Binding.Related R) (some { text := joinText window, tokens := ts })
        (some { text := joinText window', tokens := us }) :=
    .some ⟨joinText_related h, htus⟩
  rw [bind?, bind?, h.length_eq]
  split
  · exact .none
  refine rel_bind (rel_mapM_best? h) fun ts us htus => ?_
  rw [pairwiseCompatible_eq hvariant htus, acceptsInOrder_eq hvariant s htus]
  cases s.compatible && !pairwiseCompatible us
  · cases s.anyOrder
    · cases s.acceptsInOrder us
      · exact .none
      · exact hproduce htus
    · exact rel_bind (rel_assign? hvariant s s.parameters htus) fun _ _ => hproduce
  · exact .none

end Signature

/-- A rule that respects the relation makes related tokens of related phrases. -/
lemma Rule.rel_token? (hvariant : ∀ t u, R t u → t.variant = u.variant) {r : Rule}
    {state state' : State} (hr : r.Respects state state' R) {window window' : List Phrase}
    (h : Sentence.Related R window window') :
    Option.Rel R (r.token? state window) (r.token? state' window') :=
  rel_bind (r.signature.rel_bind? hvariant h) hr

/-! ### Reduction -/

/-- Phrases that come in one place and are related. -/
structure Splice.Related (R : Token → Token → Prop) (a b : Splice) : Prop where
  offset : a.offset = b.offset
  count : a.count = b.count
  phrase : a.phrase.Related R b.phrase

namespace Sentence

variable {s s' : Sentence}

lemma Related.window (h : Related R s s') (offset count : Nat) :
    Related R (s.window offset count) (s'.window offset count) :=
  List.forall₂_take count (List.forall₂_drop offset h)

lemma Related.splice (h : Related R s s') {a b : Splice} (hab : a.Related R b) :
    Related R (s.splice a) (s'.splice b) := by
  rw [Sentence.splice, Sentence.splice, hab.offset, hab.count]
  exact List.rel_append (List.forall₂_take _ h) (.cons hab.phrase (List.forall₂_drop _ h))

lemma Related.withoutUnread (h : Related R s s') : Related R s.withoutUnread s'.withoutUnread := by
  refine List.rel_filter (fun p q hpq => ?_) h
  have hunread : p.isUnread = q.isUnread := by
    rw [Phrase.isUnread, Phrase.isUnread, Bool.eq_iff_iff, List.isEmpty_iff, List.isEmpty_iff,
      ← List.length_eq_zero_iff, ← List.length_eq_zero_iff, hpq.tokens.length_eq]
  show (!p.isUnread) = true ↔ (!q.isUnread) = true
  rw [hunread]

section Steps

variable (ctx : Context) {state' : State} (hvariant : ∀ t u, R t u → t.variant = u.variant)

include hvariant

lemma rel_reductionAt? {rules : List Rule} {state : State}
    (hrules : ∀ r ∈ rules, r.Respects state state' R) (h : Related R s s') (count offset : Nat) :
    Option.Rel (Splice.Related R) (reductionAt? state rules s count offset)
      (reductionAt? state' rules s' count offset) := by
  have hwindow := h.window offset count
  refine rel_map (rel_findSome? fun r hr => Rule.rel_token? hvariant (hrules r hr) hwindow) ?_
  exact fun t u htu => ⟨rfl, rfl, joinText_related hwindow, .cons htu .nil⟩

variable (hrules : ∀ r ∈ ctx.grammar.rules, r.Respects ctx.state state' R)

include hrules

/-- Rules that respect a relation reduce related sentences at the same place to related ones, or
none of either. -/
lemma rel_reductionStep? (h : Related R s s') :
    Option.Rel (Related R) (s.reductionStep? ctx)
      (s'.reductionStep? { ctx with state := state' }) := by
  refine rel_map (rel_findSome? fun tier _ => rel_findSome? fun count _ => ?_)
    fun a b hab => h.splice hab
  have hoffsets : s.offsets count = s'.offsets count := by
    rw [offsets, offsets, h.length_eq]
  rw [reductionBy?, reductionBy?, hoffsets]
  refine rel_findSome? fun offset _ => rel_reductionAt? hvariant (fun r hr => ?_) h count offset
  exact hrules r (List.mem_of_mem_filter hr)

/-- **Rules that respect a relation of readings of one variant reduce related sentences to related
ones**, in as many steps, and the budget stops both or none. -/
theorem related_reduce (h : Related R s s') :
    Related R (s.reduce ctx).sentence (s'.reduce { ctx with state := state' }).sentence
      ∧ (s.reduce ctx).fault? = (s'.reduce { ctx with state := state' }).fault? := by
  obtain ⟨hends, hexceeded⟩ := Repetition.rel_run
    (fun _ _ hab => rel_reductionStep? ctx hvariant hrules hab) ctx.budget h.withoutUnread
  refine ⟨hends, ?_⟩
  show (if _ then _ else _) = (if _ then _ else _)
  rw [hexceeded]

end Steps

end Sentence

end ChatCommand
