/-
Things of one kind beside each other, or with words between them.

* `Phrase.Lists`, `Sentence.Lists`, `Phrase.Separates`: phrases that list things, and "and" or a
  comma;
* `Joining.exists_findSome?_narrow`, `Joining.exists_findSome?_unite`: what the rules make of two
  lists of one kind, beside each other and with a separator between them;
* `Sentence.exists_reduce_of_lists`: lists beside each other are narrowed or joined from left to
  right;
* `Sentence.reduce_neighbours`: **lists beside each other are reduced to one list of things from
  them, which is empty exactly if one of them is**;
* `ThingKind.Enumerates`: lists with a separator in front of each of them;
* `Sentence.reduce_enumeration`: **an enumeration is reduced to all that it lists, in the order in
  which it is first mentioned**.
-/
import ChatCommand.Proofs.Grammar.Entities
import ChatCommand.Proofs.Grammar.Selection

namespace ChatCommand

/-! ### Phrases -/

/-- The phrase has one reading, which lists these things. -/
def Phrase.Lists (p : Phrase) {kind : ThingKind} (list : List kind.Entity) : Prop :=
  p.Means (.thing kind) (some (.things list))

/-- The phrases list these things. -/
def Sentence.Lists (s : Sentence) {kind : ThingKind} (lists : List (List kind.Entity)) : Prop :=
  List.Forall₂ (fun p (list : List kind.Entity) => Phrase.Lists p list) s lists

/-- The phrase has one reading, which is "and" or a comma. -/
def Phrase.Separates (p : Phrase) : Prop :=
  p.Shows (.logical .and) ∨ p.Shows (.punctuation .comma)

/-! ### Rules -/

namespace Joining

variable {kind : ThingKind} {p q word : Phrase} {a b : List kind.Entity}

/-- Neighbours that list things of one kind become what they mean together. -/
lemma exists_findSome?_narrow (state : State) (hp : p.Lists a) (hq : q.Lists b) :
    ∃ t, [rules[3]].findSome? (·.token? state [p, q]) = some t
      ∧ (Phrase.ofToken (joinText [p, q]) t).Lists (ThingKind.meant a b) := by
  obtain ⟨⟨_, _, _, _, _⟩, hp, rfl, rfl⟩ := hp
  obtain ⟨⟨_, _, _, _, _⟩, hq, rfl, rfl⟩ := hq
  rw [List.findSome?_singleton,
    Rule.token?_inOrder state rfl (by cases kind <;> rfl) (.cons hp (.cons hq .nil)) rfl,
    if_pos (by cases kind <;> rfl)]
  have houtcome : rules[3].outcome = narrow := rfl
  simp only [houtcome, narrow, Option.bind_eq_bind, Option.bind_some, ThingKind.narrow?_things]
  exact ⟨_, rfl, _, rfl, rfl, rfl⟩

/-- The rule for neighbours takes no separators. -/
lemma findSome?_narrow_eq_none (state : State) (hp : p.Lists a) (hword : word.Separates) :
    [rules[3]].findSome? (·.token? state [p, word]) = none
      ∧ [rules[3]].findSome? (·.token? state [word, p]) = none := by
  obtain ⟨⟨_, _, _, _, _⟩, hp, rfl, rfl⟩ := hp
  rw [List.findSome?_singleton, List.findSome?_singleton]
  rcases hword with ⟨⟨_, _, _, _, _⟩, hword, rfl⟩ | ⟨⟨_, _, _, _, _⟩, hword, rfl⟩
  all_goals
    constructor
    · rw [Rule.token?_inOrder state rfl (by cases kind <;> rfl) (.cons hp (.cons hword .nil)) rfl,
        if_neg (by cases kind <;> exact Bool.false_ne_true)]
    · rw [Rule.token?_inOrder state rfl (by cases kind <;> rfl) (.cons hword (.cons hp .nil)) rfl,
        if_neg (by cases kind <;> exact Bool.false_ne_true)]

/-- Lists of one kind with a separator between them become their union. -/
lemma exists_findSome?_unite (state : State) (hp : p.Lists a) (hword : word.Separates)
    (hq : q.Lists b) :
    ∃ t, [rules[0], rules[1]].findSome? (·.token? state [p, word, q]) = some t
      ∧ (Phrase.ofToken (joinText [p, word, q]) t).Lists (unionBy kind.same a b) := by
  have houtcomes : rules[0].outcome = unite ∧ rules[1].outcome = unite := ⟨rfl, rfl⟩
  obtain ⟨⟨_, _, _, _, _⟩, hp, rfl, rfl⟩ := hp
  obtain ⟨⟨_, _, _, _, _⟩, hq, rfl, rfl⟩ := hq
  rw [List.findSome?_cons, List.findSome?_singleton]
  rcases hword with ⟨⟨_, _, _, _, _⟩, hword, rfl⟩ | ⟨⟨_, _, _, _, _⟩, hword, rfl⟩
  · have hwindow : List.Forall₂ (fun p t => Phrase.tokens p = [t]) [p, word, q] _ :=
      .cons hp (.cons hword (.cons hq .nil))
    rw [Rule.token?_inOrder state rfl (by cases kind <;> rfl) hwindow rfl,
      if_pos (by cases kind <;> rfl)]
    simp only [houtcomes.1, unite, Option.bind_eq_bind, Option.bind_some, Value.union?_things]
    exact ⟨_, rfl, _, rfl, rfl, rfl⟩
  · have hwindow : List.Forall₂ (fun p t => Phrase.tokens p = [t]) [p, word, q] _ :=
      .cons hp (.cons hword (.cons hq .nil))
    rw [Rule.token?_inOrder state rfl (by cases kind <;> rfl) hwindow rfl,
      if_neg (by cases kind <;> exact Bool.false_ne_true),
      Rule.token?_inOrder state rfl (by cases kind <;> rfl) hwindow rfl,
      if_pos (by cases kind <;> rfl)]
    simp only [houtcomes.2, unite, Option.bind_eq_bind, Option.bind_some, Value.union?_things]
    exact ⟨_, rfl, _, rfl, rfl, rfl⟩

end Joining

/-! ### Neighbours -/

namespace Sentence

variable {ctx : Context} {kind : ThingKind} {first : List kind.Entity}
  {others : List (List kind.Entity)} {p : Phrase} {s : Sentence}

lemma Lists.hasVariants (hs : s.Lists others) : s.HasVariants [.thing kind] := by
  intro p hp
  obtain ⟨list, -, t, htokens, hvariant, -⟩ := exists_mem_of_forall₂ hs p hp
  exact ⟨t, htokens, List.mem_singleton.mpr hvariant⟩

/-- In a sentence of things of one kind the rule for neighbours is the only one that may apply. -/
lemma Lists.reductionStep?_eq (hctx : ctx.grammar = .standard) (hs : s.Lists others) :
    s.reductionStep? ctx = applyFirst? ctx.state [Joining.rules[3]] 2 s := by
  have hsearches : Grammar.searches [.thing kind] = [([Joining.rules[3]], 2)] := by
    cases kind <;> rfl
  rw [reductionStep?_of_variants hctx hs.hasVariants, hsearches, List.findSome?_singleton]

/-- A phrase that lists things is left alone. -/
lemma reductionStep?_singleton (hctx : ctx.grammar = .standard) (hp : p.Lists first) :
    reductionStep? ctx [p] = none := by
  have hs : Lists [p] [first] := .cons hp .nil
  rw [hs.reductionStep?_eq hctx]
  rfl

/-- Lists beside each other are narrowed or joined from left to right. -/
lemma exists_leads_of_lists (hctx : ctx.grammar = .standard) (hp : p.Lists first)
    (hs : s.Lists others) :
    ∃ r, Repetition.Leads (fun s s' => reductionStep? ctx s = some s') s.length (p :: s) [r]
      ∧ r.Lists (others.foldl ThingKind.meant first) := by
  induction hs generalizing first p with
  | nil => exact ⟨p, .stay _, hp⟩
  | @cons q second s others hq hs ih =>
      obtain ⟨t, hfirst, hlists⟩ := Joining.exists_findSome?_narrow ctx.state hp hq
      have hall : Lists (p :: q :: s) (first :: second :: others) := .cons hp (.cons hq hs)
      have hstep : reductionStep? ctx (p :: q :: s)
          = some (.ofToken (joinText [p, q]) t :: s) :=
        (hall.reductionStep?_eq hctx).trans (applyFirst?_of_eq_some rfl hfirst s)
      obtain ⟨r, hleads, hr⟩ := ih hlists
      exact ⟨r, .step hstep hleads, hr⟩

/-- Lists beside each other are reduced to one. -/
lemma exists_reduce_of_lists (hctx : ctx.grammar = .standard) (hp : p.Lists first)
    (hs : s.Lists others) (hbudget : s.length ≤ ctx.budget) :
    ∃ r, reduce ctx (p :: s) = { sentence := [r] }
      ∧ r.Lists (others.foldl ThingKind.meant first) := by
  obtain ⟨r, hleads, hr⟩ := exists_leads_of_lists hctx hp hs
  have hall : Lists (p :: s) (first :: others) := .cons hp hs
  have hread := hall.hasVariants.withoutUnread
  exact ⟨r, reduce_of_leads hread hleads (reductionStep?_singleton hctx hr) hbudget, hr⟩

/-- **Lists beside each other are empty together exactly if one of them is empty.** Lists of things
of one kind beside each other are reduced to one phrase. What it lists is listed by one of them, and
it lists something exactly if each of them does. -/
theorem reduce_neighbours (hctx : ctx.grammar = .standard) {lists : List (List kind.Entity)}
    (hne : s ≠ []) (hs : s.Lists lists) (hbudget : s.length ≤ ctx.budget + 1) :
    ∃ r, ∃ all : List kind.Entity, reduce ctx s = { sentence := [r] } ∧ r.Lists all
      ∧ (∀ x ∈ all, ∃ list ∈ lists, x ∈ list) ∧ (all ≠ [] ↔ ∀ list ∈ lists, list ≠ []) := by
  cases hs with
  | nil => contradiction
  | @cons p first s others hp hs =>
      obtain ⟨r, hreduce, hr⟩ := exists_reduce_of_lists hctx hp hs (Nat.le_of_succ_le_succ hbudget)
      refine ⟨r, _, hreduce, hr, fun x hx => ThingKind.mem_of_mem_foldl_meant hx, ?_⟩
      rw [ne_eq, ThingKind.foldl_meant_eq_nil_iff]
      exact ⟨fun hall list hlist hnil => hall (hnil ▸ hlist), fun hall hnil => hall [] hnil rfl⟩

/-- A group of players beside one of them. -/
theorem exists_reduce_neighbours :
    ∃ r, ∃ all : List Player,
      reduce { grammar := .standard, catalog := .empty, state := .demo }
          [.reading "players" (.thing .player) (some (.players Demo.players)),
            .reading "phogue" (.thing .player) (some (.players [Demo.phogue]))]
          = { sentence := [r] }
        ∧ r.Means (.thing .player) (some (.players all)) ∧ all ≠ [] := by
  let lists : List (List ThingKind.player.Entity) := [Demo.players, [Demo.phogue]]
  have hs : Lists [.reading "players" (.thing .player) (some (.players Demo.players)),
      .reading "phogue" (.thing .player) (some (.players [Demo.phogue]))] lists :=
    .cons (Phrase.means_reading ..) (.cons (Phrase.means_reading ..) .nil)
  have hlists : ∀ list ∈ lists, list ≠ [] :=
    List.forall_mem_cons.mpr ⟨List.cons_ne_nil _ _,
      List.forall_mem_singleton.mpr (List.cons_ne_nil _ _)⟩
  have hctx : ({ grammar := .standard, catalog := .empty, state := .demo } : Context).grammar
      = .standard := rfl
  obtain ⟨r, all, hreduce, hr, -, hall⟩ :=
    reduce_neighbours hctx (List.cons_ne_nil _ _) hs (by decide)
  exact ⟨r, all, hreduce, hr, hall.mpr hlists⟩

/-- A player beside a filter that nobody passes is nobody. -/
theorem reduce_beside_nobody :
    ∃ r, reduce { grammar := .standard, catalog := .empty, state := .demo }
        [.reading "players with ping > 9999" (.thing .player) (some (.players [])),
          .reading "phogue" (.thing .player) (some (.players [Demo.phogue]))]
        = { sentence := [r] }
      ∧ r.Means (.thing .player) (some (.players [])) := by
  let lists : List (List ThingKind.player.Entity) := [[Demo.phogue]]
  have hs : Lists [.reading "phogue" (.thing .player) (some (.players [Demo.phogue]))] lists :=
    .cons (Phrase.means_reading ..) .nil
  have hnobody : (Phrase.reading "players with ping > 9999" (.thing .player)
      (some (.players []))).Lists ([] : List ThingKind.player.Entity) := Phrase.means_reading ..
  exact exists_reduce_of_lists rfl hnobody hs (by decide)

end Sentence

/-! ### Enumerations -/

/-- The phrases of some lists, with a separator in front of each of them. -/
inductive ThingKind.Enumerates (kind : ThingKind) : List (List kind.Entity) → Sentence → Prop
  | nil : Enumerates kind [] []
  | cons {list : List kind.Entity} {lists : List (List kind.Entity)} {word p : Phrase}
      {s : Sentence} (hword : word.Separates) (hp : p.Lists list)
      (rest : Enumerates kind lists s) : Enumerates kind (list :: lists) (word :: p :: s)

namespace ThingKind.Enumerates

variable {ctx : Context} {kind : ThingKind} {first : List kind.Entity}
  {others : List (List kind.Entity)} {p q : Phrase} {s : Sentence}

/-- Each phrase of an enumeration lists things or separates them. -/
lemma hasVariants (hs : kind.Enumerates others s) (hp : p.Lists first) :
    Sentence.HasVariants (p :: s) [.thing kind, .logical .and, .punctuation .comma] := by
  have hlist {q : Phrase} {list : List kind.Entity} (hq : q.Lists list) : ∃ t, q.tokens = [t]
      ∧ t.variant ∈ [.thing kind, .logical .and, .punctuation .comma] := by
    obtain ⟨t, htokens, hvariant, -⟩ := hq
    exact ⟨t, htokens, by simp [hvariant]⟩
  induction hs generalizing first p with
  | nil => exact List.forall_mem_singleton.mpr (hlist hp)
  | cons hword hq rest ih =>
      refine List.forall_mem_cons.mpr ⟨hlist hp, List.forall_mem_cons.mpr ⟨?_, ih hq⟩⟩
      rcases hword with ⟨t, htokens, hvariant⟩ | ⟨t, htokens, hvariant⟩
      · exact ⟨t, htokens, by simp [hvariant]⟩
      · exact ⟨t, htokens, by simp [hvariant]⟩

/-- No two lists stand beside each other. -/
lemma applyFirst?_narrow_eq_none (state : State) (hs : kind.Enumerates others s)
    (hp : p.Lists first) : Sentence.applyFirst? state [Joining.rules[3]] 2 (p :: s) = none := by
  induction hs generalizing first p with
  | nil => rfl
  | cons hword hq rest ih =>
      rw [Sentence.applyFirst?_of_eq_none (Joining.findSome?_narrow_eq_none state hp hword).1,
        Sentence.applyFirst?_of_eq_none (Joining.findSome?_narrow_eq_none state hq hword).2, ih hq]
      rfl

/-- The first two lists of an enumeration become their union. -/
lemma exists_reductionStep? (hctx : ctx.grammar = .standard) {second : List kind.Entity}
    {word : Phrase} (hp : p.Lists first) (hword : word.Separates) (hq : q.Lists second)
    (hs : kind.Enumerates others s) :
    ∃ r, Sentence.reductionStep? ctx (p :: word :: q :: s) = some (r :: s)
      ∧ r.Lists (unionBy kind.same first second) := by
  have hall := Enumerates.cons hword hq hs
  have hsearches : Grammar.searches [.thing kind, .logical .and, .punctuation .comma]
      = [([Joining.rules[3]], 2), ([Joining.rules[0], Joining.rules[1]], 3)] := by
    cases kind <;> rfl
  obtain ⟨t, hfirst, hlists⟩ := Joining.exists_findSome?_unite ctx.state hp hword hq
  have hjoined : Sentence.applyFirst? ctx.state [Joining.rules[0], Joining.rules[1]] 3
      (p :: word :: q :: s) = some (.ofToken (joinText [p, word, q]) t :: s) :=
    Sentence.applyFirst?_of_eq_some rfl hfirst s
  refine ⟨_, ?_, hlists⟩
  rw [Sentence.reductionStep?_of_variants hctx (hall.hasVariants hp), hsearches]
  simp only [List.findSome?_cons, hall.applyFirst?_narrow_eq_none ctx.state hp, hjoined]

/-- The lists of an enumeration are joined from left to right. -/
lemma exists_leads (hctx : ctx.grammar = .standard) (hs : kind.Enumerates others s)
    (hp : p.Lists first) :
    ∃ r, Repetition.Leads (fun s s' => Sentence.reductionStep? ctx s = some s') others.length
        (p :: s) [r]
      ∧ r.Lists (others.foldl (unionBy kind.same) first) := by
  induction hs generalizing first p with
  | nil => exact ⟨p, .stay _, hp⟩
  | cons hword hq rest ih =>
      obtain ⟨q, hstep, hq⟩ := exists_reductionStep? hctx hp hword hq rest
      obtain ⟨r, hleads, hr⟩ := ih hq
      exact ⟨r, .step hstep hleads, hr⟩

end ThingKind.Enumerates

namespace Sentence

variable {ctx : Context} {kind : ThingKind} {first : List kind.Entity}
  {others : List (List kind.Entity)} {p : Phrase} {s : Sentence}

/-- **An enumeration is reduced to all that it lists.** Lists of things of one kind, with "and" or
a comma between each two of them, are reduced to one phrase. It lists the things of all of them in
the order in which they are first mentioned, each once. -/
theorem reduce_enumeration (hctx : ctx.grammar = .standard) (hp : p.Lists first)
    (hs : kind.Enumerates others s) (hnodup : (first.map kind.identity).Nodup)
    (hbudget : others.length ≤ ctx.budget) :
    ∃ r, reduce ctx (p :: s) = { sentence := [r] }
      ∧ r.Lists ((first :: others).flatten.eraseDupsBy kind.same) := by
  obtain ⟨r, hleads, hr⟩ := hs.exists_leads hctx hp
  have hread := (hs.hasVariants hp).withoutUnread
  refine ⟨r, reduce_of_leads hread hleads (reductionStep?_singleton hctx hr) hbudget, ?_⟩
  rwa [← ThingKind.foldl_unionBy_same hnodup]

/-- Countries are the same whatever the case of their letters. -/
theorem exists_reduce_enumeration :
    ∃ r, reduce { grammar := .standard, catalog := .empty, state := .demo }
        [.reading "oceania" (.thing .location) (some (.locations ["Australia", "Fiji"])),
          .reading "," (.punctuation .comma),
          .reading "FIJI" (.thing .location) (some (.locations ["FIJI"])),
          .reading "and" (.logical .and),
          .reading "canada" (.thing .location) (some (.locations ["Canada", "australia"]))]
        = { sentence := [r] }
      ∧ r.Means (.thing .location) (some (.locations ["Australia", "Fiji", "Canada"])) := by
  let lists : List (List ThingKind.location.Entity) := [["FIJI"], ["Canada", "australia"]]
  have hs : ThingKind.location.Enumerates lists
      [.reading "," (.punctuation .comma),
        .reading "FIJI" (.thing .location) (some (.locations ["FIJI"])),
        .reading "and" (.logical .and),
        .reading "canada" (.thing .location) (some (.locations ["Canada", "australia"]))] :=
    .cons (.inr (Phrase.means_reading ..).shows) (Phrase.means_reading ..) <|
      .cons (.inl (Phrase.means_reading ..).shows) (Phrase.means_reading ..) .nil
  exact reduce_enumeration rfl (Phrase.means_reading ..) hs (by decide +kernel) (by decide)

end Sentence

end ChatCommand
