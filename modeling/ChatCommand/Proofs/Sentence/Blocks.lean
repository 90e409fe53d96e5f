/-
Sentences as partitions of what they began with.

* `Sentence.StandsFor`: the phrases stand for consecutive blocks that make up a list;
* `Sentence.StandsFor.replace`: so they do after one phrase has come in the place of neighbours, if
  it stands for all that these stand for;
* `Phrase.Joins`, `Phrase.ReducedFrom`: what a phrase has of its block in reading and in reduction;
* `Sentence.standsFor_of_mem_history`: **at every point of reading the phrases are the joined words
  of consecutive blocks of the input, and at every point of reduction the joined phrases of
  consecutive blocks of what has been read**.
-/
import Mathlib.Data.List.Forall2
import ChatCommand.Grammar.Standard
import ChatCommand.Proofs.Sentence.History
import ChatCommand.Proofs.Sentence.Steps
import ChatCommand.Proofs.Sentence.Texts

namespace ChatCommand

/-! ### Joined texts -/

/-- The spans of phrases that have a text are put together with single spaces. -/
lemma joinText_eq_intercalate {phrases : List Phrase} (h : ∀ p ∈ phrases, p.text ≠ "") :
    joinText phrases = " ".intercalate (phrases.map Phrase.text) := by
  induction phrases with
  | nil => rfl
  | cons p phrases ih =>
      obtain ⟨hp, hphrases⟩ := List.forall_mem_cons.mp h
      cases phrases with
      | nil => simp [joinText, appendSpan]
      | cons q phrases =>
          have hhead : ∃ q' ∈ (q :: phrases).head?, q'.text ≠ "" := ⟨q, rfl, hphrases q (by simp)⟩
          calc joinText (p :: q :: phrases)
              = (q :: phrases).foldl (fun text p => appendSpan text p.text) p.text := rfl
            _ = appendSpan p.text (joinText (q :: phrases)) := foldl_appendSpan hhead p.text
            _ = p.text ++ " " ++ joinText (q :: phrases) := appendSpan_of_ne_empty hp _
            _ = " ".intercalate ((p :: q :: phrases).map Phrase.text) := by
                rw [ih hphrases]
                simp

/-- Blocks that are put together one by one and then with each other are put together at once. -/
lemma intercalate_flatten {sep : String} {blocks : List (List String)} (h : ∀ b ∈ blocks, b ≠ []) :
    sep.intercalate (blocks.map sep.intercalate) = sep.intercalate blocks.flatten := by
  induction blocks with
  | nil => rfl
  | cons b blocks ih =>
      obtain ⟨hb, hblocks⟩ := List.forall_mem_cons.mp h
      cases blocks with
      | nil => simp
      | cons c blocks =>
          have hflat : (c :: blocks).flatten ≠ [] := by
            have := hblocks c (by simp)
            simp [this]
          rw [List.flatten_cons, String.intercalate_append_of_ne_nil hb hflat, ← ih hblocks]
          simp

lemma intercalate_ne_empty {words : List String} (h : words ≠ []) (hwords : ∀ w ∈ words, w ≠ "") :
    " ".intercalate words ≠ "" := by
  cases words with
  | nil => contradiction
  | cons w words =>
      have hw := hwords w (by simp)
      cases words with
      | nil => simpa using hw
      | cons v words => simp [hw]

/-! ### Blocks -/

/-- The text of the phrase is that of some pieces with single spaces between them. -/
def Phrase.Joins (p : Phrase) (pieces : List String) : Prop :=
  pieces ≠ [] ∧ p.text = " ".intercalate pieces

/-- The phrase has the joined text of a block of phrases, and is the only one of them as it was or
carries one token. -/
def Phrase.ReducedFrom (p : Phrase) (block : List Phrase) : Prop :=
  p.Joins (block.map Phrase.text) ∧ (block = [p] ∨ ∃ t, p.tokens = [t])

namespace Sentence

variable {α : Type} {R : Phrase → List α → Prop} {pieces : List α}

/-- The phrases stand, in order, for consecutive blocks that make up a list. -/
def StandsFor (R : Phrase → List α → Prop) (s : Sentence) (pieces : List α) : Prop :=
  ∃ blocks : List (List α), blocks.flatten = pieces ∧ List.Forall₂ R s blocks

/-- Blocks of a sentence in two parts are blocks of both parts. -/
lemma exists_of_forall₂_append {s s' : Sentence} {blocks : List (List α)}
    (h : List.Forall₂ R (s ++ s') blocks) :
    ∃ left right, blocks = left ++ right ∧ List.Forall₂ R s left ∧ List.Forall₂ R s' right := by
  refine ⟨blocks.take s.length, blocks.drop s.length, (List.take_append_drop _ _).symm, ?_, ?_⟩
  · simpa using List.forall₂_take s.length h
  · simpa using List.forall₂_drop s.length h

/-- One phrase in the place of neighbours: the blocks of these become one block. -/
lemma StandsFor.replace {before window after : Sentence} {p : Phrase}
    (hs : StandsFor R (before ++ (window ++ after)) pieces)
    (hp : ∀ blocks, List.Forall₂ R window blocks → (∀ x ∈ blocks.flatten, x ∈ pieces) →
      R p blocks.flatten) : StandsFor R (before ++ p :: after) pieces := by
  obtain ⟨blocks, rfl, hblocks⟩ := hs
  obtain ⟨left, blocks, rfl, hleft, hblocks⟩ := exists_of_forall₂_append hblocks
  obtain ⟨middle, right, rfl, hmiddle, hright⟩ := exists_of_forall₂_append hblocks
  have hjoined : R p middle.flatten := hp middle hmiddle fun x hx => by simp [hx]
  exact ⟨left ++ middle.flatten :: right, by simp, List.rel_append hleft (.cons hjoined hright)⟩

/-- Phrases are the joined words of blocks if no block is empty and their texts are those of the
blocks. -/
lemma forall₂_joins_iff {s : Sentence} {blocks : List (List String)} :
    List.Forall₂ Phrase.Joins s blocks ↔
      (∀ b ∈ blocks, b ≠ []) ∧ s.map Phrase.text = blocks.map " ".intercalate := by
  induction blocks generalizing s with
  | nil => simp
  | cons b blocks ih =>
      cases s with
      | nil => simp
      | cons p s => simp [ih, Phrase.Joins, and_assoc, and_left_comm]

/-- The joined words of blocks are texts, if the words are. -/
lemma hasTexts_of_joins {s : Sentence} {blocks : List (List String)}
    (h : List.Forall₂ Phrase.Joins s blocks) (hwords : ∀ w ∈ blocks.flatten, w ≠ "") :
    s.HasTexts := by
  induction h with
  | nil => simp [HasTexts]
  | cons hp _ ih =>
      simp only [List.flatten_cons, List.forall_mem_append] at hwords
      refine List.forall_mem_cons.mpr ⟨?_, ih hwords.2⟩
      rw [hp.2]
      exact intercalate_ne_empty hp.1 hwords.1

/-- Neighbours that are the joined words of blocks are put together into all these words. -/
lemma joins_of_forall₂ {window : List Phrase} {blocks : List (List String)} {p : Phrase}
    (hwindow : window ≠ []) (h : List.Forall₂ Phrase.Joins window blocks)
    (hwords : ∀ w ∈ blocks.flatten, w ≠ "") (hp : p.text = joinText window) :
    p.Joins blocks.flatten := by
  obtain ⟨hblocks, htexts⟩ := forall₂_joins_iff.mp h
  refine ⟨?_, ?_⟩
  · cases h with
    | nil => contradiction
    | cons hq _ => simp [hq.1]
  · rw [hp, joinText_eq_intercalate (hasTexts_of_joins h hwords), htexts,
      intercalate_flatten hblocks]

lemma StandsFor.hasTexts {s : Sentence} {words : List String} (hwords : ∀ w ∈ words, w ≠ "")
    (hs : s.StandsFor Phrase.Joins words) : s.HasTexts := by
  obtain ⟨blocks, rfl, hblocks⟩ := hs
  exact hasTexts_of_joins hblocks hwords

/-! ### Reading -/

/-- Before reading each phrase is a word. -/
lemma standsFor_ofWords (words : List String) : (ofWords words).StandsFor Phrase.Joins words := by
  refine ⟨words.map fun w => [w], ?_, forall₂_joins_iff.mpr ⟨by simp, ?_⟩⟩
  · rw [← List.flatMap_def, List.flatMap_singleton']
  · simp [ofWords, Function.comp_def]

/-- Tokenizing leaves the texts as they are. -/
lemma StandsFor.tokenize {s : Sentence} {words : List String} (hs : s.StandsFor Phrase.Joins words)
    (ctx : Context) (stage : Stage) : (s.tokenize ctx stage).StandsFor Phrase.Joins words := by
  obtain ⟨blocks, hflat, hblocks⟩ := hs
  exact ⟨blocks, hflat, List.forall₂_map_left_iff.mpr hblocks⟩

/-- A merge puts the words of neighbours together. -/
lemma StandsFor.mergeStep? {ctx : Context} {stage : Stage} {s s' : Sentence} {words : List String}
    (hwords : ∀ w ∈ words, w ≠ "") (hs : s.StandsFor Phrase.Joins words)
    (h : s.mergeStep? ctx stage = some s') : s'.StandsFor Phrase.Joins words := by
  obtain ⟨before, window, after, p, rfl, hcount, hp, rfl⟩ := exists_of_mergeStep? h
  obtain ⟨rfl, -⟩ := Context.merge?_eq_some_iff.mp hp
  have hwindow : window ≠ [] := List.ne_nil_of_length_pos (by omega)
  exact hs.replace fun blocks hblocks hmem => joins_of_forall₂ hwindow hblocks
    (fun w hw => hwords w (hmem w hw)) (text_tokenizeText _ _ _)

/-! ### Reduction -/

/-- Before reduction each phrase is itself. -/
lemma standsFor_self {s : Sentence} : s.StandsFor Phrase.ReducedFrom s := by
  refine ⟨s.map fun p => [p], ?_, List.forall₂_map_right_iff.mpr ?_⟩
  · rw [← List.flatMap_def, List.flatMap_singleton']
  · exact List.forall₂_same.mpr fun p _ => ⟨⟨by simp, by simp⟩, .inl rfl⟩

/-- A reduction puts the phrases of neighbours together, into one with a single token. -/
lemma StandsFor.reductionStep? {ctx : Context} (hctx : ∀ r ∈ ctx.grammar.rules, 1 ≤ r.arity)
    {s s' kept : Sentence} (htexts : kept.HasTexts) (hs : s.StandsFor Phrase.ReducedFrom kept)
    (h : s.reductionStep? ctx = some s') : s'.StandsFor Phrase.ReducedFrom kept := by
  obtain ⟨before, window, after, r, t, rfl, hr, harity, -, rfl⟩ := exists_of_reductionStep? h
  have hwindow : window ≠ [] := List.ne_nil_of_length_pos (harity ▸ hctx r hr)
  refine hs.replace fun blocks hblocks hmem => ⟨?_, .inr ⟨t, rfl⟩⟩
  have hjoins : List.Forall₂ Phrase.Joins window (blocks.map (List.map Phrase.text)) :=
    List.forall₂_map_right_iff.mpr (hblocks.imp fun _ _ hp => hp.1)
  rw [List.map_flatten]
  refine joins_of_forall₂ hwindow hjoins ?_ rfl
  rw [← List.map_flatten, List.forall_mem_map]
  exact fun q hq => htexts q (hmem q hq)

/-! ### Partitions -/

/-- **Phrases partition the input.** At every point of reading non-empty words, also where the
budget ends it, the phrases are the joined words of consecutive blocks that make up the input. At
every point of reduction by rules that take phrases they are the joined phrases of consecutive
blocks that make up what has been read, and those that a rule has made carry one token. -/
theorem standsFor_of_mem_history (ctx : Context) :
    (∀ words : List String, (∀ w ∈ words, w ≠ "") →
      (∀ passage ∈ (ofWords words).history ctx, ∀ s ∈ passage.sentences,
          s.StandsFor Phrase.Joins words ∧ s.HasTexts)
        ∧ ((ofWords words).readStages ctx).sentence.StandsFor Phrase.Joins words)
    ∧ ((∀ r ∈ ctx.grammar.rules, 1 ≤ r.arity) → ∀ s : Sentence, s.HasTexts →
      (∀ s' ∈ s.reductions ctx, s'.StandsFor Phrase.ReducedFrom s.withoutUnread)
        ∧ (s.reduce ctx).sentence.StandsFor Phrase.ReducedFrom s.withoutUnread) := by
  refine ⟨fun words hwords => ?_, fun hrules s hs => ?_⟩
  · have hhistory : ∀ passage ∈ (ofWords words).history ctx, ∀ s ∈ passage.sentences,
        s.StandsFor Phrase.Joins words :=
      history_invariant (fun stage _ hs => hs.tokenize ctx stage)
        (fun _ _ _ hs h => hs.mergeStep? hwords h) (standsFor_ofWords words)
    obtain ⟨last, hlast, hend, -⟩ := exists_getLast?_history ctx (ofWords words)
    refine ⟨fun passage hpassage s hs => ?_, ?_⟩
    · have hblocks := hhistory passage hpassage s hs
      exact ⟨hblocks, hblocks.hasTexts hwords⟩
    · exact hhistory last (List.mem_of_getLast? hlast) _ (List.mem_of_getLast? hend)
  · have hkept : s.withoutUnread.HasTexts := fun p hp => hs p (List.mem_of_mem_filter hp)
    have hreductions : ∀ s' ∈ s.reductions ctx, s'.StandsFor Phrase.ReducedFrom s.withoutUnread :=
      reductions_induction (fun _ _ hs h => hs.reductionStep? hrules hkept h) standsFor_self
    exact ⟨hreductions, hreductions _ (List.mem_of_getLast? (getLast?_reductions ctx s))⟩

/-- Two words that name a map become one phrase, and a word that names nothing is dropped. -/
theorem exists_standsFor_of_mem_history :
    ∃ ctx : Context, ∃ s : Sentence, (∀ w ∈ ["port", "valdez", "please"], w ≠ "")
      ∧ (∀ r ∈ ctx.grammar.rules, 1 ≤ r.arity) ∧ s.HasTexts
      ∧ s = ((ofWords ["port", "valdez", "please"]).readStages ctx).sentence
      ∧ s.map Phrase.text = ["port valdez", "please"]
      ∧ (s.reduce ctx).sentence.map Phrase.text = ["port valdez"]
      ∧ s.StandsFor Phrase.Joins ["port", "valdez", "please"]
      ∧ (s.reduce ctx).sentence.StandsFor Phrase.ReducedFrom s.withoutUnread := by
  let recognize : Recognizer := fun _ stage text =>
    if stage = .object ∧ text = "port valdez" then
      [{ text, variant := .thing .map, similarity := .hundred }]
    else []
  let ctx : Context :=
    { grammar := .standard, catalog := .empty, state := { now := ⟨0⟩ }, recognizers := [recognize] }
  let s : Sentence := ((ofWords ["port", "valdez", "please"]).readStages ctx).sentence
  have hwords : ∀ w ∈ ["port", "valdez", "please"], w ≠ "" := by decide
  have hrules : ∀ r ∈ ctx.grammar.rules, 1 ≤ r.arity := by decide
  obtain ⟨hreading, hreduction⟩ := standsFor_of_mem_history ctx
  have hblocks : s.StandsFor Phrase.Joins ["port", "valdez", "please"] := (hreading _ hwords).2
  have hs : s.HasTexts := hblocks.hasTexts hwords
  exact ⟨ctx, s, hwords, hrules, hs, rfl, by decide +kernel, by decide +kernel, hblocks,
    (hreduction hrules s hs).2⟩

end Sentence

end ChatCommand
