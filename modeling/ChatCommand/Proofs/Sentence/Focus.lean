/-
One word in view.

Reading puts phrases together, so the phrase that holds a word changes its place. It is followed
through the same sentences that reading passes through.

* `Repetition.isChain_trail`: on a trail one step leads to the next;
* `Splice.moved`, `Focus`: a phrase of a sentence, and where a splice moves it;
* `Focus.history`, `Focus.course`: the sentences that reading passes through, with the phrase of one
  word in view;
* `Focus.map_sentence_history`: **these are the sentences of the history**;
* `Focus.isChain_history`: each is one step from the one before;
* `Focus.Covers`: the phrase in view is made of consecutive words, that word among them;
* `Focus.covers_of_mem_course`: **the phrase in view always covers the word**.
-/
import Mathlib.Data.List.Chain
import ChatCommand.Proofs.Sentence.Blocks

namespace ChatCommand

/-! ### Trails -/

namespace Repetition

variable {α : Type}

/-- On a trail one step leads to the next. -/
lemma isChain_trail (step? : α → Option α) (budget : Nat) (a : α) :
    (trail step? budget a).IsChain fun a b => step? a = some b := by
  induction budget generalizing a with
  | zero =>
      rw [trail.eq_def]
      cases step? a <;> exact .singleton a
  | succ budget ih =>
      rw [trail.eq_def]
      cases h : step? a with
      | none => exact .singleton a
      | some b =>
          refine List.isChain_cons.mpr ⟨fun c hc => ?_, ih b⟩
          rw [head?_trail, Option.mem_some_iff] at hc
          rw [h, hc]

end Repetition

variable {ctx : Context} {stage : Stage}

/-! ### One word in view -/

/-- Where the phrase at a place is after a splice: those that are replaced are in the new one. -/
def Splice.moved (r : Splice) (place : Nat) : Nat :=
  if place < r.offset then place
  else if place < r.offset + r.count then r.offset
  else place + 1 - r.count

/-- A sentence with a place in it, that of the phrase which holds some word. -/
structure Focus where
  sentence : Sentence
  place : Nat

namespace Focus

/-- The words of an input, with one of them in view. -/
def ofWord (words : List String) (place : Nat) : Focus :=
  { sentence := .ofWords words, place }

/-- The phrase in view. -/
def phrase? (f : Focus) : Option Phrase := f.sentence[f.place]?

/-- Tokenizing moves no phrase. -/
def tokenize (ctx : Context) (stage : Stage) (f : Focus) : Focus :=
  { f with sentence := f.sentence.tokenize ctx stage }

/-- The first merge, with the word still in view. -/
def mergeStep? (ctx : Context) (stage : Stage) (f : Focus) : Option Focus :=
  (f.sentence.findMerge? ctx stage).map fun r =>
    { sentence := f.sentence.splice r, place := r.moved f.place }

/-- One stage on a sentence: the tokenized sentence, then what each merge makes of it. -/
def passage (ctx : Context) (f : Focus) (stage : Stage) : List Focus :=
  if stage = .reduction then [f.tokenize ctx stage]
  else Repetition.trail (mergeStep? ctx stage) ctx.budget (f.tokenize ctx stage)

/-- Some stages in order, up to one in which the budget ends. -/
def passages (ctx : Context) : List Stage → Focus → List Focus
  | [], _ => []
  | stage :: stages, f =>
    f.passage ctx stage ++
      match (f.sentence.stageStep ctx stage).fault? with
      | some _ => []
      | none => passages ctx stages (((f.passage ctx stage).getLast?).getD f)

/-- The sentences that reading passes through, with the word in view. -/
def history (ctx : Context) (f : Focus) : List Focus := passages ctx Stage.all f

/-- The words of an input and the sentences that reading them passes through, with one word in
view. -/
def course (ctx : Context) (words : List String) (place : Nat) : List Focus :=
  ofWord words place :: (ofWord words place).history ctx

/-! ### The same sentences -/

lemma sentence_mergeStep? (f : Focus) :
    (f.mergeStep? ctx stage).map Focus.sentence = f.sentence.mergeStep? ctx stage := by
  rw [mergeStep?, Sentence.mergeStep?, Option.map_map]
  rfl

/-- With a word in view a stage passes through the same sentences. -/
lemma map_sentence_passage (f : Focus) :
    (f.passage ctx stage).map Focus.sentence = (f.sentence.passage ctx stage).sentences := by
  rw [passage, Sentence.passage]
  split
  · rfl
  · exact Repetition.map_trail sentence_mergeStep? _ _

/-- A stage with a word in view ends where the stage ends. -/
lemma exists_getLast?_passage (ctx : Context) (stage : Stage) (f : Focus) :
    ∃ last, (f.passage ctx stage).getLast? = some last
      ∧ last.sentence = (f.sentence.stageStep ctx stage).sentence := by
  have hlast := Sentence.getLast?_passage ctx f.sentence stage
  rw [← map_sentence_passage, List.getLast?_map] at hlast
  exact Option.map_eq_some_iff.mp hlast

/-- **With a word in view reading passes through the same sentences.** -/
theorem map_sentence_history (f : Focus) :
    (f.history ctx).map Focus.sentence
      = (f.sentence.history ctx).flatMap Passage.sentences := by
  have key (stages : List Stage) (f : Focus) :
      (f.passages ctx stages).map Focus.sentence
        = (f.sentence.passages ctx stages).flatMap Passage.sentences := by
    induction stages generalizing f with
    | nil => rfl
    | cons stage stages ih =>
        obtain ⟨last, hlast, hsentence⟩ := exists_getLast?_passage ctx stage f
        rw [passages, Sentence.passages, List.map_append, map_sentence_passage, List.flatMap_cons,
          hlast, Option.getD_some]
        cases (f.sentence.stageStep ctx stage).fault? with
        | some _ => rfl
        | none => rw [ih, hsentence]
  exact key Stage.all f

/-! ### Steps -/

/-- One step of reading: a stage begins with tokenizing, then neighbours merge. -/
def Step (ctx : Context) (f g : Focus) : Prop :=
  ∃ stage, g = f.tokenize ctx stage ∨ f.mergeStep? ctx stage = some g

/-- The phrase in view after a splice: the new one if it was replaced, else the same. -/
lemma phrase?_splice {s : Sentence} {r : Splice} (hfits : r.offset + r.count ≤ s.length)
    (place : Nat) :
    (s.splice r)[r.moved place]?
      = if r.offset ≤ place ∧ place < r.offset + r.count then some r.phrase else s[place]? := by
  have hbefore : (s.take r.offset).length = r.offset := by
    rw [List.length_take]
    omega
  unfold Splice.moved Sentence.splice
  by_cases hlt : place < r.offset
  · rw [if_pos hlt, if_neg (by omega), List.getElem?_append_left (by omega),
      List.getElem?_take_of_lt hlt]
  · by_cases hin : place < r.offset + r.count
    · rw [if_neg hlt, if_pos hin, if_pos ⟨by omega, hin⟩,
        List.getElem?_append_right (by omega), hbefore, Nat.sub_self]
      rfl
    · rw [if_neg hlt, if_neg hin, if_neg (by omega), List.getElem?_append_right (by omega), hbefore,
        show place + 1 - r.count - r.offset = (place - r.count - r.offset) + 1 by omega,
        List.getElem?_cons_succ, List.getElem?_drop]
      congr 1
      omega

/-- In reading one step leads to the next. -/
lemma isChain_history (ctx : Context) (f : Focus) : (f :: f.history ctx).IsChain (Step ctx) := by
  have hpassage (stage : Stage) (f : Focus) : (f :: f.passage ctx stage).IsChain (Step ctx) := by
    rw [passage]
    split
    · exact .cons_cons ⟨stage, .inl rfl⟩ (.singleton _)
    · refine ((Repetition.isChain_trail _ _ _).imp fun g g' h => ⟨stage, .inr h⟩).cons ?_
      intro g hg
      rw [Repetition.head?_trail, Option.mem_some_iff] at hg
      exact ⟨stage, .inl hg.symm⟩
  have key (stages : List Stage) (f : Focus) : (f :: f.passages ctx stages).IsChain (Step ctx) := by
    induction stages generalizing f with
    | nil => exact .singleton f
    | cons stage stages ih =>
        obtain ⟨last, hlast, -⟩ := exists_getLast?_passage ctx stage f
        rw [passages, hlast, Option.getD_some, ← List.cons_append]
        split
        · rw [List.append_nil]
          exact hpassage stage f
        · obtain ⟨hrest, hchain⟩ := List.isChain_cons.mp (ih last)
          refine (hpassage stage f).append hchain fun g hg => ?_
          rw [List.getLast?_cons, hlast, Option.getD_some, Option.mem_some_iff] at hg
          exact hg ▸ hrest
  exact key Stage.all f

/-! ### The word in view -/

/-- The phrases are made of consecutive blocks of the words, and the one in view of the block with
the word at position `w`. -/
def Covers (words : List String) (w : Nat) (f : Focus) : Prop :=
  ∃ blocks : List (List String), blocks.flatten = words
    ∧ List.Forall₂ Phrase.Joins f.sentence blocks
    ∧ (blocks.take f.place).flatten.length ≤ w
    ∧ w < (blocks.take (f.place + 1)).flatten.length

variable {words : List String} {w : Nat}

/-- More blocks hold more words. -/
lemma length_flatten_take_mono (blocks : List (List String)) {m n : Nat} (h : m ≤ n) :
    (blocks.take m).flatten.length ≤ (blocks.take n).flatten.length := by
  obtain ⟨k, rfl⟩ := Nat.exists_eq_add_of_le h
  rw [List.take_add, List.flatten_append, List.length_append]
  omega

/-- The phrase in view is made of words of the input, that word among them. -/
lemma Covers.exists_phrase? {f : Focus} (h : f.Covers words w) :
    ∃ p ∈ f.phrase?, ∃ before block after, words = before ++ (block ++ after) ∧ p.Joins block
      ∧ before.length ≤ w ∧ w < before.length + block.length := by
  obtain ⟨blocks, rfl, hblocks, hfirst, hlast⟩ := h
  have hplace : f.place < blocks.length := by
    by_contra hge
    rw [List.take_of_length_le (by omega)] at hfirst hlast
    omega
  have hplace' : f.place < f.sentence.length := hblocks.length_eq ▸ hplace
  refine ⟨f.sentence[f.place], List.getElem?_eq_getElem hplace', (blocks.take f.place).flatten,
    blocks[f.place], (blocks.drop (f.place + 1)).flatten, ?_, hblocks.get hplace' hplace, hfirst,
    ?_⟩
  · rw [← List.flatten_cons, ← List.flatten_append, List.getElem_cons_drop, List.take_append_drop]
  · rw [List.take_succ_eq_append_getElem hplace, List.flatten_append, List.length_append] at hlast
    simpa using hlast

/-- Before reading, each block is a word. -/
lemma covers_ofWord (hw : w < words.length) : (ofWord words w).Covers words w := by
  have hblocks (l : List String) : (l.map fun v => [v]).flatten = l := by
    rw [← List.flatMap_def, List.flatMap_singleton']
  refine ⟨words.map fun v => [v], hblocks words,
    Sentence.forall₂_joins_iff.mpr ⟨by simp, by simp [ofWord, Sentence.ofWords, Function.comp_def]⟩,
    ?_, ?_⟩
  · rw [← List.map_take, hblocks, List.length_take]
    exact Nat.min_le_left _ _
  · rw [← List.map_take, hblocks, List.length_take]
    have hplace : (ofWord words w).place = w := rfl
    omega

lemma Covers.tokenize {f : Focus} (h : f.Covers words w) (ctx : Context) (stage : Stage) :
    (f.tokenize ctx stage).Covers words w := by
  obtain ⟨blocks, hflat, hblocks, hplace⟩ := h
  exact ⟨blocks, hflat, List.forall₂_map_left_iff.mpr hblocks, hplace⟩

/-- Blocks that are put together leave the first blocks as they are, and hold the same words in
front of what is behind them. -/
lemma take_flatten_replace (left middle right : List (List String)) :
    (∀ k ≤ left.length, (left ++ middle.flatten :: right).take k
        = (left ++ (middle ++ right)).take k)
      ∧ ∀ k, ((left ++ middle.flatten :: right).take (left.length + 1 + k)).flatten
        = ((left ++ (middle ++ right)).take (left.length + middle.length + k)).flatten := by
  constructor
  · intro k hk
    rw [List.take_append_of_le_length hk, List.take_append_of_le_length hk]
  · intro k
    rw [Nat.add_assoc, Nat.add_assoc, List.take_length_add_append, List.take_length_add_append,
      List.take_length_add_append, Nat.add_comm 1 k, List.take_succ_cons]
    simp

/-- Where a splice puts blocks together, the block in view begins no later and ends no earlier than
before. -/
lemma length_take_moved {left middle : List (List String)} (right : List (List String)) {r : Splice}
    (hl : left.length = r.offset) (hm : middle.length = r.count) (place : Nat) :
    ((left ++ middle.flatten :: right).take (r.moved place)).flatten.length
        ≤ ((left ++ (middle ++ right)).take place).flatten.length
      ∧ ((left ++ (middle ++ right)).take (place + 1)).flatten.length
        ≤ ((left ++ middle.flatten :: right).take (r.moved place + 1)).flatten.length := by
  obtain ⟨hhead, htail⟩ := take_flatten_replace left middle right
  rw [hl] at hhead htail
  rw [hm] at htail
  unfold Splice.moved
  by_cases hlt : place < r.offset
  · rw [if_pos hlt, hhead _ (by omega), hhead _ (by omega)]
    exact ⟨Nat.le_refl _, Nat.le_refl _⟩
  · by_cases hin : place < r.offset + r.count
    · have hbehind := htail 0
      rw [Nat.add_zero, Nat.add_zero] at hbehind
      rw [if_neg hlt, if_pos hin, hhead _ (Nat.le_refl _), hbehind]
      exact ⟨length_flatten_take_mono _ (Nat.not_lt.mp hlt),
        length_flatten_take_mono _ (Nat.succ_le_of_lt hin)⟩
    · obtain ⟨k, hk⟩ := Nat.exists_eq_add_of_le (Nat.not_lt.mp hin)
      rw [if_neg hlt, if_neg hin, show place + 1 - r.count = r.offset + 1 + k by omega, htail k,
        Nat.add_assoc _ k 1, htail (k + 1), ← Nat.add_assoc, ← hk]
      exact ⟨Nat.le_refl _, Nat.le_refl _⟩

/-- A merge puts the blocks of its phrases together, and the word is still in the block in view. -/
lemma Covers.mergeStep? {f g : Focus} (hwords : ∀ v ∈ words, v ≠ "") (h : f.Covers words w)
    (hmerge : f.mergeStep? ctx stage = some g) : g.Covers words w := by
  obtain ⟨r, hr, rfl⟩ := Option.map_eq_some_iff.mp hmerge
  obtain ⟨h2, hfits, hmerged⟩ := Sentence.merge?_of_findMerge? hr
  obtain ⟨blocks, rfl, hblocks, hfirst, hlast⟩ := h
  rw [← f.sentence.take_append_window_append_drop r.offset r.count, List.append_assoc] at hblocks
  obtain ⟨left, rest, rfl, hleft, hrest⟩ := Sentence.exists_of_forall₂_append hblocks
  obtain ⟨middle, right, rfl, hmiddle, hright⟩ := Sentence.exists_of_forall₂_append hrest
  have hl : left.length = r.offset := by
    rw [← hleft.length_eq, List.length_take]
    omega
  have hm : middle.length = r.count := by
    rw [← hmiddle.length_eq, Sentence.length_window]
    omega
  have hjoined : r.phrase.Joins middle.flatten := by
    obtain ⟨hphrase, -⟩ := Context.merge?_eq_some_iff.mp hmerged
    have hne : f.sentence.window r.offset r.count ≠ [] := by
      refine List.ne_nil_of_length_pos ?_
      rw [hmiddle.length_eq]
      omega
    refine Sentence.joins_of_forall₂ hne hmiddle (fun v hv => hwords v (by simp [hv])) ?_
    rw [hphrase, Sentence.text_tokenizeText]
  obtain ⟨hbegins, hends⟩ := length_take_moved right hl hm f.place
  exact ⟨left ++ middle.flatten :: right, by simp, List.rel_append hleft (.cons hjoined hright),
    Nat.le_trans hbegins hfirst, Nat.lt_of_lt_of_le hlast hends⟩

/-- **The phrase in view always covers the word.** -/
theorem covers_of_mem_course (hwords : ∀ v ∈ words, v ≠ "") (hw : w < words.length) :
    ∀ f ∈ course ctx words w, f.Covers words w := by
  refine (isChain_history ctx _).induction _ _ ?_ fun _ => covers_ofWord hw
  rintro f g ⟨stage, rfl | hmerge⟩ hf
  · exact hf.tokenize ctx stage
  · exact hf.mergeStep? hwords hmerge

end Focus

end ChatCommand
