/-
How confidently the words of a sentence are read.

The confidence in a word is the similarity of the preferred reading of the phrase that covers it. A
phrase loses no reading but to a more similar one, and neighbours merge only where the whole reads
at least as well as each of them, so confidence never drops before reduction.

* `Phrase.bestSimilarity_le_extend`: more readings make a phrase no less similar;
* `Focus.Step.improves`: no step makes the phrase in view less similar;
* `Sentence.IsSettled`: no neighbours read as one at least as well as each of them;
* `Sentence.isSettled_refactor`: where merging ends within its budget, the sentence is settled;
* `Sentence.isSettled_readStages`: after all stages it is settled in each of them, if no recognizer
  speaks in the last;
* `Sentence.confidence_le_of_history`: **the confidence in a word never drops before reduction, and
  merging ends in settled sentences**.
-/
import ChatCommand.Proofs.Phrase.Ranking
import ChatCommand.Proofs.Sentence.Focus

namespace ChatCommand

/-! ### Similarities -/

lemma Score.le_greatest {scores : List Score} {a : Score} (h : a ∈ scores) :
    a ≤ greatest scores := by
  have hmax (a b : Score) : a ≤ max a b ∧ b ≤ max a b := by
    by_cases hlt : a < b
    · rw [show max a b = b from if_pos hlt]
      exact ⟨Nat.le_of_lt hlt, Nat.le_refl _⟩
    · rw [show max a b = a from if_neg hlt]
      exact ⟨Nat.le_refl _, Nat.not_lt.mp hlt⟩
  have key (scores : List Score) (start : Score) :
      start ≤ scores.foldl max start ∧ ∀ a ∈ scores, a ≤ scores.foldl max start := by
    induction scores generalizing start with
    | nil => exact ⟨Nat.le_refl _, by simp⟩
    | cons b scores ih =>
        obtain ⟨hstart, hscores⟩ := ih (max start b)
        refine ⟨Nat.le_trans (hmax start b).1 hstart, ?_⟩
        exact List.forall_mem_cons.mpr ⟨Nat.le_trans (hmax start b).2 hstart, hscores⟩
  exact (key scores zero).2 a h

/-- Places in the total order ascend with numbers, so the numbers of what comes first there are the
greatest. -/
lemma Score.le_of_position_le {a b : Score} (h : a.position ≤ b.position) : a ≤ b := by
  simp only [position] at h
  simp only [le_def, magnitude]
  split_ifs at h ⊢ <;> omega

lemma Score.greatest_le {scores : List Score} {a : Score} (h : ∀ b ∈ scores, b ≤ a) :
    greatest scores ≤ a := by
  have key (scores : List Score) (start : Score) (hstart : start ≤ a) (h : ∀ b ∈ scores, b ≤ a) :
      scores.foldl max start ≤ a := by
    induction scores generalizing start with
    | nil => exact hstart
    | cons b scores ih =>
        obtain ⟨hb, hscores⟩ := List.forall_mem_cons.mp h
        refine ih (max start b) ?_ hscores
        by_cases hlt : start < b
        · rwa [show max start b = b from if_pos hlt]
        · rwa [show max start b = start from if_neg hlt]
  exact key scores zero (Score.zero_le a) h

namespace Phrase

/-- Where a token is put among others, each of them has a token that is at least as similar. -/
lemma exists_ge_insertDistinct (t : Token) {tokens : List Token} {u : Token}
    (h : u = t ∨ u ∈ tokens) : ∃ v ∈ insertDistinct t tokens, u.similarity ≤ v.similarity := by
  induction tokens with
  | nil =>
      obtain rfl : u = t := by simpa using h
      exact ⟨u, by simp [insertDistinct], Nat.le_refl _⟩
  | cons w rest ih =>
      rw [insertDistinct]
      split
      · split
        · next hlt =>
            rcases h with rfl | h
            · exact ⟨u, by simp, Nat.le_refl _⟩
            rcases List.mem_cons.mp h with rfl | h
            · exact ⟨t, by simp, Nat.le_of_lt hlt⟩
            · exact ⟨u, by simp [h], Nat.le_refl _⟩
        · next hge =>
            rcases h with rfl | h
            · exact ⟨w, by simp, Nat.not_lt.mp hge⟩
            · exact ⟨u, h, Nat.le_refl _⟩
      · rcases h with h | h
        · obtain ⟨v, hv, hle⟩ := ih (.inl h)
          exact ⟨v, by simp [hv], hle⟩
        rcases List.mem_cons.mp h with rfl | h
        · exact ⟨u, by simp, Nat.le_refl _⟩
        · obtain ⟨v, hv, hle⟩ := ih (.inr h)
          exact ⟨v, by simp [hv], hle⟩

lemma exists_ge_foldl_insertDistinct (new : List Token) {tokens : List Token} {u : Token}
    (h : u ∈ tokens) :
    ∃ v ∈ new.foldl (fun all t => insertDistinct t all) tokens, u.similarity ≤ v.similarity := by
  induction new generalizing tokens u with
  | nil => exact ⟨u, h, Nat.le_refl _⟩
  | cons t new ih =>
      obtain ⟨v, hv, hle⟩ := exists_ge_insertDistinct t (.inr h)
      obtain ⟨w, hw, hle'⟩ := ih hv
      exact ⟨w, hw, Nat.le_trans hle hle'⟩

/-- Each of some ranked tokens is no more similar than the first. -/
lemma exists_best?_of_mem (text : String) {tokens : List Token} {u : Token} (h : u ∈ tokens) :
    ∃ t ∈ best? { text, tokens := tokens.mergeSort Token.ranksBefore },
      u.similarity ≤ t.similarity := by
  have hsorted := List.pairwise_mergeSort Token.ranksBefore_trans Token.ranksBefore_total tokens
  have hmem : u ∈ tokens.mergeSort Token.ranksBefore := List.mem_mergeSort.mpr h
  cases hcons : tokens.mergeSort Token.ranksBefore with
  | nil => simp [hcons] at hmem
  | cons first rest =>
      refine ⟨first, by simp [best?], ?_⟩
      rw [hcons] at hsorted hmem
      rcases List.mem_cons.mp hmem with rfl | hrest
      · exact Nat.le_refl _
      · have hbefore := Token.ranksBefore_iff.mp ((List.pairwise_cons.mp hsorted).1 u hrest)
        have hposition : u.similarity.position ≤ first.similarity.position := by omega
        exact Score.le_of_position_le hposition

/-- With more readings the preferred one is no less similar. -/
lemma exists_best?_extend {p : Phrase} {t : Token} (h : t ∈ p.best?) (new : List Token) :
    ∃ u ∈ (p.extend new).best?, t.similarity ≤ u.similarity := by
  obtain ⟨v, hv, hle⟩ := exists_ge_foldl_insertDistinct new (List.mem_of_mem_head? h)
  obtain ⟨u, hu, hle'⟩ := exists_best?_of_mem p.text hv
  exact ⟨u, hu, Nat.le_trans hle hle'⟩

lemma bestSimilarity_eq {p : Phrase} {t : Token} (h : t ∈ p.best?) :
    p.bestSimilarity = t.similarity := by
  rw [bestSimilarity, Option.mem_def.mp h]

/-- More readings make a phrase no less similar. -/
lemma bestSimilarity_le_extend (p : Phrase) (new : List Token) :
    p.bestSimilarity ≤ (p.extend new).bestSimilarity := by
  cases hbest : p.best? with
  | none =>
      rw [bestSimilarity, hbest]
      exact Score.zero_le _
  | some t =>
      obtain ⟨u, hu, hle⟩ := exists_best?_extend hbest new
      rwa [bestSimilarity_eq hbest, bestSimilarity_eq hu]

end Phrase

variable {ctx : Context} {stage : Stage}

/-- What neighbours merge into is at least as similar as each of them. -/
lemma Context.bestSimilarity_le_of_merge? {window : List Phrase} {merged p : Phrase}
    (h : ctx.merge? stage window = some merged) (hp : p ∈ window) :
    p.bestSimilarity ≤ merged.bestSimilarity := by
  obtain ⟨rfl, best, hbest, hle⟩ := Context.merge?_eq_some_iff.mp h
  rw [Phrase.bestSimilarity_eq hbest]
  exact Nat.le_trans (Score.le_greatest (List.mem_map_of_mem hp)) hle

/-! ### One word in view -/

namespace Focus

/-- How similar the preferred reading of the phrase in view is. -/
def confidence (f : Focus) : Score := (f.phrase?.map Phrase.bestSimilarity).getD .zero

lemma confidence_eq {f : Focus} {p : Phrase} (h : f.phrase? = some p) :
    f.confidence = p.bestSimilarity := by
  rw [confidence, h]
  rfl

/-- The phrase in view is still one of the sentence, and no less similar. -/
def Improves (f g : Focus) : Prop :=
  f.place < f.sentence.length → g.place < g.sentence.length ∧ f.confidence ≤ g.confidence

instance : Trans Improves Improves Improves where
  trans hfg hgh hf := by
    obtain ⟨hg, hle⟩ := hfg hf
    obtain ⟨hh, hle'⟩ := hgh hg
    exact ⟨hh, Nat.le_trans hle hle'⟩

/-- **No step makes the phrase in view less similar.** -/
theorem Step.improves {f g : Focus} (h : f.Step ctx g) : f.Improves g := by
  intro hplace
  obtain ⟨stage, rfl | hmerge⟩ := h
  · have hphrase : f.phrase? = some f.sentence[f.place] := List.getElem?_eq_getElem hplace
    have hread : (f.tokenize ctx stage).phrase?
        = some (ctx.readPhrase f.sentence[f.place] stage) := by
      simp only [phrase?, tokenize, Sentence.tokenize, List.getElem?_map,
        List.getElem?_eq_getElem hplace]
      rfl
    refine ⟨by simpa [tokenize] using hplace, ?_⟩
    rw [confidence_eq hphrase, confidence_eq hread]
    exact Phrase.bestSimilarity_le_extend _ _
  · obtain ⟨r, hr, rfl⟩ := Option.map_eq_some_iff.mp hmerge
    obtain ⟨h2, hfits, hmerged⟩ := Sentence.merge?_of_findMerge? hr
    have hphrase : f.phrase? = some f.sentence[f.place] := List.getElem?_eq_getElem hplace
    have hafter : phrase? { sentence := f.sentence.splice r, place := r.moved f.place } = _ :=
      phrase?_splice hfits f.place
    by_cases hin : r.offset ≤ f.place ∧ f.place < r.offset + r.count
    · rw [if_pos hin] at hafter
      refine ⟨(List.getElem?_eq_some_iff.mp hafter).1, ?_⟩
      rw [confidence_eq hphrase, confidence_eq hafter]
      refine Context.bestSimilarity_le_of_merge? hmerged
        (List.mem_of_getElem? (i := f.place - r.offset) ?_)
      rw [Sentence.window, List.getElem?_take_of_lt (by omega), List.getElem?_drop,
        Nat.add_sub_cancel' hin.1]
      exact hphrase
    · rw [if_neg hin, List.getElem?_eq_getElem hplace] at hafter
      refine ⟨(List.getElem?_eq_some_iff.mp hafter).1, ?_⟩
      rw [confidence_eq hphrase, confidence_eq hafter]
      exact Nat.le_refl _

end Focus

/-! ### Settled sentences -/

namespace Sentence

/-- No two or more neighbours, read as one by the stages up to this one, have a preferred reading at
least as similar as that of each of them. -/
def IsSettled (ctx : Context) (stage : Stage) (s : Sentence) : Prop :=
  ∀ before window after, s = before ++ (window ++ after) → 2 ≤ window.length →
    ¬∃ best ∈ (ctx.tokenizeText stage (joinText window)).best?,
      ∀ p ∈ window, ∀ t ∈ p.best?, t.similarity ≤ best.similarity

/-- Where no merge is found, the sentence is settled. -/
lemma isSettled_of_mergeStep?_eq_none {s : Sentence} (h : s.mergeStep? ctx stage = none) :
    s.IsSettled ctx stage := by
  rintro before window after rfl h2 ⟨best, hbest, hle⟩
  have hplace : (before.length, window.length) ∈ mergePlaces (before ++ (window ++ after)) := by
    rw [mem_mergePlaces]
    exact ⟨h2, by simp⟩
  have hwindow :
      Sentence.window (before ++ (window ++ after)) before.length window.length = window := by
    rw [Sentence.window, List.drop_left, List.take_left]
  have hnone := List.findSome?_eq_none_iff.mp (Option.map_eq_none_iff.mp h) _ hplace
  rw [Option.map_eq_none_iff, hwindow] at hnone
  have hgreatest : Score.greatest (window.map Phrase.bestSimilarity) ≤ best.similarity := by
    refine Score.greatest_le (List.forall_mem_map.mpr fun p hp => ?_)
    cases hp' : p.best? with
    | none =>
        rw [Phrase.bestSimilarity, hp']
        exact Score.zero_le _
    | some t =>
        rw [Phrase.bestSimilarity_eq hp']
        exact hle p hp t hp'
  have hmerges := Context.merge?_eq_some_iff.mpr ⟨rfl, best, hbest, hgreatest⟩
  rw [hnone] at hmerges
  contradiction

/-- **Where merging ends within its budget, the sentence is settled.** -/
theorem isSettled_refactor {s : Sentence} (hstage : stage ≠ .reduction)
    (h : (s.refactor ctx stage).fault? = none) :
    (s.refactor ctx stage).sentence.IsSettled ctx stage := by
  rw [refactor, if_neg hstage] at h ⊢
  have hend := Progress.fault?_ofRun_eq_none_iff.mp h
  exact isSettled_of_mergeStep?_eq_none (Repetition.step?_run_eq_none hend)

/-! ### The last stage -/

/-- A stage that has been carried out without a fault is carried out behind others without one. -/
lemma of_fault?_continueWith {p : Progress} (h : (continueWith ctx p stage).fault? = none) :
    p.fault? = none ∧ continueWith ctx p stage = p.sentence.stageStep ctx stage := by
  unfold continueWith at h ⊢
  cases hp : p.fault? with
  | none => exact ⟨rfl, rfl⟩
  | some fault => simp [hp] at h

lemma joinText_map_readPhrase (window : List Phrase) :
    joinText (window.map (ctx.readPhrase · stage)) = joinText window := by
  rw [joinText, joinText, List.foldl_map]
  rfl

/-- More stages make a phrase no less similar. -/
lemma exists_best?_tokenizeText_reduction {text : String} {t : Token}
    (h : t ∈ (ctx.tokenizeText stage text).best?) :
    ∃ u ∈ (ctx.tokenizeText .reduction text).best?, t.similarity ≤ u.similarity := by
  have key (stages : List Stage) {p : Phrase} {t : Token} (h : t ∈ p.best?) :
      ∃ u ∈ (stages.foldl ctx.readPhrase p).best?, t.similarity ≤ u.similarity := by
    induction stages generalizing p t with
    | nil => exact ⟨t, h, Nat.le_refl _⟩
    | cons stage stages ih =>
        obtain ⟨u, hu, hle⟩ := Phrase.exists_best?_extend h (ctx.tokensFor stage p.text)
        obtain ⟨v, hv, hle'⟩ := ih hu
        exact ⟨v, hv, Nat.le_trans hle hle'⟩
  obtain ⟨rest, hrest⟩ : ∃ rest, Stage.upTo .reduction = stage.upTo ++ rest := by
    cases stage
    · exact ⟨[.functionWord, .operator, .object, .reduction], rfl⟩
    · exact ⟨[.operator, .object, .reduction], rfl⟩
    · exact ⟨[.object, .reduction], rfl⟩
    · exact ⟨[.reduction], rfl⟩
    · exact ⟨[], rfl⟩
  rw [Context.tokenizeText, hrest, List.foldl_append]
  exact key rest h

/-- Where no recognizer speaks in the last stage, it adds no readings. -/
lemma tokenizeText_reduction_of_silent
    (hsilent : ∀ recognize ∈ ctx.recognizers, ∀ text, recognize ctx.state .reduction text = [])
    (text : String) : ctx.tokenizeText .reduction text = ctx.tokenizeText .object text := by
  have htokens (text : String) : ctx.tokensFor .reduction text = [] := by
    have hfamilies : Family.all.filter (fun f => f.stage = .reduction) = [] := by decide
    rw [Context.tokensFor, hfamilies, List.flatMap_nil, List.nil_append, List.flatMap_eq_nil_iff]
    exact fun recognize hrecognize => hsilent recognize hrecognize text
  have hlast : ctx.tokenizeText .reduction text
      = ctx.readPhrase (ctx.tokenizeText .object text) .reduction := rfl
  rw [hlast, Context.readPhrase, htokens]
  exact Phrase.extend_nil_extend _ _

/-- **Where no recognizer speaks in the last stage, reading leaves a sentence that is settled in
every stage.** -/
theorem isSettled_readStages
    (hsilent : ∀ recognize ∈ ctx.recognizers, ∀ text, recognize ctx.state .reduction text = [])
    {s : Sentence} (h : (s.readStages ctx).fault? = none) (stage : Stage) :
    (s.readStages ctx).sentence.IsSettled ctx stage := by
  obtain ⟨q, hq⟩ : ∃ q, q = continueWith ctx
      ([.primitive, .functionWord, .operator].foldl (continueWith ctx) { sentence := s }) .object :=
    ⟨_, rfl⟩
  have hread : s.readStages ctx = continueWith ctx q .reduction := hq ▸ rfl
  rw [hread] at h ⊢
  obtain ⟨hfault, hlast⟩ := of_fault?_continueWith h
  obtain ⟨-, hobject⟩ := of_fault?_continueWith (hq ▸ hfault)
  rw [← hq] at hobject
  have hsettled : q.sentence.IsSettled ctx .object := by
    rw [hobject] at hfault ⊢
    exact isSettled_refactor (by decide) hfault
  rw [hlast]
  -- The last stage has kept the texts and made no phrase less similar.
  rintro before window after hs h2 ⟨best, hbest, hle⟩
  obtain ⟨before, rest, hparts, rfl, hrest⟩ := List.map_eq_append_iff.mp hs
  obtain ⟨window, after, rfl, rfl, rfl⟩ := List.map_eq_append_iff.mp hrest
  obtain ⟨best', hbest', hbestLe⟩ := exists_best?_tokenizeText_reduction hbest
  rw [joinText_map_readPhrase, tokenizeText_reduction_of_silent hsilent] at hbest'
  refine hsettled before window after hparts (by simpa using h2)
    ⟨best', hbest', fun p hp t ht => ?_⟩
  obtain ⟨u, hu, htu⟩ := Phrase.exists_best?_extend ht (ctx.tokensFor .reduction p.text)
  exact Nat.le_trans htu (Nat.le_trans (hle _ (List.mem_map_of_mem hp) u hu) hbestLe)

/-! ### Confidence -/

/-- **The confidence in a word never drops before reduction, and merging ends in settled
sentences.** With the word at position `w` in view, the words themselves and then the sentences of
the history are passed through. In each the phrase in view is one of the sentence and covers the
word, and it is no less similar than in any sentence before, also where the budget ends a stage.
In every stage but the last, merging leaves a sentence that is settled unless the budget ends it. In
the last stage nothing merges; if no recognizer speaks there, the sentence that reading leaves is
settled in every stage. -/
theorem confidence_le_of_history (ctx : Context) (words : List String) {w : Nat}
    (hw : w < words.length) :
    ((Focus.course ctx words w).map Focus.sentence
          = ofWords words :: ((ofWords words).history ctx).flatMap Passage.sentences
        ∧ (∀ f ∈ Focus.course ctx words w, f.place < f.sentence.length)
        ∧ ((∀ v ∈ words, v ≠ "") → ∀ f ∈ Focus.course ctx words w, f.Covers words w)
        ∧ (Focus.course ctx words w).Pairwise fun f g => f.confidence ≤ g.confidence)
      ∧ (∀ (stage : Stage) (s : Sentence), stage ≠ .reduction →
          (s.refactor ctx stage).fault? = none →
          (s.refactor ctx stage).sentence.IsSettled ctx stage)
      ∧ (∀ s : Sentence, s.refactor ctx .reduction = { sentence := s })
      ∧ ((∀ recognize ∈ ctx.recognizers, ∀ text, recognize ctx.state .reduction text = []) →
          ((ofWords words).readStages ctx).fault? = none →
          ∀ stage, ((ofWords words).readStages ctx).sentence.IsSettled ctx stage) := by
  have hchain := Focus.isChain_history ctx (Focus.ofWord words w)
  have hstart : w < (Focus.ofWord words w).sentence.length := by
    simpa [Focus.ofWord, ofWords] using hw
  have hplace : ∀ f ∈ Focus.course ctx words w, f.place < f.sentence.length :=
    hchain.induction _ _ (fun f g hstep hf => (hstep.improves hf).1) fun _ => hstart
  have himproves : (Focus.course ctx words w).Pairwise Focus.Improves :=
    (hchain.imp fun f g hstep => hstep.improves).pairwise
  refine ⟨⟨?_, hplace, fun hwords => Focus.covers_of_mem_course hwords hw, ?_⟩,
    fun _ _ => isSettled_refactor, fun _ => rfl,
    fun hsilent hfault stage => isSettled_readStages hsilent hfault stage⟩
  · rw [Focus.course, List.map_cons, Focus.map_sentence_history]
    rfl
  · exact himproves.imp_of_mem fun hf _ h => (h (hplace _ hf)).2

/-- "port valdez" is read with full confidence although "valdez" alone is not read at all. -/
theorem exists_confidence_le_of_history :
    ∃ ctx : Context, 1 < ["port", "valdez"].length ∧ (∀ v ∈ ["port", "valdez"], v ≠ "")
      ∧ (∀ recognize ∈ ctx.recognizers, ∀ text, recognize ctx.state .reduction text = [])
      ∧ ((ofWords ["port", "valdez"]).readStages ctx).fault? = none
      ∧ (Focus.course ctx ["port", "valdez"] 1).map (fun f => (f.place, f.confidence))
          = [(1, .zero), (1, .zero), (1, .zero), (1, .zero), (1, .zero), (0, .hundred),
              (0, .hundred)]
      ∧ (Focus.course ctx ["port", "valdez"] 1).Pairwise (fun f g => f.confidence ≤ g.confidence)
      ∧ (∀ f ∈ Focus.course ctx ["port", "valdez"] 1, f.Covers ["port", "valdez"] 1)
      ∧ ∀ stage, ((ofWords ["port", "valdez"]).readStages ctx).sentence.IsSettled ctx stage := by
  let recognize : Recognizer := fun _ stage text =>
    if stage = .object ∧ text = "port valdez" then
      [{ text, variant := .thing .map, similarity := .hundred }]
    else []
  let ctx : Context :=
    { grammar := .standard, catalog := .empty, state := { now := ⟨0⟩ }, recognizers := [recognize] }
  have hwords : ∀ v ∈ ["port", "valdez"], v ≠ "" := by decide
  have hsilent : ∀ recognize ∈ ctx.recognizers, ∀ text,
      recognize ctx.state .reduction text = [] := by
    simp [ctx, recognize]
  have hfault : ((ofWords ["port", "valdez"]).readStages ctx).fault? = none := by decide +kernel
  obtain ⟨⟨-, -, hcovers, hconfidence⟩, -, -, hsettled⟩ :=
    confidence_le_of_history ctx ["port", "valdez"] (w := 1) (by decide)
  exact ⟨ctx, by decide, hwords, hsilent, hfault, by decide +kernel, hconfidence, hcovers hwords,
    hsettled hsilent hfault⟩

/-- A recognizer that speaks in the last stage reads "a b", which is left as two words. -/
theorem not_isSettled_readStages :
    ∃ ctx : Context, ((ofWords ["a", "b"]).readStages ctx).fault? = none
      ∧ ((ofWords ["a", "b"]).readStages ctx).sentence.map Phrase.text = ["a", "b"]
      ∧ ¬((ofWords ["a", "b"]).readStages ctx).sentence.IsSettled ctx .reduction := by
  let recognize : Recognizer := fun _ stage text =>
    if stage = .reduction ∧ text = "a b" then
      [{ text, variant := .number, similarity := .hundred }]
    else []
  let ctx : Context :=
    { grammar := .empty, catalog := .empty, state := { now := ⟨0⟩ }, recognizers := [recognize] }
  let s : Sentence := ((ofWords ["a", "b"]).readStages ctx).sentence
  have hunread : ∀ p ∈ s, p.best?.isNone = true := by decide +kernel
  have hread : (ctx.tokenizeText .reduction (joinText s)).best?.isSome = true := by decide +kernel
  obtain ⟨best, hbest⟩ := Option.isSome_iff_exists.mp hread
  refine ⟨ctx, by decide +kernel, by decide +kernel, fun hsettled => ?_⟩
  refine hsettled [] s [] (by simp [s]) (by decide +kernel) ⟨best, hbest, fun p hp t ht => ?_⟩
  simp [Option.isNone_iff_eq_none.mp (hunread p hp)] at ht

end Sentence

end ChatCommand
