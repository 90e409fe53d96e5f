/-
How many steps reading and reduction take.

Every merge and every reduction by a rule that takes two phrases or more closes a seam between
phrases, and nothing opens one. So all of them together are at most as many as the sentence has
seams at first.

* `Sentence.seams`: the number of places where two phrases meet;
* `Sentence.mergeCount`, `Sentence.reductionCount`: how many steps reading and reduction take;
* `Sentence.mergeCount_add_seams_le`, `Sentence.reductionCount_add_seams_le`: each step closes a
  seam;
* `Parser.steps_within_seams`: **merges and reductions together are no more than the seams, so that
  a budget of one step for each is never exceeded**, and an input that is not too long is never
  given up.
-/
import ChatCommand.Proofs.Sentence.History
import ChatCommand.Proofs.Sentence.Steps
import ChatCommand.Recognition.Parser

namespace ChatCommand

namespace Sentence

variable {ctx : Context} {stage : Stage} {s s' : Sentence}

/-- The number of places where two phrases meet. -/
def seams (s : Sentence) : Nat := s.length - 1

/-- The number of merges in all stages of reading: each makes a sentence of the passage, but the
first. -/
def mergeCount (ctx : Context) (s : Sentence) : Nat :=
  ((s.history ctx).flatMap fun passage => passage.sentences.tail).length

/-- The number of reductions. -/
def reductionCount (ctx : Context) (s : Sentence) : Nat := (s.reductions ctx).length - 1

/-! ### One step -/

/-- One phrase in the place of two or more closes a seam. -/
lemma seams_replace {before window after : Sentence} {p : Phrase} (h : 2 ≤ window.length) :
    seams (before ++ p :: after) < seams (before ++ (window ++ after)) := by
  simp only [seams, List.length_append, List.length_cons]
  omega

lemma seams_mergeStep? (h : s.mergeStep? ctx stage = some s') : s'.seams < s.seams := by
  obtain ⟨before, window, after, p, rfl, hcount, -, rfl⟩ := exists_of_mergeStep? h
  exact seams_replace hcount

lemma seams_reductionStep? (hrules : ∀ r ∈ ctx.grammar.rules, 2 ≤ r.arity)
    (h : s.reductionStep? ctx = some s') : s'.seams < s.seams := by
  obtain ⟨before, window, after, r, t, rfl, hr, harity, -, rfl⟩ := exists_of_reductionStep? h
  exact seams_replace (harity ▸ hrules r hr)

/-! ### Reading -/

lemma seams_tokenize (ctx : Context) (stage : Stage) (s : Sentence) :
    (s.tokenize ctx stage).seams = s.seams := by
  rw [seams, seams, length_tokenize]

/-- Each merge of a stage closes a seam. -/
lemma length_passage_add_seams_le (ctx : Context) (s : Sentence) (stage : Stage) :
    (s.passage ctx stage).sentences.tail.length + (stageStep ctx s stage).sentence.seams
      ≤ s.seams := by
  rw [List.length_tail, passage, stageStep, refactor, ← seams_tokenize ctx stage s]
  split
  · simp
  · exact Repetition.length_trail_add_le (mergeStep? ctx stage) (fun _ _ => seams_mergeStep?)
      ctx.budget (s.tokenize ctx stage)

/-- A budget of one merge for each seam suffices for a stage. -/
lemma fault?_stageStep (h : s.seams ≤ ctx.budget) (stage : Stage) :
    (stageStep ctx s stage).fault? = none := by
  rw [stageStep, refactor]
  split
  · rfl
  · exact Progress.fault?_ofRun_eq_none_iff.mpr <|
      Repetition.run_of_decreasing (mergeStep? ctx stage) (fun _ _ => seams_mergeStep?)
        (seams_tokenize ctx stage s ▸ h)

/-- The merges of some stages close a seam each. -/
lemma length_passages_add_seams_le (ctx : Context) (stages : List Stage) (s : Sentence) :
    ((passages ctx stages s).flatMap fun passage => passage.sentences.tail).length
        + (stages.foldl (continueWith ctx) { sentence := s }).sentence.seams
      ≤ s.seams := by
  induction stages generalizing s with
  | nil => simp [passages]
  | cons stage stages ih =>
      have hstage := length_passage_add_seams_le ctx s stage
      rw [passages, foldl_continueWith_cons]
      split
      · simpa using hstage
      · have hstages := ih (stageStep ctx s stage).sentence
        rw [List.flatMap_cons, List.length_append]
        omega

/-- Each merge of reading closes a seam. -/
theorem mergeCount_add_seams_le (ctx : Context) (s : Sentence) :
    s.mergeCount ctx + (s.readStages ctx).sentence.seams ≤ s.seams :=
  length_passages_add_seams_le ctx Stage.all s

/-- A budget of one merge for each seam suffices for every stage of reading. -/
theorem fault?_readStages (h : s.seams ≤ ctx.budget) : (s.readStages ctx).fault? = none := by
  have key (stages : List Stage) (s : Sentence) (h : s.seams ≤ ctx.budget) :
      (stages.foldl (continueWith ctx) { sentence := s }).fault? = none := by
    induction stages generalizing s with
    | nil => rfl
    | cons stage stages ih =>
        have hstage := length_passage_add_seams_le ctx s stage
        rw [foldl_continueWith_cons, fault?_stageStep h stage]
        exact ih _ (by omega)
  exact key Stage.all s h

/-! ### Reduction -/

lemma seams_withoutUnread_le (s : Sentence) : s.withoutUnread.seams ≤ s.seams :=
  Nat.sub_le_sub_right (List.length_filter_le _ _) 1

/-- Each reduction closes a seam. -/
theorem reductionCount_add_seams_le (hrules : ∀ r ∈ ctx.grammar.rules, 2 ≤ r.arity)
    (s : Sentence) : s.reductionCount ctx + (s.reduce ctx).sentence.seams ≤ s.seams := by
  have h : s.reductionCount ctx + (s.reduce ctx).sentence.seams ≤ s.withoutUnread.seams :=
    Repetition.length_trail_add_le (reductionStep? ctx)
      (fun _ _ => seams_reductionStep? hrules) ctx.budget s.withoutUnread
  exact Nat.le_trans h (seams_withoutUnread_le s)

/-- A budget of one reduction for each seam suffices. -/
theorem fault?_reduce (hrules : ∀ r ∈ ctx.grammar.rules, 2 ≤ r.arity)
    (h : s.seams ≤ ctx.budget) : (s.reduce ctx).fault? = none :=
  Progress.fault?_ofRun_eq_none_iff.mpr <|
    Repetition.run_of_decreasing (reductionStep? ctx) (fun _ _ => seams_reductionStep? hrules)
      (Nat.le_trans (seams_withoutUnread_le s) h)

end Sentence

/-! ### Inputs -/

lemma Commands.length_extract {α : Type} [Bar α] (thresholds : Thresholds α) (state : State)
    (s : Sentence) : (extract thresholds state s).2.length = s.length := by
  rcases sentence_extract thresholds state s with h | h
  · rw [h]
  · rw [h, withoutMethods, List.length_map]

namespace Parser

variable {parser : Parser} {mark text : String} {state : State}

/-- A sentence that has been read is not given up, if the budget has a step for each seam. -/
lemma parseRead_ne_error (hrules : ∀ r ∈ parser.grammar.rules, 2 ≤ r.arity) {s : Sentence}
    (h : s.seams ≤ parser.config.stepLimit) (fault : Fault) :
    parser.parseRead mark state s ≠ .error fault := by
  have hextract : (Commands.extract parser.config.thresholds state s).2.seams = s.seams := by
    rw [Sentence.seams, Sentence.seams, Commands.length_extract]
  have hbudget : (Commands.extract parser.config.thresholds state s).2.seams
      ≤ (parser.context state).budget := hextract ▸ h
  dsimp only [parseRead]
  rw [Sentence.fault?_reduce hrules hbudget]
  split <;> simp

/-- With a budget of a step for each seam the only error is that of too many words. -/
lemma eq_inputTooLong_of_parseWords (hrules : ∀ r ∈ parser.grammar.rules, 2 ≤ r.arity)
    (hlimit : parser.config.wordLimit ≤ parser.config.stepLimit + 1) {words : List String}
    {fault : Fault} (h : parser.parseWords mark state words = .error fault) :
    fault = .inputTooLong words.length parser.config.wordLimit := by
  unfold parseWords at h
  split at h
  · contradiction
  · split at h
    · exact (Except.error.inj h).symm
    · next hlength =>
        have hseams : (Sentence.ofWords words).seams ≤ (parser.context state).budget := by
          simp only [Sentence.seams, Sentence.ofWords, List.length_map, context]
          omega
        have hread := Sentence.mergeCount_add_seams_le (parser.context state)
          (Sentence.ofWords words)
        simp only [Sentence.fault?_readStages hseams] at h
        refine absurd h (parseRead_ne_error hrules ?_ fault)
        exact Nat.le_trans (Nat.le_trans (Nat.le_add_left _ _) hread) hseams

/-- **No step limit is reached.** Where every rule takes two phrases or more, the merges of reading
and the reductions of what it leaves, or of any sentence that is no longer, are together at most one
less than the phrases at first. A budget of so many steps is enough for all stages and for
reduction, and an input of the standard grammar with no more words than that budget allows never
exceeds it. -/
theorem steps_within_seams :
    (∀ ctx : Context, (∀ r ∈ ctx.grammar.rules, 2 ≤ r.arity) → ∀ s : Sentence,
      (∀ rest : Sentence, rest.length ≤ (s.readStages ctx).sentence.length →
        s.mergeCount ctx + rest.reductionCount ctx ≤ s.length - 1
          ∧ (s.length - 1 ≤ ctx.budget → (rest.reduce ctx).fault? = none))
      ∧ (s.length - 1 ≤ ctx.budget →
        (s.readStages ctx).fault? = none ∧ (s.parse ctx).fault? = none))
    ∧ ∀ (catalog : Catalog) (config : Config) (mark text : String) (state : State) (e : Error),
      config.wordLimit ≤ config.stepLimit + 1 →
      parse ⟨catalog, .standard, config⟩ mark text state = .error e →
        e.fault = .inputTooLong (splitWords text).length config.wordLimit := by
  refine ⟨fun ctx hrules s => ?_, ?_⟩
  · have hread := Sentence.mergeCount_add_seams_le ctx s
    have hrest : ∀ rest : Sentence, rest.length ≤ (s.readStages ctx).sentence.length →
        s.mergeCount ctx + rest.reductionCount ctx ≤ s.seams
          ∧ (s.seams ≤ ctx.budget → (rest.reduce ctx).fault? = none) := by
      intro rest hrest
      have hreduce := Sentence.reductionCount_add_seams_le hrules rest
      have hseams : rest.seams ≤ (s.readStages ctx).sentence.seams := Nat.sub_le_sub_right hrest 1
      exact ⟨by omega, fun hbudget => Sentence.fault?_reduce hrules (by omega)⟩
    refine ⟨hrest, fun hbudget => ?_⟩
    have hfault := Sentence.fault?_readStages hbudget
    refine ⟨hfault, ?_⟩
    simp only [Sentence.parse, hfault]
    exact (hrest _ (Nat.le_refl _)).2 hbudget
  · intro catalog config mark text state e hlimit h
    unfold parse at h
    cases hwords : parseWords ⟨catalog, .standard, config⟩ mark state (splitWords text) with
    | ok found => simp [hwords, Except.mapError] at h
    | error fault =>
        rw [hwords] at h
        rw [← Except.error.inj h]
        exact eq_inputTooLong_of_parseWords Grammar.two_le_arity hlimit hwords

/-- Two words that name a map take one of the two steps that three words may take, and one word is
too many if none is allowed. -/
theorem exists_steps_within_seams :
    ∃ (ctx : Context) (s : Sentence) (config : Config) (state : State) (e : Error),
      (∀ r ∈ ctx.grammar.rules, 2 ≤ r.arity) ∧ s.length = 3 ∧ ctx.budget = 2
      ∧ s.mergeCount ctx = 1
      ∧ s.mergeCount ctx + (s.readStages ctx).sentence.reductionCount ctx ≤ 2
      ∧ (s.parse ctx).fault? = none
      ∧ config.wordLimit ≤ config.stepLimit + 1
      ∧ parse ⟨.empty, .standard, config⟩ "!" "kick" state = .error e
      ∧ e.fault = .inputTooLong 1 0 := by
  let recognize : Recognizer := fun _ stage text =>
    if stage = .object ∧ text = "port valdez" then
      [{ text, variant := .thing .map, similarity := .hundred }]
    else []
  let ctx : Context := { grammar := .standard, catalog := .empty, state := { now := ⟨0⟩ }
                         recognizers := [recognize], budget := 2 }
  let s : Sentence := .ofWords ["port", "valdez", "please"]
  let config : Config := { wordLimit := 0 }
  have hrules : ∀ r ∈ ctx.grammar.rules, 2 ≤ r.arity := Grammar.two_le_arity
  have hwords : splitWords "kick" = ["kick"] := by decide +kernel
  have hparse : parse ⟨.empty, .standard, config⟩ "!" "kick" { now := ⟨0⟩ }
      = .error (.parsing "kick" (.inputTooLong 1 0)) := by
    rw [parse, hwords]
    rfl
  obtain ⟨hsteps, hinput⟩ := steps_within_seams
  obtain ⟨hcount, hfault⟩ := hsteps ctx hrules s
  exact ⟨ctx, s, config, { now := ⟨0⟩ }, _, hrules, rfl, rfl, by decide +kernel,
    (hcount _ (Nat.le_refl _)).1, (hfault (by decide)).2, by decide, hparse,
    hinput .empty config "!" "kick" { now := ⟨0⟩ } _ (by decide) hparse⟩

end Parser

end ChatCommand
