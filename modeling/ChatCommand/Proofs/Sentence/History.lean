/-
The sentences that reading passes through.

* `Passage`, `Sentence.history`: the stages as far as they are carried out, each with every sentence
  on the way;
* `Sentence.exists_getLast?_history`: the history ends with what reading leaves behind;
* `Sentence.history_induction`: what tokenizing and merging keep holds all along, also in a property
  that tells which stages have been gone through;
* `Sentence.readStages_invariant`: so it holds of what reading leaves behind;
* `Sentence.reductions`: the sentences that reduction passes through.
-/
import Mathlib.Tactic.Common
import ChatCommand.Sentence.Parse

namespace ChatCommand

/-- One stage as it is carried out. -/
structure Passage where
  stage : Stage
  /-- The tokenized sentence, then what each merge makes of it. -/
  sentences : List Sentence

namespace Sentence

/-- A stage carried out on a sentence. -/
def passage (ctx : Context) (s : Sentence) (stage : Stage) : Passage where
  stage
  sentences :=
    if stage = .reduction then [s.tokenize ctx stage]
    else Repetition.trail (mergeStep? ctx stage) ctx.budget (s.tokenize ctx stage)

/-- Some stages carried out in order, up to one in which the budget ends. -/
def passages (ctx : Context) : List Stage → Sentence → List Passage
  | [], _ => []
  | stage :: stages, s =>
    s.passage ctx stage ::
      match (stageStep ctx s stage).fault? with
      | some _ => []
      | none => passages ctx stages (stageStep ctx s stage).sentence

/-- The stages carried out in reading a sentence. -/
def history (ctx : Context) (s : Sentence) : List Passage := passages ctx Stage.all s

/-- The sentences that reduction passes through, the first of which is without what has not been
read. -/
def reductions (ctx : Context) (s : Sentence) : List Sentence :=
  Repetition.trail (reductionStep? ctx) ctx.budget s.withoutUnread

variable {ctx : Context} {s : Sentence}

/-! ### The end -/

/-- A stage ends where its passage ends. -/
lemma getLast?_passage (ctx : Context) (s : Sentence) (stage : Stage) :
    (s.passage ctx stage).sentences.getLast? = some (stageStep ctx s stage).sentence := by
  rw [passage, stageStep, refactor]
  split
  · rfl
  · exact Repetition.getLast?_trail _ _ _

/-- Reduction ends where its trail ends. -/
lemma getLast?_reductions (ctx : Context) (s : Sentence) :
    (s.reductions ctx).getLast? = some (s.reduce ctx).sentence :=
  Repetition.getLast?_trail _ _ _

/-- Once the budget has ended a stage, the other stages are passed over. -/
lemma foldl_continueWith_of_fault {p : Progress} {fault : Fault} (h : p.fault? = some fault)
    (stages : List Stage) : stages.foldl (continueWith ctx) p = p := by
  induction stages with
  | nil => rfl
  | cons stage stages ih =>
      have hstep : continueWith ctx p stage = p := by rw [continueWith, h]
      rw [List.foldl_cons, hstep, ih]

/-- Some stages on a sentence are the first of them, and the others unless that one fails. -/
lemma foldl_continueWith_cons (stage : Stage) (stages : List Stage) (s : Sentence) :
    (stage :: stages).foldl (continueWith ctx) { sentence := s } =
      match (stageStep ctx s stage).fault? with
      | some _ => stageStep ctx s stage
      | none =>
        stages.foldl (continueWith ctx) { sentence := (stageStep ctx s stage).sentence } := by
  have hfirst : continueWith ctx { sentence := s } stage = stageStep ctx s stage := rfl
  rw [List.foldl_cons, hfirst]
  cases h : (stageStep ctx s stage).fault? with
  | some fault => exact foldl_continueWith_of_fault h stages
  | none =>
      have hp : stageStep ctx s stage = { sentence := (stageStep ctx s stage).sentence } := by
        rw [← h]
      exact congrArg (stages.foldl (continueWith ctx)) hp

/-- The last passage ends with what the stages leave behind, and is that of the last stage unless
one has failed. -/
lemma exists_getLast?_passages (ctx : Context) (stage : Stage) (stages : List Stage)
    (s : Sentence) :
    ∃ last, (passages ctx (stage :: stages) s).getLast? = some last
      ∧ last.sentences.getLast?
          = some ((stage :: stages).foldl (continueWith ctx) { sentence := s }).sentence
      ∧ (((stage :: stages).foldl (continueWith ctx) { sentence := s }).fault? = none →
          some last.stage = (stage :: stages).getLast?) := by
  induction stages generalizing stage s with
  | nil =>
      have hone : passages ctx [stage] s = [s.passage ctx stage] := by
        rw [passages]
        split <;> rfl
      rw [hone]
      exact ⟨_, rfl, getLast?_passage ctx s stage, fun _ => rfl⟩
  | cons next stages ih =>
      rw [passages, foldl_continueWith_cons]
      cases h : (stageStep ctx s stage).fault? with
      | some fault =>
          exact ⟨_, rfl, getLast?_passage ctx s stage, fun hnone => by simp [h] at hnone⟩
      | none =>
          obtain ⟨last, hlast, hend, hstage⟩ := ih next (stageStep ctx s stage).sentence
          refine ⟨last, ?_, hend, fun hnone => ?_⟩
          · obtain ⟨passage, passages, hcons⟩ : ∃ passage rest,
                passages ctx (next :: stages) (stageStep ctx s stage).sentence = passage :: rest :=
              ⟨_, _, rfl⟩
            rw [hcons] at hlast ⊢
            simpa using hlast
          · simpa using hstage hnone

/-- The history of a sentence ends with what reading leaves behind. -/
theorem exists_getLast?_history (ctx : Context) (s : Sentence) :
    ∃ last, (s.history ctx).getLast? = some last
      ∧ last.sentences.getLast? = some (s.readStages ctx).sentence
      ∧ ((s.readStages ctx).fault? = none → last.stage = .reduction) := by
  obtain ⟨last, hlast, hend, hstage⟩ := exists_getLast?_passages ctx .primitive
    [.functionWord, .operator, .object, .reduction] s
  exact ⟨last, hlast, hend, fun hnone => Option.some.inj (hstage hnone)⟩

/-- Nothing is read where there are no phrases. -/
lemma readStages_nil (ctx : Context) : readStages ctx [] = { sentence := [] } := by
  have hmerge (stage : Stage) : mergeStep? ctx stage [] = none := rfl
  have hstage (stage : Stage) : stageStep ctx [] stage = { sentence := [] } := by
    have htokens : tokenize ctx stage [] = [] := rfl
    rw [stageStep, htokens, refactor, Repetition.run_of_eq_none (hmerge stage)]
    split <;> rfl
  have key (stages : List Stage) :
      stages.foldl (continueWith ctx) { sentence := [] } = { sentence := [] } := by
    induction stages with
    | nil => rfl
    | cons stage stages ih => rwa [foldl_continueWith_cons, hstage]
  exact key Stage.all

/-! ### What holds all along -/

/-- The stages up to one are those before it, and that one. -/
lemma upTo_of_all_eq {before after : List Stage} {stage : Stage}
    (h : Stage.all = before ++ stage :: after) : stage.upTo = before ++ [stage] := by
  have hascending : Stage.all.Pairwise fun t u => t.index < u.index := by decide
  rw [h, List.pairwise_append, List.pairwise_cons] at hascending
  obtain ⟨-, ⟨hafter, -⟩, hbefore⟩ := hascending
  have hearlier : before.filter (fun t => t.index ≤ stage.index) = before :=
    List.filter_eq_self.mpr fun t ht => by
      have := hbefore t ht stage List.mem_cons_self
      simpa using Nat.le_of_lt this
  have hlater : after.filter (fun t => t.index ≤ stage.index) = [] :=
    List.filter_eq_nil_iff.mpr fun t ht => by
      have := hafter t ht
      simpa using this
  rw [Stage.upTo, h, List.filter_append, hearlier, List.filter_cons_of_pos (by simp), hlater]

/-- What tokenizing brings about and every merge keeps holds all through a stage. -/
lemma passage_induction {P : Sentence → Prop} {stage : Stage}
    (merge : ∀ s s', P s → s.mergeStep? ctx stage = some s' → P s')
    (start : P (s.tokenize ctx stage)) : ∀ s' ∈ (s.passage ctx stage).sentences, P s' := by
  rw [passage]
  split
  · simpa using start
  · exact Repetition.trail_induction merge start

/-- **What tokenizing and merging keep holds all along**: a property of sentences, beside the stages
they have gone through, that holds of the first sentence holds of every sentence on the way. -/
theorem history_induction {P : List Stage → Sentence → Prop}
    (tokenize : ∀ before stage s, stage.upTo = before ++ [stage] → P before s →
      P stage.upTo (s.tokenize ctx stage))
    (merge : ∀ stage s s', P stage.upTo s → s.mergeStep? ctx stage = some s' → P stage.upTo s')
    (start : P [] s) :
    ∀ passage ∈ s.history ctx, ∀ s' ∈ passage.sentences, P passage.stage.upTo s' := by
  have key (before stages : List Stage) (s : Sentence) (hall : Stage.all = before ++ stages)
      (hs : P before s) :
      ∀ passage ∈ passages ctx stages s, ∀ s' ∈ passage.sentences, P passage.stage.upTo s' := by
    induction stages generalizing before s with
    | nil => simp [passages]
    | cons stage stages ih =>
        have hupTo := upTo_of_all_eq hall
        have hpassage : ∀ s' ∈ (s.passage ctx stage).sentences, P stage.upTo s' :=
          passage_induction (merge stage) (tokenize before stage s hupTo hs)
        have hend : P (before ++ [stage]) (stageStep ctx s stage).sentence :=
          hupTo ▸ hpassage _ (List.mem_of_getLast? (getLast?_passage ctx s stage))
        rw [passages]
        refine List.forall_mem_cons.mpr ⟨hpassage, ?_⟩
        split
        · simp
        · exact ih (before ++ [stage]) _ (by simpa using hall) hend
  exact key [] Stage.all s rfl start

/-- What tokenizing and merging keep in whatever stage holds all along. -/
lemma history_invariant {I : Sentence → Prop}
    (tokenize : ∀ stage s, I s → I (s.tokenize ctx stage))
    (merge : ∀ stage s s', I s → s.mergeStep? ctx stage = some s' → I s') (start : I s) :
    ∀ passage ∈ s.history ctx, ∀ s' ∈ passage.sentences, I s' :=
  history_induction (P := fun _ => I) (fun _ stage s _ => tokenize stage s) merge start

/-- What tokenizing and merging keep holds of what reading leaves behind, also where the budget ends
a stage. -/
lemma readStages_invariant {I : Sentence → Prop}
    (tokenize : ∀ stage s, I s → I (s.tokenize ctx stage))
    (merge : ∀ stage s s', I s → s.mergeStep? ctx stage = some s' → I s') (start : I s) :
    I (s.readStages ctx).sentence := by
  obtain ⟨last, hlast, hend, -⟩ := exists_getLast?_history ctx s
  exact history_invariant tokenize merge start last (List.mem_of_getLast? hlast) _
    (List.mem_of_getLast? hend)

/-- What every reduction keeps holds of every sentence that reduction passes through. -/
lemma reductions_induction {P : Sentence → Prop}
    (reduce : ∀ s s', P s → s.reductionStep? ctx = some s' → P s') (start : P s.withoutUnread) :
    ∀ s' ∈ s.reductions ctx, P s' :=
  Repetition.trail_induction reduce start

end Sentence

end ChatCommand
