/-
Ranked phrases from the words of an input to its match.

Phrases come from their words by putting readings in. Merging makes such phrases anew, a rule makes
a phrase with one reading, and calling a command takes readings out. So every phrase on the way is
ranked, and its first reading is the preferred one.

* `Sentence.AllBuilt`: every phrase comes from putting readings in and taking readings out;
* `Context.isBuilt_tokenizeText`: reading makes such phrases;
* `Sentence.allBuilt_of_mem_history`, `Sentence.allBuilt_of_mem_reductions`,
  `Parser.allBuilt_of_reaches`: all phrases on the way are such;
* `Parser.isRanked_of_isBuilt_of_reaches`: **phrases are ranked whatever is done to them, and so on
  the way of every input**.
-/
import ChatCommand.Proofs.Phrase.Distinct
import ChatCommand.Proofs.Recognition.Typing

namespace ChatCommand

/-- Every phrase comes from putting readings in and taking readings out. -/
def Sentence.AllBuilt (s : Sentence) : Prop :=
  ∀ p ∈ s, p.IsBuilt

variable {ctx : Context} {s s' : Sentence}

/-! ### Reading and merging -/

/-- Reading a span puts its readings in, stage by stage. -/
lemma Context.isBuilt_tokenizeText (ctx : Context) (through : Stage) (text : String) :
    (ctx.tokenizeText through text).IsBuilt := by
  have key (stages : List Stage) (p : Phrase) (hp : p.IsBuilt) :
      (stages.foldl ctx.readPhrase p).IsBuilt := by
    induction stages generalizing p with
    | nil => exact hp
    | cons stage stages ih => exact ih _ (hp.extend _)
  exact key _ _ (.new text)

namespace Sentence

lemma allBuilt_ofWords (words : List String) : (ofWords words).AllBuilt := by
  intro p hp
  obtain ⟨word, -, rfl⟩ := List.mem_map.mp hp
  exact .new word

lemma AllBuilt.withoutUnread (hs : s.AllBuilt) : s.withoutUnread.AllBuilt :=
  fun p hp => hs p (List.mem_of_mem_filter hp)

lemma AllBuilt.tokenize (hs : s.AllBuilt) (stage : Stage) : (s.tokenize ctx stage).AllBuilt := by
  intro p hp
  obtain ⟨q, hq, rfl⟩ := List.mem_map.mp hp
  exact (hs q hq).extend _

/-- One merge puts a phrase that is read anew in the place of others. -/
lemma AllBuilt.mergeStep? (hs : s.AllBuilt) {stage : Stage}
    (h : s.mergeStep? ctx stage = some s') : s'.AllBuilt := by
  obtain ⟨before, window, after, merged, rfl, -, hmerged, rfl⟩ := exists_of_mergeStep? h
  obtain ⟨rfl, -⟩ := Context.merge?_eq_some_iff.mp hmerged
  exact forall_mem_replace hs (ctx.isBuilt_tokenizeText stage _)

lemma allBuilt_of_mem_history (ctx : Context) (words : List String) :
    ∀ passage ∈ (ofWords words).history ctx, ∀ s ∈ passage.sentences, s.AllBuilt :=
  history_invariant (fun stage _ hs => hs.tokenize stage) (fun _ _ _ hs h => hs.mergeStep? h)
    (allBuilt_ofWords words)

/-! ### Reduction -/

/-- One reduction puts a phrase with one reading in the place of others. -/
lemma AllBuilt.replace {before window after : Sentence}
    (hs : AllBuilt (before ++ (window ++ after))) (t : Token) :
    AllBuilt (before ++ .ofToken (joinText window) t :: after) :=
  forall_mem_replace hs (.ofToken _ t)

lemma allBuilt_of_mem_reductions (hs : s.AllBuilt) : ∀ s' ∈ s.reductions ctx, s'.AllBuilt := by
  refine reductions_induction (fun s s' hs h => ?_) hs.withoutUnread
  obtain ⟨before, window, after, r, t, rfl, -, -, -, rfl⟩ := exists_of_reductionStep? h
  exact hs.replace t

end Sentence

/-! ### On the way of an input -/

/-- Calling a command takes the names of commands out, or nothing. -/
lemma Commands.allBuilt_extract {α : Type} [Bar α] {thresholds : Thresholds α} {state : State}
    (hs : s.AllBuilt) : (extract thresholds state s).2.AllBuilt := by
  rcases sentence_extract thresholds state s with h | h
  · rwa [h]
  · rw [h]
    intro p hp
    obtain ⟨q, hq, rfl⟩ := List.mem_map.mp hp
    exact (hs q hq).retain _

namespace Parser

lemma allBuilt_of_reaches {parser : Parser} {state : State} {text : String}
    (h : parser.Reaches state text s) : s.AllBuilt := by
  induction h with
  | words => exact Sentence.allBuilt_ofWords _
  | read hpassage hs => exact Sentence.allBuilt_of_mem_history _ _ _ hpassage _ hs
  | extract _ ih => exact Commands.allBuilt_extract ih
  | drop _ ih => exact ih.withoutUnread
  | reduce _ _ _ ih => exact ih.replace _

/-- **Phrases are ranked whatever is done to them**: their readings stand by rank, no two of these
mean the same, and each is similar in percent. So are the phrases that reading some words and
reducing what has been read pass through, and those on the way of an input. -/
theorem isRanked_of_isBuilt_of_reaches :
    (∀ p : Phrase, p.IsBuilt → p.IsRanked)
      ∧ (∀ (ctx : Context) (words : List String),
          ∀ passage ∈ (Sentence.ofWords words).history ctx, ∀ s ∈ passage.sentences,
            ∀ s' ∈ s :: s.reductions ctx, ∀ p ∈ s', p.IsBuilt ∧ p.IsRanked)
      ∧ ∀ (parser : Parser) (state : State) (text : String) (s : Sentence),
          parser.Reaches state text s → ∀ p ∈ s, p.IsBuilt ∧ p.IsRanked := by
  have hranked {s : Sentence} (hs : s.AllBuilt) : ∀ p ∈ s, p.IsBuilt ∧ p.IsRanked :=
    fun p hp => ⟨hs p hp, (hs p hp).isRanked⟩
  refine ⟨fun p hp => hp.isRanked, fun ctx words passage hpassage s hs s' hs' => ?_,
    fun parser state text s h => hranked (allBuilt_of_reaches h)⟩
  have hbuilt := Sentence.allBuilt_of_mem_history ctx words passage hpassage s hs
  rcases List.mem_cons.mp hs' with rfl | hs'
  · exact hranked hbuilt
  · exact hranked (Sentence.allBuilt_of_mem_reductions hbuilt s' hs')

/-- A reading that is put in comes first if it is more similar, and a word that is read as a number
is ranked. -/
theorem exists_isRanked_of_reaches :
    (∃ p : Phrase, p.tokens.map Token.similarity = [.hundred, .zero] ∧ p.IsRanked)
      ∧ ∃ catalog state s, Reaches ⟨catalog, .standard, {}⟩ state "two" s
          ∧ s.map (fun p => p.tokens.map Token.variant) = [[.number]]
          ∧ ∀ p ∈ s, p.IsBuilt ∧ p.IsRanked := by
  obtain ⟨hbuilt, -, hreaches⟩ := isRanked_of_isBuilt_of_reaches
  constructor
  · let low : Token := { text := "two", variant := .number, similarity := .zero }
    let high : Token := { text := "two", variant := .method, similarity := .hundred }
    refine ⟨(Phrase.ofToken "two" low).push high, ?_, hbuilt _ (.push (.ofToken _ _) _)⟩
    have hbehind : low.ranksBefore high = false := by decide
    change (List.mergeSort [low, high] Token.ranksBefore).map Token.similarity = _
    simp [List.mergeSort, List.MergeSort.Internal.splitInTwo, hbehind, low, high]
  · let catalog : Catalog := ⟨fun
      | .numeric => [{ literal := some "two", value := some (.integer 2) }]
      | _ => []⟩
    have hread := reaches_readStages ⟨catalog, .standard, {}⟩ { now := ⟨0⟩ } "two"
    refine ⟨catalog, _, _, hread, ?_, hreaches _ _ _ _ hread⟩
    decide +kernel

end Parser

end ChatCommand
