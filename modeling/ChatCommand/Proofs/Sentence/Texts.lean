/-
Texts of sentences.

* `joinText_replace`: one phrase with the text of some neighbours leaves the text of a sentence as
  it is;
* `Sentence.HasTexts`: every phrase has a text;
* `Sentence.text_of_applyFirst?`: putting neighbours together keeps the text of such a sentence;
* `Sentence.hasTexts_readStages`: **every sentence that is read from an input is one**.
-/
import ChatCommand.Proofs.Phrase.Scanning
import ChatCommand.Proofs.Sentence.History
import ChatCommand.Proofs.Sentence.Steps
import ChatCommand.Proofs.Sentence.Windows

namespace ChatCommand

/-! ### Joined texts -/

lemma appendSpan_of_ne_empty {text : String} (h : text ≠ "") (span : String) :
    appendSpan text span = text ++ " " ++ span := by
  rw [appendSpan, if_neg (by simpa using h)]

/-- Behind a text, spans are put as they are put behind each other. -/
lemma foldl_appendSpan_append {text span : String} (hspan : span ≠ "") (phrases : List Phrase) :
    phrases.foldl (fun text p => appendSpan text p.text) (text ++ " " ++ span)
      = text ++ " " ++ phrases.foldl (fun text p => appendSpan text p.text) span := by
  induction phrases generalizing span with
  | nil => rfl
  | cons p phrases ih =>
      have hboth : appendSpan (text ++ " " ++ span) p.text
          = text ++ " " ++ appendSpan span p.text := by
        rw [appendSpan_of_ne_empty (by simp), appendSpan_of_ne_empty hspan]
        simp only [String.append_assoc]
      simp only [List.foldl_cons]
      rw [hboth]
      exact ih (by rw [appendSpan_of_ne_empty hspan]; simp)

/-- Phrases of which the first has a text are put behind a text like one phrase with the text of
all. -/
lemma foldl_appendSpan {phrases : List Phrase} (h : ∃ p ∈ phrases.head?, p.text ≠ "")
    (text : String) :
    phrases.foldl (fun text p => appendSpan text p.text) text
      = appendSpan text (joinText phrases) := by
  obtain ⟨p, hp, htext⟩ := h
  obtain ⟨others, rfl⟩ := List.head?_eq_some_iff.mp hp
  by_cases hempty : text = ""
  · subst hempty
    rfl
  · rw [List.foldl_cons, appendSpan_of_ne_empty hempty, foldl_appendSpan_append htext,
      appendSpan_of_ne_empty hempty]
    rfl

/-- The text of phrases of which the first has a text is not empty. -/
lemma joinText_ne_empty {phrases : List Phrase} (h : ∃ p ∈ phrases.head?, p.text ≠ "") :
    joinText phrases ≠ "" := by
  obtain ⟨p, hp, htext⟩ := h
  obtain ⟨others, rfl⟩ := List.head?_eq_some_iff.mp hp
  have key (phrases : List Phrase) (text : String) (h : text ≠ "") :
      phrases.foldl (fun text p => appendSpan text p.text) text ≠ "" := by
    induction phrases generalizing text with
    | nil => exact h
    | cons q phrases ih =>
        refine ih (appendSpan text q.text) ?_
        rw [appendSpan_of_ne_empty h]
        simp
  exact key others p.text htext

/-- One phrase with the text of some neighbours leaves the text of the sentence as it is. -/
lemma joinText_replace {before window after : List Phrase} {p : Phrase}
    (hwindow : ∃ p ∈ window.head?, p.text ≠ "") (hp : p.text = joinText window) :
    joinText (before ++ p :: after) = joinText (before ++ (window ++ after)) := by
  simp only [joinText, List.foldl_append, List.foldl_cons]
  rw [foldl_appendSpan hwindow, hp]

namespace Sentence

variable {state : State} {rules : List Rule} {count : Nat}

/-- Every phrase has a text, as each word of an input has. -/
def HasTexts (s : Sentence) : Prop := ∀ p ∈ s, p.text ≠ ""

/-- The first of some neighbours in such a sentence has a text. -/
lemma HasTexts.exists_head? {before window after : List Phrase}
    (hs : HasTexts (before ++ (window ++ after))) (hwindow : 0 < window.length) :
    ∃ p ∈ window.head?, p.text ≠ "" := by
  cases window with
  | nil => contradiction
  | cons p window => exact ⟨p, rfl, hs p (by simp)⟩

/-- Putting neighbours together keeps the text of a sentence. -/
theorem text_of_applyFirst? {s s' : Sentence} (h0 : 0 < count) (hs : s.HasTexts)
    (h : applyFirst? state rules count s = some s') : s'.HasTexts ∧ s'.text = s.text := by
  obtain ⟨before, window, after, t, rfl, hcount, rfl⟩ := exists_of_applyFirst? h
  have hhead := hs.exists_head? (hcount ▸ h0)
  exact ⟨forall_mem_replace hs (joinText_ne_empty hhead), joinText_replace hhead rfl⟩

/-! ### Reading -/

/-- The words of an input have texts. -/
lemma hasTexts_ofText (input : String) : (ofText input).HasTexts := by
  intro p hp
  obtain ⟨word, hword, rfl⟩ := List.mem_map.mp hp
  obtain ⟨chars, hchars, rfl⟩ := List.mem_map.mp hword
  have hne := ne_nil_of_mem_readWords [] input.toList chars hchars
  simpa using hne

lemma HasTexts.tokenize {s : Sentence} (hs : s.HasTexts) (ctx : Context) (stage : Stage) :
    (s.tokenize ctx stage).HasTexts := by
  intro p hp
  obtain ⟨q, hq, rfl⟩ := List.mem_map.mp hp
  exact hs q hq

@[simp]
lemma text_tokenizeText (ctx : Context) (through : Stage) (text : String) :
    (ctx.tokenizeText through text).text = text := by
  have key (stages : List Stage) (p : Phrase) : (stages.foldl ctx.readPhrase p).text = p.text := by
    induction stages generalizing p with
    | nil => rfl
    | cons stage stages ih => exact ih _
  exact key _ _

/-- A merge puts a phrase with the text of its neighbours in their place. -/
lemma HasTexts.mergeStep? {ctx : Context} {stage : Stage} {s s' : Sentence} (hs : s.HasTexts)
    (h : s.mergeStep? ctx stage = some s') : s'.HasTexts := by
  obtain ⟨before, window, after, merged, rfl, hcount, hmerged, rfl⟩ := exists_of_mergeStep? h
  obtain ⟨rfl, -⟩ := Context.merge?_eq_some_iff.mp hmerged
  refine forall_mem_replace hs ?_
  rw [text_tokenizeText]
  exact joinText_ne_empty (hs.exists_head? (by omega))

/-- **Every phrase that is read from an input has a text**, whatever the stages merge. -/
theorem hasTexts_readStages (ctx : Context) (input : String) :
    ((ofText input).readStages ctx).sentence.HasTexts :=
  readStages_invariant (fun stage _ hs => hs.tokenize ctx stage)
    (fun _ _ _ hs h => hs.mergeStep? h) (hasTexts_ofText input)

end Sentence

end ChatCommand
