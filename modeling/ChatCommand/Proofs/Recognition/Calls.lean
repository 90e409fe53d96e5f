/-
The calls of commands in a sentence, and the best of them.

* `Commands.Call`, `Call.Outranks`: a phrase beside a command it may call, and which of two calls is
  the better one: the more similar, of these that of the longer phrase, of these the first;
* `Commands.exists_of_foldl_preferred`, `Commands.exists_of_foldl_map`: the search keeps the first
  of the best tokens;
* `Commands.foldl_preferred_mergeSort`: the ranking of the tokens of a phrase has no part in it;
* `Commands.ListsMethods`, `Commands.primary?_eq_foldl`: so where each phrase has the tokens of the
  commands it calls, the primary one is found among all close calls in order;
* `Commands.primary?_eq_none_iff`, `Commands.exists_call_of_primary?`: **there is none exactly if no
  call is close, and else it is that of the call which is better than all others**.
-/
import Mathlib.Data.List.Basic
import ChatCommand.Proofs.Recognition.Methods

namespace ChatCommand

namespace Commands

/-! ### Calls -/

/-- A phrase beside a command that it may call: where the phrase stands in the sentence, with its
text, and where the command stands among those of the state. -/
structure Call where
  place : Nat
  text : String
  number : Nat
  command : TextCommand

namespace Call

/-- How similar the phrase is to the words that call the command. -/
def score (a : Call) : Score := Names.methodSimilarity a.text a.command

/-- The call is that of a phrase of some texts, and of one of some commands. -/
structure IsAmong (a : Call) (texts : List String) (commands : List TextCommand) : Prop where
  text : texts[a.place]? = some a.text
  command : commands[a.number]? = some a.command

/-- The phrase comes first, or it is the same and the command does. -/
def Precedes (a b : Call) : Prop :=
  a.place < b.place ∨ a.place = b.place ∧ a.number < b.number

/-- A call is better than another if it is more similar. Of two calls that are equally similar it
is the one whose phrase has more bytes, and if both have as many, the one that precedes. -/
def Outranks (a b : Call) : Prop :=
  b.score < a.score ∨ a.score.magnitude = b.score.magnitude
    ∧ (b.text.utf8ByteSize < a.text.utf8ByteSize
      ∨ a.text.utf8ByteSize = b.text.utf8ByteSize ∧ a.Precedes b)

/-- The token of a call, with the place of its phrase. -/
def entry (a : Call) : Nat × Token := (a.place, Names.methodToken a.text a.command)

end Call

/-- All calls of some phrases and some commands, in order. -/
def calls (texts : List String) (commands : List TextCommand) : List Call :=
  texts.zipIdx.flatMap fun (text, place) => commands.zipIdx.map fun (command, number) =>
    { place, text, number, command }

lemma mem_calls {texts : List String} {commands : List TextCommand} {a : Call} :
    a ∈ calls texts commands ↔ a.IsAmong texts commands := by
  simp only [calls, List.mem_flatMap, List.mem_map, List.mem_zipIdx_iff_getElem?, Prod.exists]
  constructor
  · rintro ⟨text, place, htext, command, number, hcommand, rfl⟩
    exact ⟨htext, hcommand⟩
  · rintro ⟨htext, hcommand⟩
    exact ⟨a.text, a.place, htext, a.command, a.number, hcommand, rfl⟩

lemma pairwise_zipIdx {α : Type} (l : List α) : l.zipIdx.Pairwise fun a b => a.2 < b.2 := by
  have hplaces : (l.zipIdx.map Prod.snd).Pairwise (· < ·) := by
    rw [List.zipIdx_map_snd]
    exact List.pairwise_lt_range' 1
  exact List.pairwise_map.mp hplaces

lemma pairwise_calls (texts : List String) (commands : List TextCommand) :
    (calls texts commands).Pairwise Call.Precedes := by
  rw [calls, List.pairwise_flatMap]
  constructor
  · rintro ⟨text, place⟩ -
    rw [List.pairwise_map]
    exact (pairwise_zipIdx commands).imp fun hnumber => .inr ⟨rfl, hnumber⟩
  · refine (pairwise_zipIdx texts).imp fun {p q} hplace a ha b hb => ?_
    obtain ⟨c, -, rfl⟩ := List.mem_map.mp ha
    obtain ⟨d, -, rfl⟩ := List.mem_map.mp hb
    exact .inl hplace

/-! ### The search -/

/-- One token is preferred to an earlier one if it is more similar, or as similar and longer. -/
lemma isPreferred_iff {t u : Token} :
    isPreferred t u = true ↔
      u.similarity.magnitude < t.similarity.magnitude
        ∨ u.similarity.magnitude = t.similarity.magnitude
          ∧ u.text.utf8ByteSize < t.text.utf8ByteSize := by
  simp [isPreferred, Score.lt_def]

/-- The search finds a token wherever there is one. -/
lemma foldl_preferred_eq_none_iff {l : List (Nat × Token)} :
    l.foldl preferred none = none ↔ l = [] := by
  have hsome (l : List (Nat × Token)) (best : Nat × Token) :
      l.foldl preferred (some best) ≠ none := by
    induction l generalizing best with
    | nil => exact Option.some_ne_none best
    | cons c l ih =>
        rw [List.foldl_cons, preferred]
        split <;> exact ih _
  cases l with
  | nil => simp
  | cons c l => simpa [preferred] using hsome l c

/-- The search keeps the first of the best tokens: one that is preferred to all before it, and to
which none behind it is preferred. -/
lemma exists_of_foldl_preferred {b x : Nat × Token} {l : List (Nat × Token)}
    (h : l.foldl preferred (some b) = some x) :
    ∃ before after, b :: l = before ++ x :: after
      ∧ (∀ y ∈ before, isPreferred x.2 y.2 = true)
      ∧ ∀ y ∈ after, ¬isPreferred y.2 x.2 = true := by
  induction l generalizing b with
  | nil =>
      obtain rfl := Option.some.inj h
      exact ⟨[], [], rfl, by simp, by simp⟩
  | cons c l ih =>
      rw [List.foldl_cons, preferred] at h
      by_cases hc : isPreferred c.2 b.2 = true
      · obtain ⟨before, after, hsplit, hbefore, hafter⟩ := ih (if_pos hc ▸ h)
        refine ⟨b :: before, after, by rw [hsplit, List.cons_append], ?_, hafter⟩
        refine List.forall_mem_cons.mpr ⟨?_, hbefore⟩
        cases before with
        | nil =>
            obtain ⟨rfl, -⟩ := List.cons.inj hsplit
            exact hc
        | cons c' before =>
            obtain ⟨rfl, -⟩ := List.cons.inj hsplit
            have hx := hbefore c (by simp)
            rw [isPreferred_iff] at *
            omega
      · obtain ⟨before, after, hsplit, hbefore, hafter⟩ := ih (if_neg hc ▸ h)
        cases before with
        | nil =>
            obtain ⟨rfl, rfl⟩ := List.cons.inj hsplit
            exact ⟨[], c :: l, rfl, by simp, List.forall_mem_cons.mpr ⟨hc, hafter⟩⟩
        | cons b' before =>
            obtain ⟨rfl, rfl⟩ := List.cons.inj hsplit
            obtain ⟨hx, hbefore⟩ := List.forall_mem_cons.mp hbefore
            refine ⟨b :: c :: before, after, rfl, ?_, hafter⟩
            refine List.forall_mem_cons.mpr ⟨hx, List.forall_mem_cons.mpr ⟨?_, hbefore⟩⟩
            rw [isPreferred_iff] at *
            omega

/-- The search among tokens that come in some order keeps one which is preferred to each other, or
comes before it while that is not preferred. -/
lemma exists_of_foldl_map {α : Type} {R : α → α → Prop} {f : α → Nat × Token} {l : List α}
    {x : Nat × Token} (hl : l.Pairwise R) (h : (l.map f).foldl preferred none = some x) :
    ∃ a ∈ l, x = f a ∧ ∀ b ∈ l, b ≠ a →
      isPreferred (f a).2 (f b).2 = true ∨ R a b ∧ ¬isPreferred (f b).2 (f a).2 = true := by
  cases l with
  | nil => contradiction
  | cons c l =>
      obtain ⟨before, after, hsplit, hbefore, hafter⟩ := exists_of_foldl_preferred h
      rw [← List.map_cons, List.map_eq_append_iff] at hsplit
      obtain ⟨front, back, hsplit, rfl, hback⟩ := hsplit
      obtain ⟨a, behind, rfl, rfl, rfl⟩ := List.map_eq_cons_iff.mp hback
      rw [hsplit, List.pairwise_append, List.pairwise_cons] at hl
      rw [hsplit]
      refine ⟨a, by simp, rfl, fun b hb hne => ?_⟩
      rw [List.mem_append, List.mem_cons] at hb
      rcases hb with hb | rfl | hb
      · exact .inl (hbefore _ (List.mem_map_of_mem hb))
      · contradiction
      · exact .inr ⟨hl.2.1.1 b hb, hafter _ (List.mem_map_of_mem hb)⟩

lemma Call.outranks_of_isPreferred {a b : Call} (h : isPreferred a.entry.2 b.entry.2 = true) :
    a.Outranks b := by
  rcases isPreferred_iff.mp h with hscore | ⟨hscore, hsize⟩
  · exact .inl hscore
  · exact .inr ⟨hscore.symm, .inl hsize⟩

lemma Call.outranks_of_precedes {a b : Call} (hprecedes : a.Precedes b)
    (h : ¬isPreferred b.entry.2 a.entry.2 = true) : a.Outranks b := by
  have hsize (x : Call) : x.entry.2.text = x.text := rfl
  have hscore (x : Call) : x.entry.2.similarity = x.score := rfl
  rw [isPreferred_iff, hsize, hsize, hscore, hscore] at h
  rw [Outranks, Score.lt_def]
  by_cases hlt : b.score.magnitude < a.score.magnitude
  · exact .inl hlt
  · by_cases hlength : b.text.utf8ByteSize < a.text.utf8ByteSize
    · exact .inr ⟨by omega, .inl hlength⟩
    · exact .inr ⟨by omega, .inr ⟨by omega, hprecedes⟩⟩

/-- A token that is preferred to another may be looked at before it. -/
lemma preferred_comm (best? : Option (Nat × Token)) {a b : Nat × Token}
    (h : isPreferred b.2 a.2 = true) :
    preferred (preferred best? a) b = preferred (preferred best? b) a := by
  have hba : ¬isPreferred a.2 b.2 = true := by
    rw [isPreferred_iff] at *
    omega
  cases best? with
  | none => simp [preferred, h, hba]
  | some x =>
      by_cases ha : isPreferred a.2 x.2 = true
      · have hb : isPreferred b.2 x.2 = true := by
          rw [isPreferred_iff] at *
          omega
        simp [preferred, h, hba, ha, hb]
      · by_cases hb : isPreferred b.2 x.2 = true
        · simp [preferred, hba, ha, hb]
        · simp [preferred, ha, hb]

lemma foldl_preferred_middle (best? : Option (Nat × Token)) {before after : List (Nat × Token)}
    {a : Nat × Token} (h : ∀ b ∈ before, isPreferred b.2 a.2 = true) :
    (before ++ a :: after).foldl preferred best?
      = (a :: (before ++ after)).foldl preferred best? := by
  induction before generalizing best? with
  | nil => rfl
  | cons b before ih =>
      obtain ⟨hb, hbefore⟩ := List.forall_mem_cons.mp h
      rw [List.cons_append, List.foldl_cons, ih _ hbefore, List.cons_append, List.foldl_cons,
        List.foldl_cons, List.foldl_cons, preferred_comm best? hb]

/-- Of two calls of one phrase that which must come first is the more similar. -/
lemma isPreferred_of_not_ranksBefore {text : String} {c d : TextCommand}
    (h : (Names.methodToken text c).ranksBefore (Names.methodToken text d) = false) :
    isPreferred (Names.methodToken text d) (Names.methodToken text c) = true := by
  have hposition : (Names.methodSimilarity text c).position
      < (Names.methodSimilarity text d).position := by
    have hnot := mt Token.ranksBefore_iff.mpr (Bool.not_eq_true _ ▸ h)
    simp only [Names.methodToken] at hnot
    omega
  exact isPreferred_iff.mpr
    (.inl (Score.lt_of_position_lt (Score.greatest_ne_negativeZero _) hposition))

/-- **The ranking of the calls of a phrase has no part in the search**: it keeps the order of those
that are equally similar. -/
lemma foldl_preferred_mergeSort (best? : Option (Nat × Token)) (place : Nat) (text : String)
    (commands : List TextCommand) :
    (((commands.map (Names.methodToken text)).mergeSort Token.ranksBefore).map
        fun t => (place, t)).foldl preferred best?
      = ((commands.map (Names.methodToken text)).map
          fun t => (place, t)).foldl preferred best? := by
  induction commands generalizing best? with
  | nil => simp
  | cons c commands ih =>
      obtain ⟨before, after, hcons, hrest, hbefore⟩ :=
        List.mergeSort_cons Token.ranksBefore_trans Token.ranksBefore_total
          (Names.methodToken text c) (commands.map (Names.methodToken text))
      have hbetter : ∀ t ∈ before, isPreferred t (Names.methodToken text c) = true := by
        intro t ht
        have hsorted : t ∈ (commands.map (Names.methodToken text)).mergeSort Token.ranksBefore := by
          rw [hrest]
          exact List.mem_append_left _ ht
        obtain ⟨d, -, rfl⟩ := List.mem_map.mp (List.mem_mergeSort.mp hsorted)
        exact isPreferred_of_not_ranksBefore (by simpa using hbefore _ ht)
      rw [List.map_cons, hcons, List.map_append, List.map_cons,
        foldl_preferred_middle best? (by simpa using hbetter), List.foldl_cons, ← List.map_append,
        ← hrest, ih]
      rfl

/-! ### The primary token -/

variable {thresholds : Thresholds Float32} {state : State} {s : Sentence}

/-- Each phrase has the tokens of the commands that its text calls, ranked, and calls no others. -/
def ListsMethods (thresholds : Thresholds Float32) (state : State) (s : Sentence) : Prop :=
  ∀ p ∈ s, p.tokens.filter isMethod
    = (Names.methods thresholds state p.text).mergeSort Token.ranksBefore

/-- The calls that are similar enough, in order. -/
def closeCalls (bar : Float32) (texts : List String) (commands : List TextCommand) : List Call :=
  (calls texts commands).filter fun a => a.score.reaches bar

/-- The tokens of the close calls of one phrase. -/
lemma map_entry_filter (bar : Float32) (text : String) (place : Nat)
    (commands : List TextCommand) :
    ((commands.zipIdx.map fun (command, number) => Call.mk place text number command).filter
        fun a => a.score.reaches bar).map Call.entry
      = ((commands.filter fun c => (Names.methodSimilarity text c).reaches bar).map
          (Names.methodToken text)).map fun t => (place, t) := by
  conv_rhs => rw [← List.zipIdx_map_fst (i := 0) commands]
  simp only [List.filter_map, List.map_map]
  rfl

/-- **The primary token is found among the close calls in order.** -/
lemma primary?_eq_foldl (h : ListsMethods thresholds state s) :
    primary? s = ((closeCalls thresholds.method (s.map Phrase.text) state.commands).map
      Call.entry).foldl preferred none := by
  have hphrase (best? : Option (Nat × Token)) (entry : Phrase × Nat) (hentry : entry ∈ s.zipIdx) :
      ((entry.1.tokens.filter isMethod).map fun t => (entry.2, t)).foldl preferred best?
        = (((state.commands.zipIdx.map fun (command, number) =>
            Call.mk entry.2 entry.1.text number command).filter
              fun a => a.score.reaches thresholds.method).map
                Call.entry).foldl preferred best? := by
    rw [h _ (List.fst_mem_of_mem_zipIdx hentry), Names.methods_eq_map, foldl_preferred_mergeSort,
      map_entry_filter]
    rfl
  rw [primary?, methodTokens, List.foldl_flatMap, closeCalls, calls, List.zipIdx_map,
    List.flatMap_map, List.filter_flatMap, List.map_flatMap, List.foldl_flatMap]
  exact List.foldl_ext _ _ _ hphrase

/-- No token is primary if no call is close. -/
lemma primary?_eq_none_iff (h : ListsMethods thresholds state s) :
    primary? s = none ↔ ∀ a : Call, a.IsAmong (s.map Phrase.text) state.commands →
      a.score.reaches thresholds.method = false := by
  rw [primary?_eq_foldl h, foldl_preferred_eq_none_iff, List.map_eq_nil_iff, closeCalls,
    List.filter_eq_nil_iff]
  simp only [mem_calls, Bool.not_eq_true]

/-- The primary token is that of a close call which is better than all others. -/
lemma exists_call_of_primary? {entry : Nat × Token} (h : ListsMethods thresholds state s)
    (hentry : primary? s = some entry) :
    ∃ a : Call, a.IsAmong (s.map Phrase.text) state.commands
      ∧ a.score.reaches thresholds.method = true ∧ entry = a.entry
      ∧ ∀ b : Call, b.IsAmong (s.map Phrase.text) state.commands → b ≠ a → a.Outranks b := by
  rw [primary?_eq_foldl h, closeCalls] at hentry
  obtain ⟨a, ha, rfl, hbest⟩ :=
    exists_of_foldl_map ((pairwise_calls _ _).filter _) hentry
  obtain ⟨hamong, hreaches⟩ := List.mem_filter.mp ha
  refine ⟨a, mem_calls.mp hamong, hreaches, rfl, fun b hb hne => ?_⟩
  by_cases hbar : b.score.reaches thresholds.method = true
  · rcases hbest b (List.mem_filter.mpr ⟨mem_calls.mpr hb, hbar⟩) hne with hpreferred | htie
    · exact Call.outranks_of_isPreferred hpreferred
    · exact Call.outranks_of_precedes htie.1 htie.2
  · exact .inl (Score.not_le.mp fun hle => hbar (Score.reaches_mono hle hreaches))

end Commands

end ChatCommand
