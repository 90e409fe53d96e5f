/-
Spans that are the name of a player.

* `SameUpToCase`, `SameUpToNumber`: texts that differ in case, and in a plural ending;
* `Names.playerSimilarity_eq_hundred`: a span that is the name of a player, with clan tags or
  without, is a hundred percent similar;
* `Names.IsOpenTo`: a hundred percent is enough for the bar of a player;
* `Phrase.filter_best?_extend`: of the readings of a span the first of a hundred percent is
  preferred;
* `Names.prefers_iff`: **a span that is the name of a player is read as this player exactly if a
  hundred percent is enough for him and no player before him is read so**.
-/
import ChatCommand.Proofs.Phrase.Ranking
import ChatCommand.Recognition.Names

namespace ChatCommand

/-! ### A hundred percent -/

namespace Score

/-- No other score equals a hundred. -/
lemma eq_hundred_of_le {s : Score} (h : hundred ≤ s) : s = hundred := by
  obtain ⟨bits, hrange⟩ := s
  have hbits : hundredBits ≤ magnitude ⟨bits, hrange⟩ := h
  rw [magnitude] at hbits
  split at hbits
  · contradiction
  · obtain rfl : bits = hundredBits := by
      rcases hrange with hle | hzero
      · exact Nat.le_antisymm hle hbits
      · contradiction
    rfl

/-- A hundred comes last in the total order too. -/
lemma position_le_hundred (s : Score) : s.position ≤ hundred.position := by
  obtain ⟨bits, hrange⟩ := s
  have hhundred : hundred.position = hundredBits + 1 := by decide
  rw [position, hhundred]
  split
  · exact Nat.zero_le _
  · next hbits => exact Nat.succ_le_succ (hrange.resolve_right hbits)

lemma eq_hundred_of_position_le {s : Score} (h : hundred.position ≤ s.position) : s = hundred := by
  obtain ⟨bits, hrange⟩ := s
  have hposition : hundredBits + 1 ≤ position ⟨bits, hrange⟩ := h
  rw [position] at hposition
  split at hposition
  · contradiction
  · next hbits =>
    obtain rfl : bits = hundredBits :=
      Nat.le_antisymm (hrange.resolve_right hbits) (Nat.le_of_succ_le_succ hposition)
    rfl

lemma max_hundred_left (s : Score) : max hundred s = hundred :=
  if_neg (Nat.not_lt.mpr s.le_hundred)

lemma max_hundred_right (s : Score) : max s hundred = hundred := by
  by_cases h : s < hundred
  · exact if_pos h
  · rw [eq_hundred_of_le (Nat.not_lt.mp h), max_hundred_left]

end Score

/-! ### Texts that are the same -/

/-- Two texts are the same up to case. -/
def SameUpToCase (a b : String) : Prop := Text.lowercase a = Text.lowercase b

/-- Two texts are the same up to case, or their singulars are. -/
def SameUpToNumber (a b : String) : Prop :=
  SameUpToCase a b ∨ SameUpToCase (singular a) (singular b)

lemma similarity_eq_hundred {a b : String} (h : SameUpToCase a b) :
    (similarity a b : Score) = .hundred := by
  have hchars : Text.lowercaseChars a.toList = Text.lowercaseChars b.toList :=
    String.ofList_injective h
  exact if_pos hchars

lemma singularSimilarity_eq_hundred {a b : String} (h : SameUpToNumber a b) :
    (singularSimilarity a b : Score) = .hundred := by
  by_cases hfull : Score.hundred ≤ similarity a b
  · have hisFull : Scale.isFull (similarity a b : Score) = true := decide_eq_true hfull
    exact (if_pos hisFull).trans (Score.eq_hundred_of_le hfull)
  · have hisFull : ¬Scale.isFull (similarity a b : Score) = true := by
      rwa [Bool.not_eq_true, show Scale.isFull (similarity a b : Score) = decide _ from rfl,
        decide_eq_false_iff_not]
    have hdiffer : ¬SameUpToCase a b := fun hsame => by
      rw [similarity_eq_hundred hsame] at hfull
      exact hfull (Nat.le_refl _)
    refine (if_neg hisFull).trans ?_
    rw [similarity_eq_hundred (h.resolve_left hdiffer), Score.max_hundred_right]

/-! ### Readings of one span -/

/-- Of readings that mean different things the first of a hundred percent is preferred, if there is
one. -/
lemma Phrase.filter_best?_extend {text : String} {new : List Token}
    (hdistinct : new.Pairwise fun a b => a.isEquivalent b = false)
    (htext : ∀ t ∈ new, t.text = text) :
    (extend { text } new).best?.filter (fun t => t.similarity = .hundred)
      = new.find? fun t => t.similarity = .hundred := by
  rw [best?, tokens_extend_of_distinct hdistinct]
  refine filter_head?_mergeSort Token.ranksBefore_trans Token.ranksBefore_total ?_
  intro t ht hfull u hu
  rw [decide_eq_true_eq] at hfull
  -- the spans are of one length, so the similarity decides
  rw [Bool.eq_iff_iff, Token.ranksBefore_iff, htext t ht, htext u hu, hfull, decide_eq_true_eq]
  have hle := u.similarity.position_le_hundred
  constructor
  · intro h
    exact Score.eq_hundred_of_position_le (by omega)
  · intro h
    exact .inr ⟨by rw [h], Nat.le_refl _⟩

namespace Names

variable {α : Type} [Bar α] {thresholds : Thresholds α} {state : State} {text : String}
  {p q : Player}

/-! ### Readings as players -/

lemma player?_eq_some_iff {t : Token} :
    player? thresholds state text p = some t ↔
      Bar.reachedBy (thresholds.playerBar p.nameLength state.longestName) (playerSimilarity text p)
          = true
        ∧ t = { text, name := some p.name, variant := .thing .player, value := some (.players [p])
                similarity := playerSimilarity text p } := by
  rw [player?, Option.ite_none_right_eq_some, Option.some.injEq, eq_comm (a := t)]

lemma pairwise_name_ne {players : List Player}
    (h : players.Pairwise fun a b => ¬SameUpToCase a.name b.name) :
    players.Pairwise fun a b => a.name ≠ b.name :=
  h.imp fun hdiffer hsame => hdiffer (congrArg Text.lowercase hsame)

/-- Players with different names are different readings. -/
lemma pairwise_players (hnames : state.players.Pairwise fun a b => a.name ≠ b.name) :
    (players thresholds state text).Pairwise fun a b => a.isEquivalent b = false := by
  refine hnames.filterMap _ fun a b hne t ht u hu => ?_
  obtain ⟨-, rfl⟩ := player?_eq_some_iff.mp ht
  obtain ⟨-, rfl⟩ := player?_eq_some_iff.mp hu
  simp [Token.isEquivalent, hne]

lemma text_of_mem_players {t : Token} (ht : t ∈ players thresholds state text) : t.text = text := by
  obtain ⟨p, -, hp⟩ := List.mem_filterMap.mp ht
  obtain ⟨-, rfl⟩ := player?_eq_some_iff.mp hp
  rfl

/-- A span that is the name of a player is a hundred percent similar, with clan tags or without. -/
lemma playerSimilarity_eq_hundred
    (h : SameUpToNumber text p.name
      ∨ p.strippedName ≠ "" ∧ SameUpToNumber text p.strippedName) :
    playerSimilarity text p = .hundred := by
  rcases h with hname | ⟨hknown, hstripped⟩
  · rw [playerSimilarity, singularSimilarity_eq_hundred hname, Score.max_hundred_left]
  · have hnonempty : ¬p.strippedName.isEmpty = true := by rwa [String.isEmpty_iff]
    rw [playerSimilarity, if_neg hnonempty, singularSimilarity_eq_hundred hstripped,
      Score.max_hundred_right]

/-- A hundred percent is enough for the bar of the player. -/
def IsOpenTo (thresholds : Thresholds α) (state : State) (p : Player) : Prop :=
  Bar.reachedBy (thresholds.playerBar p.nameLength state.longestName) .hundred = true

instance (thresholds : Thresholds α) (state : State) : DecidablePred (IsOpenTo thresholds state) :=
  fun _ => inferInstanceAs (Decidable (_ = true))

/-- The preferred reading of the span is this player alone, at a hundred percent. -/
def Prefers (thresholds : Thresholds α) (state : State) (text : String) (p : Player) : Prop :=
  ∃ t, (Phrase.extend { text } (players thresholds state text)).best? = some t
    ∧ t.similarity = .hundred ∧ t.value = some (.players [p])

/-- The player is a reading of the span at a hundred percent. -/
def IsFull (thresholds : Thresholds α) (state : State) (text : String) (p : Player) : Prop :=
  playerSimilarity text p = .hundred ∧ IsOpenTo thresholds state p

instance (thresholds : Thresholds α) (state : State) (text : String) :
    DecidablePred (IsFull thresholds state text) :=
  fun _ => inferInstanceAs (Decidable (_ ∧ _))

lemma any_player? :
    (player? thresholds state text p).any (fun t => t.similarity = .hundred)
      = decide (IsFull thresholds state text p) := by
  rw [Bool.eq_iff_iff, decide_eq_true_eq, Option.any_eq_true]
  constructor
  · rintro ⟨t, ht, hfull⟩
    obtain ⟨hreached, rfl⟩ := player?_eq_some_iff.mp ht
    have hsimilar : playerSimilarity text p = .hundred := of_decide_eq_true hfull
    rw [hsimilar] at hreached
    exact ⟨hsimilar, hreached⟩
  · rintro ⟨hsimilar, hopen⟩
    exact ⟨_, player?_eq_some_iff.mpr ⟨by rwa [hsimilar], rfl⟩, decide_eq_true hsimilar⟩

/-! ### The preferred reading -/

/-- The preferred reading at a hundred percent is the first player who is one. -/
lemma prefers_iff_find? (hnames : state.players.Pairwise fun a b => a.name ≠ b.name) :
    Prefers thresholds state text p ↔
      state.players.find? (IsFull thresholds state text ·) = some p := by
  have hdistinct : (players thresholds state text).Pairwise fun a b => a.isEquivalent b = false :=
    pairwise_players hnames
  have hbest := Phrase.filter_best?_extend hdistinct fun t => text_of_mem_players
  rw [players, List.find?_filterMap, funext fun _ => any_player?, ← players] at hbest
  constructor
  · rintro ⟨t, ht, hfull, hvalue⟩
    rw [ht, Option.filter_some, if_pos (decide_eq_true hfull), eq_comm,
      Option.bind_eq_some_iff] at hbest
    obtain ⟨q, hq, hqt⟩ := hbest
    obtain ⟨-, rfl⟩ := player?_eq_some_iff.mp hqt
    obtain rfl : q = p := by simpa using hvalue
    exact hq
  · intro hp
    obtain ⟨hsimilar, hopen⟩ : IsFull thresholds state text p := by
      simpa using List.find?_some hp
    have hread : player? thresholds state text p = some _ :=
      player?_eq_some_iff.mpr ⟨by rwa [hsimilar], rfl⟩
    rw [hp, Option.bind_some, hread, Option.filter_eq_some_iff] at hbest
    exact ⟨_, hbest.1, hsimilar, rfl⟩

/-- **A span that is the name of a player is read as this player exactly if a hundred percent is
enough for him and no player before him is read so**. -/
theorem prefers_iff {before after : List Player} (hstate : state.players = before ++ p :: after)
    (hnames : state.players.Pairwise fun a b => ¬SameUpToCase a.name b.name)
    (htext : SameUpToCase text p.name) :
    Prefers thresholds state text p ↔
      IsOpenTo thresholds state p ∧ ∀ q ∈ before, ¬IsFull thresholds state text q := by
  have hdistinct := pairwise_name_ne hnames
  have hsimilar : playerSimilarity text p = .hundred :=
    playerSimilarity_eq_hundred (.inl (.inl htext))
  rw [prefers_iff_find? hdistinct, hstate]
  rw [hstate, List.pairwise_append] at hdistinct
  constructor
  · intro hfind
    have hfull : IsFull thresholds state text p := by simpa using List.find?_some hfind
    refine ⟨hfull.2, fun q hq hfull => ?_⟩
    rw [List.find?_append, Option.or_eq_some_iff] at hfind
    rcases hfind with hearlier | ⟨hnone, -⟩
    · exact hdistinct.2.2 p (List.mem_of_find?_eq_some hearlier) p List.mem_cons_self rfl
    · exact List.find?_eq_none.mp hnone q hq (decide_eq_true hfull)
  · rintro ⟨hopen, hbefore⟩
    have hnone := List.find?_eq_none.mpr fun q hq hany => hbefore q hq (of_decide_eq_true hany)
    have hfull : IsFull thresholds state text p := ⟨hsimilar, hopen⟩
    rw [List.find?_append, hnone, Option.none_or, List.find?_cons, decide_eq_true hfull]

/-! ### Namesakes -/

/-- A player with a clan tag. -/
def tagged : Player := { uid := "1", name := "[X]Bob", strippedName := "Bob" }

/-- A player whose name is that of the other without the tag. -/
def untagged : Player := { uid := "2", name := "Bob" }

lemma sameUpToCase_untagged : SameUpToCase "bob" untagged.name := by
  rw [SameUpToCase]
  decide

lemma not_sameUpToCase_tagged : ¬SameUpToCase tagged.name untagged.name := by
  rw [SameUpToCase]
  decide

/-- The untagged player is preferred where he comes first. -/
theorem prefers_untagged :
    Prefers (.standard : Thresholds Float32) { players := [untagged, tagged], now := ⟨0⟩ } "bob"
      untagged := by
  have hnames : [untagged, tagged].Pairwise fun a b => ¬SameUpToCase a.name b.name :=
    List.pairwise_pair.mpr fun h => not_sameUpToCase_tagged h.symm
  have hsplit : [untagged, tagged] = [] ++ untagged :: [tagged] := rfl
  refine (prefers_iff hsplit hnames sameUpToCase_untagged).mpr ⟨by decide, fun q hq => ?_⟩
  contradiction

/-- Where he comes second the tagged player is preferred, though the span is the name of the
other. -/
theorem not_prefers_untagged :
    let state : State := { players := [tagged, untagged], now := ⟨0⟩ }
    let thresholds : Thresholds Float32 := .standard
    (state.players.Pairwise fun a b => ¬SameUpToCase a.name b.name)
      ∧ SameUpToCase "bob" untagged.name ∧ IsOpenTo thresholds state untagged
      ∧ Prefers thresholds state "bob" tagged ∧ ¬Prefers thresholds state "bob" untagged := by
  intro state thresholds
  have hnames : state.players.Pairwise fun a b => ¬SameUpToCase a.name b.name :=
    List.pairwise_pair.mpr not_sameUpToCase_tagged
  have hdistinct := pairwise_name_ne hnames
  have hfull : IsFull thresholds state "bob" tagged :=
    ⟨playerSimilarity_eq_hundred (.inr ⟨by decide, .inl sameUpToCase_untagged⟩), by decide⟩
  have hfind : state.players.find? (IsFull thresholds state "bob" ·) = some tagged := by
    rw [List.find?_cons, decide_eq_true hfull]
  refine ⟨hnames, sameUpToCase_untagged, by decide, (prefers_iff_find? hdistinct).mpr hfind, ?_⟩
  rw [prefers_iff_find? hdistinct, hfind]
  decide

end Names

end ChatCommand
