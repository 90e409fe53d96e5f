/-
How similar a reading is at least.

* `Source`: what a reading comes from: a word of the vocabulary or a name that the state holds;
* `Source.Gives`: the readings that a span has from each;
* `Source.minimum`: how similar a span has to be for them;
* `Source.Gives.variant_eq_and_reaches`: what is given reaches the minimum of its source;
* `Sentence.reaches_minimum_of_mem_history`: **on the whole way through the stages every reading
  comes from the vocabulary or the state, and reaches the minimum of whatever gives it**.
-/
import ChatCommand.Proofs.Recognition.Readings
import ChatCommand.Proofs.Sentence.Confidence
import ChatCommand.Proofs.Sentence.Readings

namespace ChatCommand

/-! ### Sources -/

/-- What a reading comes from. -/
inductive Source where
  /-- A word or an expression of the vocabulary that stands for something of this variant. -/
  | word (variant : TokenVariant)
  | player (p : Player)
  | map (m : Map)
  | country (name : String)
  /-- All items of similar names together. -/
  | items
  | command (c : TextCommand)

/-- How similar, in percent, a span has to be to a word of the vocabulary. -/
def TokenVariant.wordMinimum : TokenVariant → Nat
  | dateTime | timeUnit _ | meridiem _ => 75
  | thing _ | numericProperty _ | selfReflection => 70
  | _ => 80

namespace Source

def variant : Source → TokenVariant
  | word variant => variant
  | player _ => .thing .player
  | map _ => .thing .map
  | country _ => .thing .location
  | items => .thing .item
  | command _ => .method

/-- The source gives a span this reading. -/
def Gives (catalog : Catalog) (thresholds : Thresholds Float32) (state : State) (text : String)
    (t : Token) : Source → Prop
  | word variant => t.variant = variant ∧ variant ≠ .method
      ∧ ∃ family, ∃ hit ∈ catalog.hits family text, family.reading hit state = some t
  | player p => p ∈ state.players ∧ Names.player? thresholds state text p = some t
  | map m => m ∈ state.maps ∧ Names.map? thresholds text m = some t
  | country name => name ∈ state.countries ∧ Names.location? thresholds text name = some t
  | items => Names.items thresholds state text = some t
  | command c => c ∈ state.commands ∧ Names.method? thresholds text c = some t

/-- How similar a span has to be. -/
def minimum (thresholds : Thresholds Float32) (state : State) : Source → Float32
  | word variant => Float32.ofNat variant.wordMinimum
  | player p => thresholds.playerBar p.nameLength state.longestName
  | map _ => thresholds.map
  | country _ => thresholds.country
  | items => thresholds.item
  | command _ => thresholds.method

end Source

variable {catalog : Catalog} {thresholds : Thresholds Float32} {state : State} {text : String}

/-! ### Words -/

/-- A span that an expression covers is similar enough for any family. -/
lemma Family.hundred_reaches (family : Family) :
    Score.hundred.reaches (Float32.ofNat family.minimum) = true := by
  cases family <;> decide +kernel

/-- What matches a span of a family reaches the minimum of the family. -/
lemma Catalog.reaches_of_mem_hits {family : Family} {hit : Hit}
    (h : hit ∈ catalog.hits family text) :
    hit.similarity.reaches (Float32.ofNat family.minimum) = true := by
  obtain ⟨e, -, he⟩ := List.mem_filterMap.mp h
  unfold Entry.hit? at he
  split at he
  · simp only [Option.ite_none_right_eq_some, Option.some.injEq] at he
    obtain ⟨-, hreaches, rfl⟩ := he
    exact hreaches
  · obtain ⟨m, -, rfl⟩ := Option.map_eq_some_iff.mp he
    exact family.hundred_reaches
  · contradiction

/-- A constant is read with the similarity of its hit. -/
lemma Reading.exists_of_constant {α : Type} [Named α] {variant : α → TokenVariant} {hit : Hit}
    (state : State) {t : Token} (h : constant variant hit state = some t) :
    ∃ a, t = hit.token (variant a) := by
  simp only [constant, Option.bind_eq_bind, Option.bind_eq_some_iff, Option.some.injEq] at h
  obtain ⟨-, -, a, -, rfl⟩ := h
  exact ⟨a, rfl⟩

/-- A word is read with the similarity of its hit, as something with the minimum of its family. -/
lemma Family.similarity_and_minimum_of_reading {family : Family} {hit : Hit} {t : Token}
    (h : family.reading hit state = some t) :
    t.similarity = hit.similarity ∧ t.variant.wordMinimum = family.minimum := by
  cases family
  case numeric =>
    obtain ⟨x, -, rfl⟩ := Option.map_eq_some_iff.mp h
    exact ⟨rfl, rfl⟩
  case quotedText =>
    obtain ⟨captured, -, rfl⟩ := Option.map_eq_some_iff.mp h
    exact ⟨rfl, rfl⟩
  case dateTime =>
    obtain ⟨p, -, rfl⟩ := Option.map_eq_some_iff.mp h
    exact ⟨rfl, rfl⟩
  case thing =>
    simp only [reading, Reading.group, Option.bind_eq_bind, Option.bind_eq_some_iff,
      Option.some.injEq] at h
    obtain ⟨-, -, kind, -, rfl⟩ := h
    exact ⟨rfl, rfl⟩
  case selfReflection =>
    obtain rfl := Option.some.inj h
    exact ⟨rfl, rfl⟩
  all_goals
    obtain ⟨a, rfl⟩ := Reading.exists_of_constant state h
    exact ⟨rfl, rfl⟩

/-! ### Names -/

/-- The best of the similar items is similar enough. -/
lemma Names.variant_eq_and_reaches_of_items {t : Token}
    (h : items thresholds state text = some t) :
    t.variant = .thing .item ∧ t.similarity.reaches thresholds.item = true := by
  simp only [items, Option.ite_none_left_eq_some, Option.some.injEq] at h
  obtain ⟨hfound, rfl⟩ := h
  obtain ⟨i, hi⟩ := List.exists_mem_of_ne_nil _ (mt List.isEmpty_iff.mpr hfound)
  have hreaches : (itemSimilarity text i).reaches thresholds.item = true :=
    (List.mem_filter.mp hi).2
  exact ⟨rfl, Score.reaches_mono (Score.le_greatest (List.mem_map_of_mem hi)) hreaches⟩

/-! ### What is given -/

namespace Source

variable {t : Token} {source : Source}

/-- **A reading is of the variant of whatever gives it, and reaches its minimum.** -/
theorem Gives.variant_eq_and_reaches (h : source.Gives catalog thresholds state text t) :
    t.variant = source.variant
      ∧ t.similarity.reaches (source.minimum thresholds state) = true := by
  cases source with
  | word _ =>
      obtain ⟨rfl, -, family, hit, hhit, hreading⟩ := h
      obtain ⟨hsimilarity, hminimum⟩ := Family.similarity_and_minimum_of_reading hreading
      rw [minimum, hsimilarity, hminimum]
      exact ⟨rfl, Catalog.reaches_of_mem_hits hhit⟩
  | player _ =>
      simp only [Gives, Names.player?, Option.ite_none_right_eq_some, Option.some.injEq] at h
      obtain ⟨-, hreached, rfl⟩ := h
      exact ⟨rfl, hreached⟩
  | map _ =>
      simp only [Gives, Names.map?, Option.ite_none_right_eq_some, Option.some.injEq] at h
      obtain ⟨-, hreached, rfl⟩ := h
      exact ⟨rfl, hreached⟩
  | country _ =>
      simp only [Gives, Names.location?, Option.ite_none_right_eq_some, Option.some.injEq] at h
      obtain ⟨-, hreached, rfl⟩ := h
      exact ⟨rfl, hreached⟩
  | items => exact Names.variant_eq_and_reaches_of_items h
  | command _ =>
      simp only [Gives, Names.method?, Option.ite_none_right_eq_some, Option.some.injEq] at h
      obtain ⟨-, hreached, rfl⟩ := h
      exact ⟨rfl, hreached⟩

end Source

/-! ### Sentences -/

/-- Names are given by the state. -/
lemma Names.exists_source_of_mem_recognizer {stage : Stage} {t : Token}
    (h : t ∈ recognizer thresholds state stage text) :
    ∃ source : Source, source.Gives catalog thresholds state text t := by
  unfold recognizer at h
  split at h
  · simp only [List.mem_append, players, maps, countries, methods, List.mem_filterMap,
      Option.mem_toList] at h
    rcases h with (((⟨p, h⟩ | ⟨m, h⟩) | ⟨name, h⟩) | h) | ⟨c, h⟩
    exacts [⟨.player p, h⟩, ⟨.map m, h⟩, ⟨.country name, h⟩, ⟨.items, h⟩, ⟨.command c, h⟩]
  · contradiction

/-- Every reading of a span comes from the vocabulary or the state. -/
lemma Parser.exists_source_of_mem_tokensFor {config : Config} {stage : Stage} {t : Token}
    (h : t ∈ (context ⟨catalog, .standard, config⟩ state).tokensFor stage text) :
    ∃ source : Source, source.Gives catalog config.thresholds state text t := by
  rcases List.mem_append.mp h with h | h
  · obtain ⟨family, -, h⟩ := List.mem_flatMap.mp h
    obtain ⟨hit, hhit, h⟩ := List.mem_filterMap.mp h
    exact ⟨.word t.variant, rfl, (Family.isRead_of_reading h).variant_ne_method, family, hit,
      hhit, h⟩
  · obtain ⟨recognize, hrecognize, h⟩ := List.mem_flatMap.mp h
    obtain rfl := List.mem_singleton.mp hrecognize
    exact Names.exists_source_of_mem_recognizer h

/-- What stages make of a text holds what some stage reads it as, and what it held before. -/
lemma Context.mem_or_exists_of_mem_foldl_readPhrase {ctx : Context} {stages : List Stage}
    {p : Phrase} {t : Token} (h : t ∈ (stages.foldl ctx.readPhrase p).tokens) :
    t ∈ p.tokens ∨ ∃ stage ∈ stages, t ∈ ctx.tokensFor stage p.text := by
  induction stages generalizing p with
  | nil => exact .inl h
  | cons stage stages ih =>
      rcases ih h with h | ⟨later, hlater, h⟩
      · rcases Phrase.mem_of_mem_extend h with h | h
        · exact .inl h
        · exact .inr ⟨stage, List.mem_cons_self, h⟩
      · exact .inr ⟨later, List.mem_cons_of_mem _ hlater, h⟩

/-- **No weak reading is kept.** On the whole way through the stages, from the words on and after
each merge, a reading is given to its span by a word of the vocabulary or a name that the state
holds, and whatever gives it, it is of the variant of that and reaches its minimum. -/
theorem Sentence.reaches_minimum_of_mem_history (catalog : Catalog) (config : Config)
    (state : State) (words : List String) {passage : Passage}
    (hpassage : passage ∈
      (ofWords words).history (Parser.context ⟨catalog, .standard, config⟩ state))
    {s : Sentence} (hs : s ∈ passage.sentences) {p : Phrase} (hp : p ∈ s) {t : Token}
    (ht : t ∈ p.tokens) :
    (∃ source : Source, source.Gives catalog config.thresholds state p.text t)
      ∧ ∀ source : Source, source.Gives catalog config.thresholds state p.text t →
          t.variant = source.variant
            ∧ t.similarity.reaches (source.minimum config.thresholds state) = true := by
  refine ⟨?_, fun source h => h.variant_eq_and_reaches⟩
  rw [isReadBy_of_mem_history words passage hpassage s hs p hp] at ht
  rcases Context.mem_or_exists_of_mem_foldl_readPhrase ht with h | ⟨stage, -, h⟩
  · contradiction
  · exact Parser.exists_source_of_mem_tokensFor h

/-- The name of the only player, whatever the case of its letters. -/
theorem Sentence.reaches_minimum_of_name :
    let state : State := { players := [{ uid := "", name := "Phogue" }], now := ⟨0⟩ }
    let ctx := Parser.context ⟨.empty, .standard, {}⟩ state
    let readings := (ctx.tokenizeText .reduction "phogue").tokens
    readings.map Token.variant = [.thing .player]
      ∧ ∀ t ∈ readings, ∃ source : Source, source.Gives .empty .standard state "phogue" t
        ∧ t.variant = source.variant
        ∧ t.similarity.reaches (source.minimum .standard state) = true := by
  intro state ctx readings
  obtain ⟨last, hlast, hend, -⟩ := exists_getLast?_history ctx (ofWords ["phogue"])
  rw [readStages_ofWords_singleton] at hend
  refine ⟨by decide +kernel, fun t ht => ?_⟩
  obtain ⟨⟨source, hgives⟩, hall⟩ := reaches_minimum_of_mem_history .empty {} state ["phogue"]
    (List.mem_of_getLast? hlast) (List.mem_of_getLast? hend) (List.mem_singleton_self _) ht
  exact ⟨source, hgives, hall source hgives⟩

end ChatCommand
