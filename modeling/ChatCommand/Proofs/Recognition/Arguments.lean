/-
What a command is told.

Several tokens of a sentence may name the same player, and so may the speaker and a country. Whoever
is named first stays, and nobody is lost.

* `FirstOfEach`: of some things in order, the first with each key;
* `FirstOfEach.snoc_of_mem`, `FirstOfEach.snoc_of_notMem`: one more thing, whose key is there or not;
* `FirstOfEach.unionBy`: many more things;
* `FirstOfEach.unique`: there is only one such list;
* `Arguments`: players, maps, items, numbers and quotes, as a token mentions them and as a match has
  them;
* `Arguments.Collects.absorb`: one more token of the sentence;
* `CommandMatch.collects_assemble`: **a match has the first of all that is mentioned, every number
  and every quote, and nothing else of the sentence matters for these**.
-/
import Mathlib.Data.List.Induction
import Mathlib.Data.List.Nodup
import Mathlib.Data.List.Sort
import ChatCommand.Recognition.Match

namespace ChatCommand

/-! ### The first of each -/

/-- Of some things, given in order, the first with each key, in the order in which the keys first
occur. -/
structure FirstOfEach {α : Type} (key : α → String) (all firsts : List α) : Prop where
  distinct : (firsts.map key).Nodup
  keys : ∀ k, k ∈ firsts.map key ↔ k ∈ all.map key
  first : ∀ x ∈ firsts, all.find? (key · == key x) = some x
  ordered : firsts.Pairwise fun x y =>
    all.findIdx (key · == key x) < all.findIdx (key · == key y)

namespace FirstOfEach

variable {α : Type} {key : α → String} {all firsts firsts' : List α}

lemma nil (key : α → String) : FirstOfEach key [] [] :=
  ⟨.nil, fun _ => .rfl, by simp, .nil⟩

/-- A thing that is there is where its key first occurs. -/
lemma findIdx_lt (h : FirstOfEach key all firsts) {x : α} (hx : x ∈ firsts) :
    all.findIdx (key · == key x) < all.length :=
  List.findIdx_lt_length_of_exists ⟨x, List.mem_of_find?_eq_some (h.first x hx), beq_self_eq_true _⟩

lemma mem_iff (h : FirstOfEach key all firsts) {x : α} :
    x ∈ firsts ↔ all.find? (key · == key x) = some x := by
  refine ⟨h.first x, fun hx => ?_⟩
  obtain ⟨y, hy, hkey⟩ :=
    List.mem_map.mp ((h.keys _).mpr (List.mem_map_of_mem (List.mem_of_find?_eq_some hx)))
  have hfirst := h.first y hy
  rw [hkey, hx] at hfirst
  rwa [Option.some.inj hfirst]

/-- There is only one list of the first of each. -/
lemma unique (h : FirstOfEach key all firsts) (h' : FirstOfEach key all firsts') :
    firsts = firsts' := by
  have hperm : firsts.Perm firsts' :=
    (List.perm_ext_iff_of_nodup h.distinct.of_map h'.distinct.of_map).mpr fun x => by
      rw [h.mem_iff, h'.mem_iff]
  exact hperm.eq_of_pairwise (fun _ _ _ _ hxy hyx => absurd hxy (Nat.lt_asymm hyx)) h.ordered
    h'.ordered

/-! What comes behind leaves each thing the first with its key, in its place. -/

lemma find?_append (h : FirstOfEach key all firsts) {x : α} (hx : x ∈ firsts) (new : List α) :
    (all ++ new).find? (key · == key x) = some x := by
  rw [List.find?_append, h.first x hx, Option.some_or]

lemma findIdx_append (h : FirstOfEach key all firsts) {x : α} (hx : x ∈ firsts) (new : List α) :
    (all ++ new).findIdx (key · == key x) = all.findIdx (key · == key x) := by
  rw [List.findIdx_append, if_pos (h.findIdx_lt hx)]

lemma ordered_append (h : FirstOfEach key all firsts) (new : List α) :
    firsts.Pairwise fun x y =>
      (all ++ new).findIdx (key · == key x) < (all ++ new).findIdx (key · == key y) := by
  refine h.ordered.imp_of_mem fun hx hy hlt => ?_
  rwa [h.findIdx_append hx, h.findIdx_append hy]

/-- One more thing with a key that is there makes no difference. -/
lemma snoc_of_mem (h : FirstOfEach key all firsts) {x : α} (hx : key x ∈ firsts.map key) :
    FirstOfEach key (all ++ [x]) firsts := by
  refine ⟨h.distinct, fun k => ?_, fun y hy => h.find?_append hy [x], h.ordered_append [x]⟩
  have hold : k = key x → k ∈ all.map key := fun hk => hk ▸ (h.keys _).mp hx
  rw [h.keys, List.map_append, List.mem_append, List.map_singleton, List.mem_singleton,
    or_iff_left_of_imp hold]

/-- One more thing with another key comes behind the others. -/
lemma snoc_of_notMem (h : FirstOfEach key all firsts) {x : α} (hx : key x ∉ firsts.map key) :
    FirstOfEach key (all ++ [x]) (firsts ++ [x]) := by
  have hnone : ∀ y ∈ all, ¬ (key y == key x) = true := fun y hy hkey =>
    hx ((h.keys _).mpr (eq_of_beq hkey ▸ List.mem_map_of_mem hy))
  have hfind : (all ++ [x]).find? (key · == key x) = some x := by
    rw [List.find?_append, List.find?_eq_none.mpr hnone, Option.none_or]
    exact List.find?_cons_of_pos (beq_self_eq_true _)
  have hlast : (all ++ [x]).findIdx (key · == key x) = all.length := by
    have hlength := List.findIdx_eq_length.mpr fun y hy => Bool.eq_false_of_not_eq_true (hnone y hy)
    rw [List.findIdx_append, hlength, if_neg (Nat.lt_irrefl _)]
    simp
  refine ⟨?_, fun k => ?_, fun y hy => ?_, ?_⟩
  · rw [List.map_append, List.map_singleton]
    exact h.distinct.append (List.nodup_singleton _) (List.disjoint_singleton.mpr hx)
  · simp only [List.map_append, List.mem_append, h.keys]
  · rcases List.mem_append.mp hy with hy | hy
    · exact h.find?_append hy [x]
    · exact List.mem_singleton.mp hy ▸ hfind
  · refine List.pairwise_append.mpr
      ⟨h.ordered_append [x], List.pairwise_singleton _ _, fun y hy z hz => ?_⟩
    rw [List.mem_singleton.mp hz, h.findIdx_append hy, hlast]
    exact h.findIdx_lt hy

/-- One more thing comes behind the others unless there is one with its key. -/
lemma snoc (h : FirstOfEach key all firsts) (x : α) :
    FirstOfEach key (all ++ [x])
      (if firsts.any (key x == key ·) then firsts else firsts ++ [x]) := by
  have hany : firsts.any (key x == key ·) = true ↔ key x ∈ firsts.map key := by
    simp only [List.any_eq_true, List.mem_map, beq_iff_eq, @eq_comm _ (key x)]
  split
  · next hx => exact h.snoc_of_mem (hany.mp hx)
  · next hx => exact h.snoc_of_notMem (mt hany.mpr hx)

lemma unionBy (h : FirstOfEach key all firsts) (new : List α) :
    FirstOfEach key (all ++ new) (unionBy (fun x y => key x == key y) firsts new) := by
  induction new generalizing all firsts with
  | nil => rwa [List.append_nil]
  | cons x new ih =>
      rw [List.append_cons]
      exact ih (h.snoc x)

end FirstOfEach

/-! ### Arguments -/

/-- What a command may be told, beside times. -/
@[ext]
structure Arguments where
  players : List Player := []
  maps : List Map := []
  items : List Item := []
  numbers : List Float := []
  quotes : List String := []

/-- What a token mentions: the things that it lists, the speaker where it refers to him, for
countries the players who come from there, its number or its quote. -/
def Token.arguments (state : State) (t : Token) : Arguments :=
  match t.variant, t.value with
  | .thing .player, some (.players list) => { players := list }
  | .selfReflection, _ => { players := state.speaker.toList }
  | .thing .location, some (.locations countries) =>
    { players := CommandMatch.playersFrom state countries }
  | .thing .map, some (.maps list) => { maps := list }
  | .thing .item, some (.items list) => { items := list }
  | .number, some (.number x) => { numbers := [x] }
  | .quotedText, some (.text s) => { quotes := [s] }
  | _, _ => {}

def CommandMatch.arguments (m : CommandMatch) : Arguments where
  players := m.players
  maps := m.maps
  items := m.items
  numbers := m.numbers
  quotes := m.quotes

namespace Arguments

variable {state : State} {m : CommandMatch} {t : Token} {said kept kept' : Arguments}

/-- What some tokens mention, one after the other. -/
def ofTokens (state : State) (tokens : List Token) : Arguments where
  players := tokens.flatMap fun t => (t.arguments state).players
  maps := tokens.flatMap fun t => (t.arguments state).maps
  items := tokens.flatMap fun t => (t.arguments state).items
  numbers := tokens.flatMap fun t => (t.arguments state).numbers
  quotes := tokens.flatMap fun t => (t.arguments state).quotes

instance : Append Arguments where
  append a b :=
    { players := a.players ++ b.players, maps := a.maps ++ b.maps, items := a.items ++ b.items
      numbers := a.numbers ++ b.numbers, quotes := a.quotes ++ b.quotes }

lemma ofTokens_snoc (state : State) (tokens : List Token) (t : Token) :
    ofTokens state (tokens ++ [t]) = ofTokens state tokens ++ t.arguments state := by
  ext1 <;> exact (List.flatMap_append ..).trans (congrArg _ (List.flatMap_singleton ..))

/-- Of what has been said the first player with each number, the first map and item with each name,
and all numbers and quotes are kept. -/
structure Collects (said kept : Arguments) : Prop where
  players : FirstOfEach Player.uid said.players kept.players
  maps : FirstOfEach Map.name said.maps kept.maps
  items : FirstOfEach Item.name said.items kept.items
  numbers : kept.numbers = said.numbers
  quotes : kept.quotes = said.quotes

/-- What has been said tells what is kept. -/
lemma Collects.unique (h : said.Collects kept) (h' : said.Collects kept') : kept = kept' :=
  Arguments.ext (h.players.unique h'.players) (h.maps.unique h'.maps) (h.items.unique h'.items)
    (h.numbers.trans h'.numbers.symm) (h.quotes.trans h'.quotes.symm)

/-- A time adds nothing. -/
lemma arguments_addTime (m : CommandMatch) (now : Instant) (p : TimePattern) :
    (m.addTime now p).arguments = m.arguments := by
  unfold CommandMatch.addTime
  cases p.use <;> dsimp only <;> split <;> rfl

/-- One more token adds what it mentions. -/
lemma arguments_absorb (state : State) (m : CommandMatch) (t : Token) :
    (m.absorb state t).arguments
      = { players := unionBy samePlayer m.players (t.arguments state).players
          maps := unionBy sameMap m.maps (t.arguments state).maps
          items := unionBy sameItem m.items (t.arguments state).items
          numbers := m.numbers ++ (t.arguments state).numbers
          quotes := m.quotes ++ (t.arguments state).quotes } := by
  have hnothing : m.arguments =
      { players := m.players, maps := m.maps, items := m.items, numbers := m.numbers ++ []
        quotes := m.quotes ++ [] } := by
    rw [List.append_nil, List.append_nil]
    rfl
  unfold CommandMatch.absorb
  split
  case h_2 hvariant =>
      rw [Token.arguments, hvariant]
      simp only [List.append_nil]
      rfl
  case h_8 hvariant hvalue =>
      rw [arguments_addTime, hnothing, Token.arguments, hvariant, hvalue]
      rfl
  case h_9 =>
      have hempty : t.arguments state = {} := by
        unfold Token.arguments
        split <;> simp_all
      rw [hempty]
      exact hnothing
  all_goals
    next hvariant hvalue =>
      rw [Token.arguments, hvariant, hvalue]
      simp only [List.append_nil]
      rfl

lemma players_absorb : (m.absorb state t).players
    = unionBy samePlayer m.players (t.arguments state).players :=
  congrArg players (arguments_absorb state m t)

lemma maps_absorb : (m.absorb state t).maps = unionBy sameMap m.maps (t.arguments state).maps :=
  congrArg maps (arguments_absorb state m t)

lemma items_absorb : (m.absorb state t).items
    = unionBy sameItem m.items (t.arguments state).items :=
  congrArg items (arguments_absorb state m t)

lemma numbers_absorb : (m.absorb state t).numbers = m.numbers ++ (t.arguments state).numbers :=
  congrArg numbers (arguments_absorb state m t)

lemma quotes_absorb : (m.absorb state t).quotes = m.quotes ++ (t.arguments state).quotes :=
  congrArg quotes (arguments_absorb state m t)

/-- **One more token of the sentence is collected with the others.** -/
lemma Collects.absorb (h : said.Collects m.arguments) (t : Token) :
    (said ++ t.arguments state).Collects (m.absorb state t).arguments := by
  rw [arguments_absorb]
  exact ⟨h.players.unionBy _, h.maps.unionBy _, h.items.unionBy _,
    congrArg (· ++ _) h.numbers, congrArg (· ++ _) h.quotes⟩

end Arguments

namespace CommandMatch

open Arguments

/-- **A match has the first of all that is mentioned**: of the players, maps and items that the
preferred tokens of a sentence mention, the first with each number or name, in the order in which
they are first mentioned, and of numbers and quotes all. Where as much is mentioned, a match has
the same arguments, whatever else there is. -/
theorem collects_assemble (mark : String) (commands : List TextCommand) (s : Sentence)
    (state : State) :
    (ofTokens state (s.filterMap Phrase.best?)).Collects
        (assemble mark commands s state).arguments
      ∧ ∀ mark' commands' (s' : Sentence) state',
          ofTokens state' (s'.filterMap Phrase.best?) = ofTokens state (s.filterMap Phrase.best?) →
            (assemble mark' commands' s' state').arguments
              = (assemble mark commands s state).arguments := by
  have hcollects (mark : String) (commands : List TextCommand) (s : Sentence) (state : State) :
      (ofTokens state (s.filterMap Phrase.best?)).Collects
        (assemble mark commands s state).arguments := by
    unfold assemble
    generalize s.filterMap Phrase.best? = tokens
    -- The invariant of the fold: what has been absorbed so far is collected.
    induction tokens using List.reverseRecOn with
    | nil => exact ⟨.nil _, .nil _, .nil _, rfl, rfl⟩
    | append_singleton tokens t ih =>
        rw [ofTokens_snoc, List.foldl_append]
        exact ih.absorb t
  refine ⟨hcollects mark commands s state, fun mark' commands' s' state' hsame => ?_⟩
  have h' := hcollects mark' commands' s' state'
  rw [hsame] at h'
  exact h'.unique (hcollects mark commands s state)

/-- The speaker is from the country that is named behind him, and the player named last is given
with another ping than at first: there are two players, with what was known of them at first. A word
that nothing was recognized in makes no difference. -/
theorem exists_collects_assemble :
    ∃ (s s' : Sentence) (state : State), s'.length = s.length + 1
      ∧ (ofTokens state (s.filterMap Phrase.best?)).players.map (fun p => (p.uid, p.ping))
        = [("1", 45), ("1", 45), ("2", 120), ("2", 30)]
      ∧ FirstOfEach Player.uid (ofTokens state (s.filterMap Phrase.best?)).players
          (assemble "!" [] s state).players
      ∧ (assemble "!" [] s state).players.map (fun p => (p.uid, p.ping)) = [("1", 45), ("2", 120)]
      ∧ (assemble "/" [] s' state).arguments = (assemble "!" [] s state).arguments := by
  let phogue : Player := { uid := "1", name := "Phogue", ping := 45, countryName := "Australia" }
  let zaeed : Player := { uid := "2", name := "Zaeed", ping := 120, countryName := "Canada" }
  let state : State := { speaker := some phogue, players := [phogue, zaeed], now := ⟨0⟩ }
  let token (text : String) (variant : TokenVariant) (value : Option Value) : Phrase :=
    .ofToken text { text, variant, value, similarity := .hundred }
  let s : Sentence :=
    [ token "me" .selfReflection none,
      token "australia" (.thing .location) (some (.locations ["AUSTRALIA"])),
      token "zaeed" (.thing .player) (some (.players [zaeed])),
      token "zaeed" (.thing .player) (some (.players [{ zaeed with ping := 30 }])) ]
  obtain ⟨hcollects, hsame⟩ := collects_assemble "!" [] s state
  exact ⟨s, s ++ [{ text := "please" }], state, rfl, by decide +kernel, hcollects.players,
    by decide +kernel, hsame "/" [] _ state rfl⟩

end CommandMatch

end ChatCommand
