/-
What a match tells of the tokens it is assembled from.

* `exists_same_of_mem_unionBy`: a union has each element of the second list, or the same;
* `CommandMatch.Lists`: the match lists the things of a value;
* `CommandMatch.Tells`: the match lists all things of some tokens, has exactly their numbers and
  quotes in order, and for each use the first of their times that resolves;
* `CommandMatch.Lists.absorb`, `CommandMatch.Tells.absorb`: one more token keeps what is told, and
  is told if its value is what its variant promises;
* `CommandMatch.tells_assemble`: **a match tells all of a well typed sentence**.
-/
import Mathlib.Data.List.Induction
import ChatCommand.Proofs.Grammar.Typing
import ChatCommand.Proofs.Recognition.Arguments

namespace ChatCommand

variable {state : State}

/-! ### Unions -/

/-- Each element of the second list is in a union, unless the same is there already. -/
lemma exists_same_of_mem_unionBy {α : Type} {same : α → α → Bool} (hrefl : ∀ x, same x x = true)
    {a b : List α} {x : α} (h : x ∈ b) : ∃ y ∈ unionBy same a b, same x y = true := by
  induction b generalizing a with
  | nil => contradiction
  | cons z rest ih =>
      rcases List.mem_cons.mp h with rfl | h
      · obtain ⟨y, hy, hsame⟩ :
            ∃ y ∈ (if a.any (same x) then a else a ++ [x]), same x y = true := by
          split
          · next hany => exact List.any_eq_true.mp hany
          · exact ⟨x, by simp, hrefl x⟩
        exact ⟨y, (prefix_unionBy same _ rest).subset hy, hsame⟩
      · exact ih h

lemma samePlayer_self (p : Player) : samePlayer p p = true := by simp [samePlayer]

lemma sameMap_self (m : Map) : sameMap m m = true := by simp [sameMap]

lemma sameItem_self (i : Item) : sameItem i i = true := by simp [sameItem]

namespace CommandMatch

/-! ### Things -/

/-- The match lists the things of a value, or the same: for countries the players that come from
there. -/
def Lists (state : State) (m : CommandMatch) : Value → Prop
  | .players list => ∀ p ∈ list, ∃ q ∈ m.players, samePlayer p q = true
  | .locations countries =>
    ∀ p ∈ playersFrom state countries, ∃ q ∈ m.players, samePlayer p q = true
  | .maps list => ∀ n ∈ list, ∃ k ∈ m.maps, sameMap n k = true
  | .items list => ∀ i ∈ list, ∃ j ∈ m.items, sameItem i j = true
  | .number _ | .text _ | .time _ | .condition _ | .command _ => False

variable {m : CommandMatch} {t : Token} {v : Value} {kind : ThingKind}

/-- One more token takes no things away. -/
lemma things_subset_absorb (state : State) (m : CommandMatch) (t : Token) :
    m.players ⊆ (m.absorb state t).players ∧ m.maps ⊆ (m.absorb state t).maps
      ∧ m.items ⊆ (m.absorb state t).items := by
  rw [Arguments.players_absorb, Arguments.maps_absorb, Arguments.items_absorb]
  exact ⟨(prefix_unionBy _ _ _).subset, (prefix_unionBy _ _ _).subset,
    (prefix_unionBy _ _ _).subset⟩

lemma Lists.absorb (h : m.Lists state v) (t : Token) : (m.absorb state t).Lists state v := by
  obtain ⟨hplayers, hmaps, hitems⟩ := things_subset_absorb state m t
  cases v with
  | players list => exact fun p hp => (h p hp).imp fun q hq => ⟨hplayers hq.1, hq.2⟩
  | locations countries => exact fun p hp => (h p hp).imp fun q hq => ⟨hplayers hq.1, hq.2⟩
  | maps list => exact fun n hn => (h n hn).imp fun k hk => ⟨hmaps hk.1, hk.2⟩
  | items list => exact fun i hi => (h i hi).imp fun j hj => ⟨hitems hj.1, hj.2⟩
  | number | text | time | condition | command => exact h

/-- The things of a token of their kind come into the match. -/
lemma lists_absorb (hvariant : t.variant = .thing kind) (hv : t.value = some v)
    (hkind : v.kind? = some kind) : (m.absorb state t).Lists state v := by
  unfold CommandMatch.absorb
  rw [hvariant, hv]
  cases v <;> simp only [Value.kind?, Option.some.injEq, reduceCtorEq] at hkind <;> subst hkind
  · exact fun p hp => exists_same_of_mem_unionBy samePlayer_self hp
  · exact fun n hn => exists_same_of_mem_unionBy sameMap_self hn
  · exact fun i hi => exists_same_of_mem_unionBy sameItem_self hi
  · exact fun p hp => exists_same_of_mem_unionBy samePlayer_self hp

/-! ### Numbers, quotes and times -/

/-- The numbers of the match change with a number only. -/
lemma numbers_absorb_of_ne (state : State) (m : CommandMatch) (h : t.variant ≠ .number) :
    (m.absorb state t).numbers = m.numbers := by
  have hnone : (t.arguments state).numbers = [] := by
    unfold Token.arguments
    split <;> first | rfl | contradiction
  rw [Arguments.numbers_absorb, hnone, List.append_nil]

lemma quotes_absorb_of_ne (state : State) (m : CommandMatch) (h : t.variant ≠ .quotedText) :
    (m.absorb state t).quotes = m.quotes := by
  have hnone : (t.arguments state).quotes = [] := by
    unfold Token.arguments
    split <;> first | rfl | contradiction
  rw [Arguments.quotes_absorb, hnone, List.append_nil]

lemma times_absorb_of_ne (state : State) (m : CommandMatch) (h : t.variant ≠ .dateTime) :
    (m.absorb state t).delay = m.delay ∧ (m.absorb state t).period = m.period
      ∧ (m.absorb state t).interval = m.interval := by
  unfold absorb
  split
  case h_8 hvariant _ => exact absurd hvariant h
  all_goals exact ⟨rfl, rfl, rfl⟩

/-- The moment that the time gives to carry out a command, if that is its use. -/
def delayOf? (now : Instant) (p : TimePattern) : Option Instant :=
  if p.use = .delay then p.resolve? now else none

/-- The span that the time gives a command to last, if that is its use. -/
def periodOf? (now : Instant) (p : TimePattern) : Option Span :=
  if p.use = .period ∨ p.use = .unspecified then p.duration? now else none

/-- The interval in which the time repeats a command, if that is its use. -/
def intervalOf? (p : TimePattern) : Option IntervalSpec :=
  if p.use = .interval then some p.interval else none

/-- A time is taken for its use unless there is one. -/
lemma times_addTime (m : CommandMatch) (now : Instant) (p : TimePattern) :
    (m.addTime now p).delay = m.delay.or (delayOf? now p)
      ∧ (m.addTime now p).period = m.period.or (periodOf? now p)
      ∧ (m.addTime now p).interval = m.interval.or (intervalOf? p) := by
  unfold addTime delayOf? periodOf? intervalOf?
  cases p.use <;> dsimp only <;> split <;> simp_all [Option.isNone_iff_eq_none]
  all_goals
    obtain ⟨x, hx⟩ := Option.ne_none_iff_exists'.mp ‹_›
    simp [hx]

/-! ### Everything -/

/-- The match tells all of some tokens: it lists their things, it has the number of each number and
the text of each quote, in order, and for each use the first of all times that resolves. -/
structure Tells (state : State) (tokens : List Token) (m : CommandMatch) : Prop where
  things : ∀ t ∈ tokens, ∀ kind, t.variant = .thing kind →
    ∃ v, t.value = some v ∧ v.kind? = some kind ∧ m.Lists state v
  numbers : List.Forall₂ (fun t x => t.value = some (.number x))
    (tokens.filter (·.variant = .number)) m.numbers
  quotes : List.Forall₂ (fun t s => t.value = some (.text s))
    (tokens.filter (·.variant = .quotedText)) m.quotes
  times : ∃ patterns, List.Forall₂ (fun t p => t.value = some (.time p))
      (tokens.filter (·.variant = .dateTime)) patterns
    ∧ m.delay = patterns.findSome? (delayOf? state.now)
    ∧ m.period = patterns.findSome? (periodOf? state.now)
    ∧ m.interval = patterns.findSome? intervalOf?

variable {tokens : List Token}

lemma Tells.things_absorb (h : m.Tells state tokens) (ht : t.WellTyped) :
    ∀ u ∈ tokens ++ [t], ∀ kind, u.variant = .thing kind →
      ∃ v, u.value = some v ∧ v.kind? = some kind ∧ (m.absorb state t).Lists state v := by
  intro u hu kind hvariant
  rcases List.mem_append.mp hu with hu | hu
  · obtain ⟨v, hv, hkind, hlists⟩ := h.things u hu kind hvariant
    exact ⟨v, hv, hkind, hlists.absorb t⟩
  · obtain rfl := List.mem_singleton.mp hu
    obtain ⟨v, hv, hkind⟩ : ∃ v, u.value = some v ∧ v.kind? = some kind := by
      simpa only [Token.WellTyped, hvariant] using ht
    exact ⟨v, hv, hkind, lists_absorb hvariant hv hkind⟩

lemma Tells.numbers_absorb (h : m.Tells state tokens) (ht : t.WellTyped) :
    List.Forall₂ (fun t x => t.value = some (.number x))
      ((tokens ++ [t]).filter (·.variant = .number)) (m.absorb state t).numbers := by
  by_cases hvariant : t.variant = .number
  · obtain ⟨x, hx⟩ : ∃ x, t.value = some (.number x) := by
      simpa only [Token.WellTyped, hvariant] using ht
    have habsorb : (m.absorb state t).numbers = m.numbers ++ [x] := by
      simp only [absorb, hvariant, hx]
    rw [List.filter_append, List.filter_singleton, hvariant, habsorb]
    exact List.rel_append h.numbers (.cons hx .nil)
  · rw [List.filter_append, List.filter_singleton, decide_eq_false hvariant,
      numbers_absorb_of_ne state m hvariant]
    simpa using h.numbers

lemma Tells.quotes_absorb (h : m.Tells state tokens) (ht : t.WellTyped) :
    List.Forall₂ (fun t s => t.value = some (.text s))
      ((tokens ++ [t]).filter (·.variant = .quotedText)) (m.absorb state t).quotes := by
  by_cases hvariant : t.variant = .quotedText
  · obtain ⟨s, hs⟩ : ∃ s, t.value = some (.text s) := by
      simpa only [Token.WellTyped, hvariant] using ht
    have habsorb : (m.absorb state t).quotes = m.quotes ++ [s] := by
      simp only [absorb, hvariant, hs]
    rw [List.filter_append, List.filter_singleton, hvariant, habsorb]
    exact List.rel_append h.quotes (.cons hs .nil)
  · rw [List.filter_append, List.filter_singleton, decide_eq_false hvariant,
      quotes_absorb_of_ne state m hvariant]
    simpa using h.quotes

lemma Tells.times_absorb (h : m.Tells state tokens) (ht : t.WellTyped) :
    ∃ patterns, List.Forall₂ (fun t p => t.value = some (.time p))
        ((tokens ++ [t]).filter (·.variant = .dateTime)) patterns
      ∧ (m.absorb state t).delay = patterns.findSome? (delayOf? state.now)
      ∧ (m.absorb state t).period = patterns.findSome? (periodOf? state.now)
      ∧ (m.absorb state t).interval = patterns.findSome? intervalOf? := by
  obtain ⟨patterns, hpatterns, hdelay, hperiod, hinterval⟩ := h.times
  by_cases hvariant : t.variant = .dateTime
  · obtain ⟨p, hp⟩ : ∃ p, t.value = some (.time p) := by
      simpa only [Token.WellTyped, hvariant] using ht
    have habsorb : m.absorb state t = m.addTime state.now p := by
      simp only [absorb, hvariant, hp]
    obtain ⟨hd, hs, hi⟩ := times_addTime m state.now p
    refine ⟨patterns ++ [p], ?_, ?_, ?_, ?_⟩
    · rw [List.filter_append, List.filter_singleton, hvariant]
      exact List.rel_append hpatterns (.cons hp .nil)
    · rw [habsorb, hd, hdelay, List.findSome?_append, List.findSome?_singleton]
    · rw [habsorb, hs, hperiod, List.findSome?_append, List.findSome?_singleton]
    · rw [habsorb, hi, hinterval, List.findSome?_append, List.findSome?_singleton]
  · obtain ⟨hd, hs, hi⟩ := times_absorb_of_ne state m hvariant
    refine ⟨patterns, ?_, hd.trans hdelay, hs.trans hperiod, hi.trans hinterval⟩
    rw [List.filter_append, List.filter_singleton, decide_eq_false hvariant]
    simpa using hpatterns

/-- One more well typed token is told with the others. -/
lemma Tells.absorb (h : m.Tells state tokens) (ht : t.WellTyped) :
    (m.absorb state t).Tells state (tokens ++ [t]) where
  things := h.things_absorb ht
  numbers := h.numbers_absorb ht
  quotes := h.quotes_absorb ht
  times := h.times_absorb ht

/-- **A match tells all of a well typed sentence.** -/
theorem tells_assemble (mark : String) (commands : List TextCommand) {s : Sentence}
    (hs : s.AllTokens Token.WellTyped) :
    (assemble mark commands s state).Tells state (s.filterMap Phrase.best?) := by
  have hbest : ∀ t ∈ s.filterMap Phrase.best?, t.WellTyped := by
    intro t ht
    obtain ⟨p, hp, hpt⟩ := List.mem_filterMap.mp ht
    exact hs p hp t (List.mem_of_mem_head? hpt)
  have hstart : Tells state [] { mark, commands, speaker := state.speaker } :=
    ⟨by simp, .nil, .nil, [], .nil, rfl, rfl, rfl⟩
  unfold assemble
  -- The invariant of the fold: what has been absorbed so far is told.
  generalize s.filterMap Phrase.best? = tokens at hbest
  induction tokens using List.reverseRecOn with
  | nil => exact hstart
  | append_singleton tokens t ih =>
      rw [List.foldl_append]
      exact (ih fun u hu => hbest u (List.mem_append_left _ hu)).absorb (hbest t (by simp))

end CommandMatch

end ChatCommand
