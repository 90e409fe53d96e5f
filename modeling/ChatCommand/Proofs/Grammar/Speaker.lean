/-
What rules see of the state.

* `Rule.outcome_congr`: rules see nothing of the state but whom their arguments mean;
* `Rule.variant_of_outcome`: a rule makes something of the variant of an argument, or a number, a
  time or players;
* `Token.veiled`: a token that does not tell which players it stands for;
* `Rule.map_veiled_outcome`: **whether a rule applies, and what its token is up to players, can be
  seen without them**, so it does not depend on who speaks.
-/
import ChatCommand.Proofs.Grammar.Outcomes

namespace ChatCommand

variable {state state' : State} {b : Binding} {r : Rule} {t : Token}

/-! ### Whom arguments mean -/

/-- Rules see nothing of the state but whom their arguments mean. -/
lemma Rule.outcome_congr (hr : r ∈ Grammar.standardRules) (state state' : State)
    (h : ∀ t ∈ b.tokens, t.meantPlayers? state.speaker = t.meantPlayers? state'.speaker) :
    r.outcome state b = r.outcome state' b := by
  have hspeaker : Joining.withSpeaker state b = Joining.withSpeaker state' b := by
    obtain ⟨text, tokens⟩ := b
    rcases tokens with _ | ⟨left, _ | ⟨word, _ | ⟨right, _ | ⟨_, _⟩⟩⟩⟩ <;> try rfl
    simp only [Joining.withSpeaker, Option.bind_eq_bind, Option.bind_some, h left (by simp),
      h right (by simp)]
  have hwithout : Filters.without state b = Filters.without state' b := by
    obtain ⟨text, tokens⟩ := b
    rcases tokens with _ | ⟨left, _ | ⟨word, _ | ⟨right, _ | ⟨_, _⟩⟩⟩⟩ <;> try rfl
    simp only [Filters.without, h right (by simp)]
  simp only [Grammar.standardRules, List.mem_append] at hr
  rcases hr with ((hr | hr) | hr) | hr
  · simp only [Joining.rules, List.mem_cons, List.not_mem_nil, or_false] at hr
    rcases hr with rfl | rfl | rfl | rfl | rfl | rfl | rfl | rfl <;> first | rfl | exact hspeaker
  · simp only [Arithmetic.rules, List.mem_cons, List.not_mem_nil, or_false] at hr
    rcases hr with rfl | rfl | rfl | rfl <;> rfl
  · simp only [Times.rules, List.mem_cons, List.not_mem_nil, or_false] at hr
    rcases hr with rfl | rfl | rfl | rfl | rfl | rfl | rfl | rfl | rfl <;> rfl
  · simp only [Filters.rules, List.mem_cons, List.not_mem_nil, or_false] at hr
    rcases hr with rfl | rfl | rfl | rfl | rfl | rfl <;> first | rfl | exact hwithout

/-- A token that is no reference to the speaker means the same players whoever speaks. -/
lemma Token.meantPlayers?_congr (h : t.variant ≠ .selfReflection)
    (speaker speaker' : Option Player) :
    t.meantPlayers? speaker = t.meantPlayers? speaker' := by
  unfold meantPlayers?
  split
  · rfl
  · contradiction
  · rfl

/-! ### Variants -/

/-- The variants that rules bring in. -/
def Rule.madeVariants : List TokenVariant := [.number, .dateTime, .thing .player]

lemma Joining.variant_of_outcome (hr : r ∈ rules) (h : r.outcome state b = some t) :
    (∃ u ∈ b.tokens, t.variant = u.variant) ∨ t.variant = .thing .player := by
  have hunite (h : unite state b = some t) : ∃ u ∈ b.tokens, t.variant = u.variant := by
    obtain ⟨left, word, right, v, w, both, htokens, -, -, -, rfl⟩ := unite_eq_some h
    exact ⟨left, by simp [htokens], rfl⟩
  have hkeepFirst (h : keepFirst state b = some t) : ∃ u ∈ b.tokens, t.variant = u.variant := by
    obtain ⟨first, hfirst, rfl⟩ := keepFirst_eq_some h
    exact ⟨first, List.mem_of_mem_head? hfirst, rfl⟩
  have hkeepLast (h : keepLast state b = some t) : ∃ u ∈ b.tokens, t.variant = u.variant := by
    obtain ⟨last, hlast, rfl⟩ := keepLast_eq_some h
    exact ⟨last, List.mem_of_getLast? hlast, rfl⟩
  have hnarrow (h : narrow state b = some t) : ∃ u ∈ b.tokens, t.variant = u.variant := by
    obtain ⟨left, right, v, w, meant, htokens, -, -, -, rfl⟩ := narrow_eq_some h
    exact ⟨left, by simp [htokens], rfl⟩
  simp only [rules, List.mem_cons, List.not_mem_nil, or_false] at hr
  rcases hr with rfl | rfl | rfl | rfl | rfl | rfl | rfl | rfl
  · exact .inl (hunite h)
  · exact .inl (hunite h)
  · obtain ⟨left, word, right, players, speaker, -, -, -, rfl⟩ := withSpeaker_eq_some h
    exact .inr rfl
  · exact .inl (hnarrow h)
  · exact .inl (hkeepFirst h)
  · exact .inl (hkeepFirst h)
  · exact .inl (hkeepLast h)
  · exact .inl (hkeepLast (keepLast_of_keepQuantified h))

lemma Filters.variant_of_outcome (hr : r ∈ rules) (h : r.outcome state b = some t) :
    (∃ u ∈ b.tokens, t.variant = u.variant) ∨ t.variant = .thing .player := by
  rcases condition_or_selects hr h with hcondition | ⟨set, others, players, keep, -, -, rfl⟩
  · obtain ⟨left, middle, right, property, operator, operand, htokens, -, -, rfl⟩ :=
      condition_eq_some hcondition
    exact .inl ⟨left, by simp [htokens], rfl⟩
  · exact .inr rfl

/-- A rule makes a number, a time, players, or something of the variant of an argument. -/
theorem Rule.variant_of_outcome (hr : r ∈ Grammar.standardRules)
    (h : r.outcome state b = some t) :
    (∃ u ∈ b.tokens, t.variant = u.variant) ∨ t.variant ∈ madeVariants := by
  have hplayer (h : t.variant = .thing .player) : t.variant ∈ madeVariants := by
    rw [h]
    decide
  simp only [Grammar.standardRules, List.mem_append] at hr
  rcases hr with ((hr | hr) | hr) | hr
  · exact (Joining.variant_of_outcome hr h).imp_right hplayer
  · obtain ⟨x, rfl⟩ := Arithmetic.exists_eq_result hr h
    exact .inr List.mem_cons_self
  · obtain ⟨p, rfl⟩ := Times.exists_eq_result hr h
    exact .inr (List.mem_cons_of_mem _ List.mem_cons_self)
  · exact (Filters.variant_of_outcome hr h).imp_right hplayer

/-! ### Veils -/

/-- The value without its players, if these are what it is. -/
def Value.veiled : Value → Value
  | players _ => players []
  | v => v

namespace Token

/-- The token without the players it stands for. -/
def veiled (t : Token) : Token := { t with value := t.value.map Value.veiled }

@[simp]
lemma text_veiled (t : Token) : t.veiled.text = t.text := rfl

@[simp]
lemma variant_veiled (t : Token) : t.veiled.variant = t.variant := rfl

@[simp]
lemma value_veiled (t : Token) : t.veiled.value = t.value.map Value.veiled := rfl

@[simp]
lemma number?_veiled (t : Token) : t.veiled.number? = t.number? := by
  rw [number?, number?, value_veiled]
  cases t.value with
  | none => rfl
  | some v => cases v <;> rfl

@[simp]
lemma time?_veiled (t : Token) : t.veiled.time? = t.time? := by
  rw [time?, time?, value_veiled]
  cases t.value with
  | none => rfl
  | some v => cases v <;> rfl

@[simp]
lemma players?_veiled (t : Token) : t.veiled.players? = t.players?.map fun _ => [] := by
  rw [players?, players?, value_veiled]
  cases t.value with
  | none => rfl
  | some v => cases v <;> rfl

end Token

/-- The arguments without the players they stand for. -/
def Binding.veiled (b : Binding) : Binding := { b with tokens := b.tokens.map Token.veiled }

@[simp]
lemma Binding.produce_veiled (b : Binding) : b.veiled.produce = b.produce := by
  have hsimilarity : b.veiled.similarity = b.similarity := by
    rw [similarity, similarity, veiled, List.map_map]
    rfl
  funext variant value
  rw [produce, produce, hsimilarity]
  rfl

lemma Binding.tokens_veiled (b : Binding) : b.veiled.tokens = b.tokens.map Token.veiled := rfl

namespace Times

@[simp]
lemma count?_veiled (t : Token) : count? t.veiled = count? t := by
  rw [count?, count?, Token.variant_veiled, Token.number?_veiled]

@[simp]
lemma unit?_veiled (t : Token) : unit? t.veiled = unit? t := rfl

@[simp]
lemma meridiem?_veiled (t : Token) : meridiem? t.veiled = meridiem? t := rfl

@[simp]
lemma result_veiled (b : Binding) : result b.veiled = result b := by
  funext p
  rw [result, result, Binding.produce_veiled]

lemma merge_veiled (state state' : State) (b : Binding) :
    merge state b.veiled = merge state' b := by
  simp only [merge, Binding.tokens_veiled, List.head?_map, List.getLast?_map, result_veiled,
    Option.bind_eq_bind, Option.bind_map, Function.comp_def, Token.time?_veiled]

/-- A rule for times makes one of numbers, times and words, which need no players. -/
lemma outcome_veiled (hr : r ∈ rules) (state state' : State) (b : Binding) :
    r.outcome state b.veiled = r.outcome state' b := by
  simp only [rules, List.mem_cons, List.not_mem_nil, or_false] at hr
  rcases hr with rfl | rfl | rfl | rfl | rfl | rfl | rfl | rfl | rfl
  rotate_right 2
  · exact merge_veiled state state' b
  · exact merge_veiled state state' b
  all_goals
    simp only [rule, unitAmount, everyUnit, hourMeridiem, timeMeridiem, atHour, modify,
      Binding.tokens_veiled, result_veiled]
    rcases b.tokens with _ | ⟨first, _ | ⟨second, _ | ⟨_, _⟩⟩⟩ <;> first
      | rfl
      | simp only [List.map_cons, List.map_nil, count?_veiled, unit?_veiled, meridiem?_veiled,
          Token.variant_veiled, Token.number?_veiled, Token.time?_veiled]

end Times

namespace Arithmetic

@[simp]
lemma result_veiled (b : Binding) : result b.veiled = result b := by
  funext x
  rw [result, result, Binding.produce_veiled]

/-- A rule of arithmetic makes a number of numbers and operators. -/
lemma outcome_veiled (hr : r ∈ rules) (state state' : State) (b : Binding) :
    r.outcome state b.veiled = r.outcome state' b := by
  simp only [rules, List.mem_cons, List.not_mem_nil, or_false] at hr
  rcases hr with rfl | rfl | rfl | rfl
  all_goals
    simp only [compound, parentheses, binary, Binding.tokens_veiled, result_veiled]
    rcases b.tokens with _ | ⟨first, _ | ⟨second, _ | ⟨third, _ | ⟨_, _⟩⟩⟩⟩ <;> try rfl
    simp only [List.map_cons, List.map_nil, Token.variant_veiled, Token.number?_veiled,
      Token.text_veiled]

end Arithmetic

namespace Value

variable (v w : Value)

@[simp]
lemma veiled_veiled : v.veiled.veiled = v.veiled := by
  cases v <;> rfl

lemma map_veiled_union? :
    (v.union? w).map veiled = (v.veiled.union? w.veiled).map veiled := by
  cases v <;> cases w <;> rfl

lemma map_veiled_narrow? :
    (Joining.narrow? v w).map veiled = (Joining.narrow? v.veiled w.veiled).map veiled := by
  cases v <;> cases w <;> try rfl
  next a b =>
    simp only [Joining.narrow?]
    split
    · rfl
    · split <;> rfl

end Value

namespace Joining

/-- What two values make together tells as much if neither tells its players. -/
lemma map_veiled_combine {combine : Value → Value → Option Value}
    (hcombine : ∀ v w, (combine v w).map Value.veiled
      = (combine v.veiled w.veiled).map Value.veiled)
    (b : Binding) (variant : TokenVariant) (left right : Option Value) :
    (do some (b.produce variant (some (← combine (← left) (← right))))).map Token.veiled
      = (do some (b.produce variant
          (some (← combine (← left.map Value.veiled) (← right.map Value.veiled))))).map
            Token.veiled := by
  have hproduce (v : Option Value) : (do some (b.produce variant (some (← v)))).map Token.veiled
      = (v.map Value.veiled).map fun v => b.produce variant (some v) := by
    cases v <;> rfl
  cases left with
  | none => rfl
  | some v =>
      cases right with
      | none => rfl
      | some w =>
          show (do some (b.produce variant (some (← combine v w)))).map Token.veiled
            = (do some (b.produce variant (some (← combine v.veiled w.veiled)))).map Token.veiled
          rw [hproduce, hproduce, hcombine]

lemma map_veiled_unite (state state' : State) (b : Binding) :
    (unite state b).map Token.veiled = (unite state' b.veiled).map Token.veiled := by
  rw [unite, unite, Binding.tokens_veiled, Binding.produce_veiled]
  rcases b.tokens with _ | ⟨left, _ | ⟨word, _ | ⟨right, _ | ⟨_, _⟩⟩⟩⟩ <;> try rfl
  exact map_veiled_combine Value.map_veiled_union? b left.variant left.value right.value

lemma map_veiled_narrow (state state' : State) (b : Binding) :
    (narrow state b).map Token.veiled = (narrow state' b.veiled).map Token.veiled := by
  rw [narrow, narrow, Binding.tokens_veiled, Binding.produce_veiled]
  rcases b.tokens with _ | ⟨left, _ | ⟨right, _ | ⟨_, _⟩⟩⟩ <;> try rfl
  exact map_veiled_combine Value.map_veiled_narrow? b left.variant left.value right.value

lemma map_veiled_keepFirst (state state' : State) (b : Binding) :
    (keepFirst state b).map Token.veiled = (keepFirst state' b.veiled).map Token.veiled := by
  rw [keepFirst, keepFirst, Binding.tokens_veiled, Binding.produce_veiled]
  cases b.tokens <;> rfl

lemma map_veiled_keepLast (state state' : State) (b : Binding) :
    (keepLast state b).map Token.veiled = (keepLast state' b.veiled).map Token.veiled := by
  rw [keepLast, keepLast, Binding.tokens_veiled, Binding.produce_veiled, List.getLast?_map]
  cases b.tokens.getLast? with
  | none => rfl
  | some last =>
      have hvalue :
          (last.value.map Value.veiled).map Value.veiled = last.value.map Value.veiled := by
        cases last.value <;> simp
      show some (Token.mk b.text last.name last.variant (last.value.map Value.veiled) b.similarity)
        = some (Token.mk _ _ _ ((last.value.map Value.veiled).map Value.veiled) _)
      rw [hvalue]
      rfl

lemma map_veiled_keepQuantified (state state' : State) (b : Binding) :
    (keepQuantified state b).map Token.veiled
      = (keepQuantified state' b.veiled).map Token.veiled := by
  have hlast := map_veiled_keepLast state state' b
  unfold keepQuantified
  rw [Binding.tokens_veiled, List.head?_map]
  cases b.tokens.head? with
  | none => simp only [Option.map_none, Option.bind_eq_bind, Option.bind_none]
  | some first =>
      simp only [Option.map_some, Option.bind_eq_bind, Option.bind_some, Token.variant_veiled]
      split <;> first | exact hlast | rfl

end Joining

/-! ### Players -/

lemma Token.isSome_meantPlayers?_veiled (t : Token) (speaker speaker' : Option Player) :
    (t.meantPlayers? speaker).isSome = (t.veiled.meantPlayers? speaker').isSome := by
  simp only [meantPlayers?, variant_veiled, players?_veiled]
  split <;> simp

lemma Joining.map_veiled_withSpeaker (state state' : State) (b : Binding) :
    (withSpeaker state b).map Token.veiled = (withSpeaker state' b.veiled).map Token.veiled := by
  rw [withSpeaker, withSpeaker, Binding.tokens_veiled, Binding.produce_veiled]
  rcases b.tokens with _ | ⟨left, _ | ⟨word, _ | ⟨right, _ | ⟨_, _⟩⟩⟩⟩ <;> try rfl
  simp only [List.map_cons, List.map_nil, Option.bind_eq_bind, Option.bind_some]
  have hleft := left.isSome_meantPlayers?_veiled state.speaker state'.speaker
  have hright := right.isSome_meantPlayers?_veiled state.speaker state'.speaker
  generalize left.meantPlayers? state.speaker = a at hleft ⊢
  generalize left.veiled.meantPlayers? state'.speaker = a' at hleft ⊢
  generalize right.meantPlayers? state.speaker = c at hright ⊢
  generalize right.veiled.meantPlayers? state'.speaker = c' at hright ⊢
  cases a <;> cases a' <;> cases c <;> cases c' <;> first | rfl | contradiction

namespace Filters

@[simp]
lemma result_veiled (b : Binding) : result b.veiled = result b := by
  funext players
  rw [result, result, Binding.produce_veiled]

@[simp]
lemma isPreposition_veiled (word : Token) (wanted : List Preposition) :
    isPreposition word.veiled wanted = isPreposition word wanted := rfl

lemma map_veiled_meeting (b : Binding) (set last : Token) :
    (meeting b set last).map Token.veiled
      = (meeting b.veiled set.veiled last.veiled).map Token.veiled := by
  rw [meeting, meeting, Token.value_veiled, Token.players?_veiled, result_veiled]
  cases last.value with
  | none => rfl
  | some v => cases v <;> cases set.players? <;> rfl

lemma map_veiled_byCondition (state state' : State) (b : Binding) :
    (byCondition state b).map Token.veiled = (byCondition state' b.veiled).map Token.veiled := by
  rw [byCondition, byCondition, Binding.tokens_veiled]
  rcases b.tokens with _ | ⟨set, _ | ⟨word, _ | ⟨last, _ | ⟨_, _⟩⟩⟩⟩ <;> try rfl
  · exact map_veiled_meeting b set word
  · show (if isPreposition word [.with] then meeting b set last else none).map Token.veiled
      = (if isPreposition word [.with] then meeting b.veiled set.veiled last.veiled else none).map
          Token.veiled
    split
    · exact map_veiled_meeting b set last
    · rfl

lemma map_veiled_byItem (state state' : State) (b : Binding) :
    (byItem state b).map Token.veiled = (byItem state' b.veiled).map Token.veiled := by
  rw [byItem, byItem, Binding.tokens_veiled, result_veiled]
  rcases b.tokens with _ | ⟨set, _ | ⟨word, _ | ⟨last, _ | ⟨_, _⟩⟩⟩⟩ <;> try rfl
  simp only [List.map_cons, List.map_nil, isPreposition_veiled, Token.value_veiled,
    Token.players?_veiled]
  cases isPreposition word [.with] with
  | false => rfl
  | true =>
      cases last.value with
      | none => rfl
      | some v => cases v <;> cases set.players? <;> rfl

lemma map_veiled_byLocation (state state' : State) (b : Binding) :
    (byLocation state b).map Token.veiled = (byLocation state' b.veiled).map Token.veiled := by
  rw [byLocation, byLocation, Binding.tokens_veiled, result_veiled]
  rcases b.tokens with _ | ⟨set, _ | ⟨word, _ | ⟨last, _ | ⟨_, _⟩⟩⟩⟩ <;> try rfl
  simp only [List.map_cons, List.map_nil, isPreposition_veiled, Token.value_veiled,
    Token.players?_veiled]
  cases isPreposition word [.from, .in] with
  | false => rfl
  | true =>
      cases last.value with
      | none => rfl
      | some v => cases v <;> cases set.players? <;> rfl

lemma map_veiled_without (state state' : State) (b : Binding) :
    (without state b).map Token.veiled = (without state' b.veiled).map Token.veiled := by
  rw [without, without, Binding.tokens_veiled, result_veiled]
  rcases b.tokens with _ | ⟨set, _ | ⟨word, _ | ⟨last, _ | ⟨_, _⟩⟩⟩⟩ <;> try rfl
  simp only [List.map_cons, List.map_nil, isPreposition_veiled, Token.players?_veiled]
  have hlast := last.isSome_meantPlayers?_veiled state.speaker state'.speaker
  generalize last.meantPlayers? state.speaker = a at hlast ⊢
  generalize last.veiled.meantPlayers? state'.speaker = a' at hlast ⊢
  cases isPreposition word [.except] with
  | false => rfl
  | true => cases a <;> cases a' <;> cases set.players? <;> first | rfl | contradiction

lemma map_veiled_condition (state state' : State) (b : Binding) :
    (condition state b).map Token.veiled = (condition state' b.veiled).map Token.veiled := by
  rw [condition, condition, Binding.tokens_veiled, Binding.produce_veiled]
  rcases b.tokens with _ | ⟨left, _ | ⟨middle, _ | ⟨right, _ | ⟨_, _⟩⟩⟩⟩ <;> try rfl
  simp only [List.map_cons, List.map_nil, Token.variant_veiled, Token.value_veiled,
    Token.number?_veiled]
  cases left.value with
  | none => rfl
  | some v =>
      simp only [Option.map_some]
      split <;> split <;> first | rfl | contradiction

end Filters

/-- **Whether a rule applies, and what its token is up to players, can be seen behind the veil**:
it depends neither on the players that the arguments stand for nor on who speaks. -/
theorem Rule.map_veiled_outcome (hr : r ∈ Grammar.standardRules) (state state' : State)
    (b : Binding) :
    (r.outcome state b).map Token.veiled = (r.outcome state' b.veiled).map Token.veiled := by
  simp only [Grammar.standardRules, List.mem_append] at hr
  rcases hr with ((hr | hr) | hr) | hr
  · simp only [Joining.rules, List.mem_cons, List.not_mem_nil, or_false] at hr
    rcases hr with rfl | rfl | rfl | rfl | rfl | rfl | rfl | rfl
    · exact Joining.map_veiled_unite state state' b
    · exact Joining.map_veiled_unite state state' b
    · exact Joining.map_veiled_withSpeaker state state' b
    · exact Joining.map_veiled_narrow state state' b
    · exact Joining.map_veiled_keepFirst state state' b
    · exact Joining.map_veiled_keepFirst state state' b
    · exact Joining.map_veiled_keepLast state state' b
    · exact Joining.map_veiled_keepQuantified state state' b
  · rw [Arithmetic.outcome_veiled hr state' state b]
  · rw [Times.outcome_veiled hr state' state b]
  · simp only [Filters.rules, List.mem_cons, List.not_mem_nil, or_false] at hr
    rcases hr with rfl | rfl | rfl | rfl | rfl | rfl
    · exact Filters.map_veiled_condition state state' b
    · exact Filters.map_veiled_byCondition state state' b
    · exact Filters.map_veiled_byCondition state state' b
    · exact Filters.map_veiled_byItem state state' b
    · exact Filters.map_veiled_byLocation state state' b
    · exact Filters.map_veiled_without state state' b

end ChatCommand
