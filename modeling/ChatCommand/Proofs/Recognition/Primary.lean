/-
Which command an input calls.

* `Commands.head?_extract`: the command of the primary token comes first;
* `CommandMatch.commands_assemble`, `Parser.commands_of_parseRead`: a match has the commands that
  the read sentence calls;
* `Parser.listsMethods_of_ok`: reading to the end gives each phrase the tokens of the commands it
  calls;
* `Parser.command_of_parse`: **an input calls no command exactly if no phrase is similar enough to
  the words of any, and else it calls the command of the best call**.
-/
import ChatCommand.Proofs.Recognition.Calls
import ChatCommand.Proofs.Recognition.Origin
import ChatCommand.Proofs.Sentence.Readings

namespace ChatCommand

/-! ### Commands -/

namespace Commands

variable {thresholds : Thresholds Float32} {state : State} {s : Sentence}

/-- Without a primary token no command is called. -/
lemma extract_of_primary?_eq_none (h : primary? s = none) :
    (extract thresholds state s).1 = [] := by
  simp [extract, h]

/-- The command of the primary token comes first. -/
lemma head?_extract (hnames : (state.commands.map TextCommand.canonicalName).Nodup)
    {a : Call} (ha : a.command ∈ state.commands) (h : primary? s = some a.entry) :
    (extract thresholds state s).1.head? = some a.command := by
  have hcommand : state.command? a.command.canonicalName = some a.command :=
    State.command?_of_mem hnames ha
  simp [extract, h, Call.entry, Names.methodToken, hcommand]

end Commands

/-! ### Matches -/

/-- Assembling keeps the commands. -/
lemma CommandMatch.commands_assemble (mark : String) (commands : List TextCommand) (s : Sentence)
    (state : State) : (assemble mark commands s state).commands = commands := by
  have habsorb (m : CommandMatch) (t : Token) : (m.absorb state t).commands = m.commands := by
    unfold absorb
    split
    case h_8 =>
      unfold addTime
      split <;> split <;> rfl
    all_goals rfl
  have hfold (tokens : List Token) (m : CommandMatch) :
      (tokens.foldl (absorb state) m).commands = m.commands := by
    induction tokens generalizing m with
    | nil => rfl
    | cons t tokens ih => rw [List.foldl_cons, ih, habsorb]
  exact hfold _ _

namespace Parser

open Commands (Call extract isMethod primary?)

variable {state : State}

/-- The commands of a match are those that the read sentence calls, and there is one if it calls
any. -/
lemma commands_of_parseRead {parser : Parser} {mark : String} {s : Sentence}
    {found : Option CommandMatch} (h : parser.parseRead mark state s = .ok found) :
    found.map CommandMatch.commands =
      if (extract parser.config.thresholds state s).1.isEmpty then none
      else some (extract parser.config.thresholds state s).1 := by
  dsimp only [parseRead] at h
  split at h
  · next hempty =>
      obtain rfl := Except.ok.inj h
      rw [if_pos hempty]
      rfl
  · next hsome =>
      split at h
      · contradiction
      · obtain rfl := Except.ok.inj h
        rw [if_neg hsome, Option.map_some, CommandMatch.commands_assemble]

/-- Where the stages come to their end, each phrase has the tokens of the commands it calls. -/
lemma listsMethods_of_ok {catalog : Catalog} {config : Config} {words : List String}
    (hnames : (state.commands.map TextCommand.canonicalName).Nodup)
    (hfault : ((Sentence.ofWords words).readStages
      (context ⟨catalog, .standard, config⟩ state)).fault? = none) :
    Commands.ListsMethods config.thresholds state ((Sentence.ofWords words).readStages
      (context ⟨catalog, .standard, config⟩ state)).sentence := by
  intro p hp
  calc p.tokens.filter isMethod
      = ((context ⟨catalog, .standard, config⟩ state).tokenizeText .reduction
          p.text).tokens.filter isMethod :=
        congrArg (fun p => p.tokens.filter isMethod)
          (Sentence.eq_tokenizeText_of_readStages hfault p hp)
    _ = (Names.methods config.thresholds state p.text).mergeSort Token.ranksBefore :=
        filter_isMethod_tokenizeText hnames

/-- **The command of an input is that of the best call.** Take the phrases that all stages leave of
the input, and the commands of the state, which have different names. If no phrase is similar
enough to the words of a command, the input calls none. Else it calls the command of the most
similar phrase, of equally similar ones the longest, of these the first, and for one phrase the
first of the commands. -/
theorem command_of_parse {catalog : Catalog} {config : Config} {mark text : String}
    {found : Option CommandMatch}
    (hnames : (state.commands.map TextCommand.canonicalName).Nodup)
    (h : parse ⟨catalog, .standard, config⟩ mark text state = .ok found) :
    let texts := ((Sentence.ofWords (splitWords text)).readStages
      (context ⟨catalog, .standard, config⟩ state)).sentence.map Phrase.text
    (found = none ↔ ∀ a : Call, a.IsAmong texts state.commands →
        a.score.reaches config.thresholds.method = false)
      ∧ ∀ m, found = some m → ∃ a : Call, a.IsAmong texts state.commands
        ∧ a.score.reaches config.thresholds.method = true
        ∧ m.command? = some a.command
        ∧ ∀ b : Call, b.IsAmong texts state.commands → b ≠ a → a.Outranks b := by
  intro texts
  obtain ⟨hfault, hparse⟩ := parseRead_of_ok h
  have hmethods := listsMethods_of_ok hnames hfault
  have hcommands := commands_of_parseRead hparse
  cases hprimary : primary? ((Sentence.ofWords (splitWords text)).readStages
      (context ⟨catalog, .standard, config⟩ state)).sentence with
  | none =>
      have hnone := (Commands.primary?_eq_none_iff hmethods).mp hprimary
      rw [Commands.extract_of_primary?_eq_none hprimary] at hcommands
      obtain rfl : found = none := by simpa using hcommands
      exact ⟨iff_of_true rfl hnone, by simp⟩
  | some entry =>
      obtain ⟨a, ha, hreaches, rfl, hbest⟩ := Commands.exists_call_of_primary? hmethods hprimary
      have hhead : (extract config.thresholds state _).1.head? = some a.command :=
        Commands.head?_extract hnames (List.mem_of_getElem? ha.command) hprimary
      obtain ⟨others, hextract⟩ := List.head?_eq_some_iff.mp hhead
      rw [hextract] at hcommands
      obtain ⟨m, rfl, hm⟩ := Option.map_eq_some_iff.mp hcommands
      refine ⟨iff_of_false (by simp) fun hall => ?_, ?_⟩
      · exact absurd hreaches (by simp [hall a ha])
      · rintro _ ⟨⟩
        exact ⟨a, ha, hreaches, by simp [CommandMatch.command?, hm], hbest⟩

/-- Of two commands the first has no words: the input calls the second, whose word it is. -/
theorem exists_command_of_parse :
    ∃ state m, (state.commands.map TextCommand.canonicalName).Nodup
      ∧ parse ⟨.empty, .standard, {}⟩ "!" "kick" state = .ok (some m)
      ∧ m.command? = state.commands.getLast?
      ∧ ∃ a : Call, a.IsAmong ["kick"] state.commands ∧ m.command? = some a.command
        ∧ ∀ b : Call, b.IsAmong ["kick"] state.commands → b ≠ a → a.Outranks b := by
  let state : State :=
    { commands := [{ canonicalName := "list", aliases := [] },
                   { canonicalName := "kick", aliases := ["kick"] }]
      now := ⟨0⟩ }
  have hnames : (state.commands.map TextCommand.canonicalName).Nodup := by decide
  have htexts : ((Sentence.ofWords (splitWords "kick")).readStages
      (context ⟨.empty, .standard, {}⟩ state)).sentence.map Phrase.text = ["kick"] := by
    decide +kernel
  have hfound : (parse ⟨.empty, .standard, {}⟩ "!" "kick" state).toOption.join.any fun m =>
      m.command? = state.commands.getLast? := by
    decide +kernel
  obtain ⟨m, h, hlast⟩ := exists_of_any_parse hfound
  obtain ⟨a, ha, -, hcommand, hbest⟩ := (command_of_parse hnames h).2 m rfl
  rw [htexts] at ha hbest
  exact ⟨state, m, hnames, h, of_decide_eq_true hlast, a, ha, hcommand, hbest⟩

end Parser

end ChatCommand
