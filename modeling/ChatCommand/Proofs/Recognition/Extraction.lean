/-
The commands that the readings of a sentence name.

* `Commands.Mention`, `Mention.IsIn`, `Mention.Outranks`: a token that names a command, with its
  place, and which of two such tokens is the better one;
* `Commands.IsPrimary`: a mention that is better than all others, and
  `Commands.exists_isPrimary`: the search finds it;
* `Commands.pairwise_eraseDups_filterMap`: names of which each is kept once stand in the order of
  their first mentions;
* `Commands.MayBeMeant`, `Commands.AreAlternates`: the mentions that count beside the primary one,
  and the commands they name, ranked;
* `Commands.extract_of_mentions`: **a sentence calls the command of its primary mention and those
  that may be meant beside it, and keeps all other tokens**.
-/
import ChatCommand.Proofs.Recognition.Calls
import ChatCommand.Proofs.Recognition.Origin

namespace ChatCommand

namespace Commands

/-! ### Mentions -/

/-- A token that names a command: the place of its phrase in the sentence, and its own place among
the tokens of the phrase. -/
structure Mention where
  place : Nat
  number : Nat
  token : Token

namespace Mention

/-- The token stands in a sentence at these places, and names a command. -/
structure IsIn (s : Sentence) (m : Mention) : Prop where
  phrase : ∃ p, s[m.place]? = some p ∧ p.tokens[m.number]? = some m.token
  isMethod : isMethod m.token = true

/-- The phrase comes first, or it is the same and the token does. -/
def Precedes (m n : Mention) : Prop :=
  m.place < n.place ∨ m.place = n.place ∧ m.number < n.number

/-- A mention is better than another if it is more similar. Of two that are equally similar it is
the one with more bytes, and if both have as many, the one that precedes. -/
def Outranks (m n : Mention) : Prop :=
  n.token.similarity < m.token.similarity
    ∨ m.token.similarity.magnitude = n.token.similarity.magnitude
      ∧ (n.token.text.utf8ByteSize < m.token.text.utf8ByteSize
        ∨ m.token.text.utf8ByteSize = n.token.text.utf8ByteSize ∧ m.Precedes n)

/-- The token with the place of its phrase. -/
def entry (m : Mention) : Nat × Token := (m.place, m.token)

/-- The command of the state that has the name of the token. -/
def command? (state : State) (m : Mention) : Option TextCommand :=
  m.token.name.bind state.command?

end Mention

/-- All mentions of a sentence, in order. -/
def mentions (s : Sentence) : List Mention :=
  s.zipIdx.flatMap fun (p, place) => (p.tokens.zipIdx.filter fun (t, _) => isMethod t).map
    fun (token, number) => { place, number, token }

variable {state : State} {s : Sentence}

lemma mem_mentions {m : Mention} : m ∈ mentions s ↔ m.IsIn s := by
  simp only [mentions, List.mem_flatMap, List.mem_map, List.mem_filter,
    List.mem_zipIdx_iff_getElem?, Prod.exists]
  constructor
  · rintro ⟨p, place, hp, token, number, ⟨htoken, hmethod⟩, rfl⟩
    exact ⟨⟨p, hp, htoken⟩, hmethod⟩
  · rintro ⟨⟨p, hp, htoken⟩, hmethod⟩
    exact ⟨p, m.place, hp, m.token, m.number, ⟨htoken, hmethod⟩, rfl⟩

lemma pairwise_mentions (s : Sentence) : (mentions s).Pairwise Mention.Precedes := by
  rw [mentions, List.pairwise_flatMap]
  constructor
  · rintro ⟨p, place⟩ -
    rw [List.pairwise_map]
    exact ((pairwise_zipIdx p.tokens).filter _).imp fun hnumber => .inr ⟨rfl, hnumber⟩
  · refine (pairwise_zipIdx s).imp fun {p q} hplace m hm n hn => ?_
    obtain ⟨t, -, rfl⟩ := List.mem_map.mp hm
    obtain ⟨u, -, rfl⟩ := List.mem_map.mp hn
    exact .inl hplace

lemma methodTokens_eq_map (s : Sentence) : methodTokens s = (mentions s).map Mention.entry := by
  have htokens (p : Phrase) (place : Nat) :
      ((p.tokens.zipIdx.filter fun (t, _) => isMethod t).map
          fun (token, number) => Mention.mk place number token).map Mention.entry
        = (p.tokens.filter isMethod).map fun t => (place, t) := by
    conv_rhs => rw [← List.zipIdx_map_fst (i := 0) p.tokens]
    simp only [List.filter_map, List.map_map]
    rfl
  simp only [methodTokens, mentions, List.map_flatMap, htokens]

/-! ### The primary mention -/

/-- A mention that is better than all others. -/
structure IsPrimary (s : Sentence) (m : Mention) : Prop where
  isIn : m.IsIn s
  outranks : ∀ n, Mention.IsIn s n → n ≠ m → m.Outranks n

lemma Mention.outranks_of_isPreferred {m n : Mention}
    (h : isPreferred m.token n.token = true
      ∨ m.Precedes n ∧ ¬isPreferred n.token m.token = true) : m.Outranks n := by
  rw [isPreferred_iff, isPreferred_iff] at h
  rw [Outranks, Score.lt_def]
  rcases h with (hscore | ⟨hscore, hsize⟩) | ⟨hprecedes, hnot⟩
  · exact .inl hscore
  · exact .inr ⟨hscore.symm, .inl hsize⟩
  · by_cases hlt : n.token.similarity.magnitude < m.token.similarity.magnitude
    · exact .inl hlt
    · by_cases hsize : n.token.text.utf8ByteSize < m.token.text.utf8ByteSize
      · exact .inr ⟨by omega, .inl hsize⟩
      · exact .inr ⟨by omega, .inr ⟨by omega, hprecedes⟩⟩

/-- The search finds the primary mention, if there is any mention at all. -/
lemma exists_isPrimary (h : ∃ m, Mention.IsIn s m) :
    ∃ m, IsPrimary s m ∧ primary? s = some m.entry := by
  obtain ⟨m, hm⟩ := h
  have hsome : primary? s ≠ none := by
    rw [primary?, methodTokens_eq_map, Ne, foldl_preferred_eq_none_iff, List.map_eq_nil_iff]
    exact List.ne_nil_of_mem (mem_mentions.mpr hm)
  obtain ⟨entry, hentry⟩ := Option.ne_none_iff_exists'.mp hsome
  have hfold := hentry
  rw [primary?, methodTokens_eq_map] at hfold
  obtain ⟨m, hm, rfl, hbest⟩ := exists_of_foldl_map (pairwise_mentions s) hfold
  exact ⟨m, ⟨mem_mentions.mp hm, fun n hn hne =>
    Mention.outranks_of_isPreferred (hbest n (mem_mentions.mpr hn) hne)⟩, hentry⟩

/-! ### First mentions -/

section FirstMentions

variable {α β : Type} [BEq β] [LawfulBEq β] {f : α → Option β}

/-- The values other than one come from the elements that do not give it. -/
lemma filter_filterMap_ne (a : β) (l : List α) :
    (l.filterMap f).filter (fun b => !b == a) = (l.filter fun y => f y != some a).filterMap f := by
  rw [List.filter_filterMap, List.filterMap_filter]
  refine List.filterMap_congr fun y _ => ?_
  cases f y with
  | none => simp
  | some b =>
      rw [Option.filter_some, bne, Option.some_beq_some]

/-- Where each of some values is kept once, they come in the order in which they first occur. -/
lemma pairwise_eraseDups_filterMap {R : α → α → Prop} : ∀ {l : List α}, l.Pairwise R →
    (l.filterMap f).eraseDups.Pairwise fun a b =>
      a ≠ b ∧ ∃ x ∈ l, f x = some a ∧ ∀ y ∈ l, f y = some b → R x y
  | [], _ => by simp
  | x :: l, h => by
      obtain ⟨hx, hl⟩ := List.pairwise_cons.mp h
      -- another value than that of the first element comes from an element behind it
      have hbehind {b : β} (hb : f x ≠ some b) {y : α} (hy : y ∈ x :: l) (hfy : f y = some b) :
          y ∈ l := by
        rcases List.mem_cons.mp hy with rfl | hy
        · contradiction
        · exact hy
      cases hfx : f x with
      | none =>
          rw [List.filterMap_cons_none hfx]
          refine (pairwise_eraseDups_filterMap hl).imp ?_
          rintro a b ⟨hne, z, hz, hfz, hfirst⟩
          refine ⟨hne, z, List.mem_cons_of_mem _ hz, hfz, fun y hy hfy => ?_⟩
          exact hfirst y (hbehind (by simp [hfx]) hy hfy) hfy
      | some a =>
          rw [List.filterMap_cons_some hfx, List.eraseDups_cons, filter_filterMap_ne,
            List.pairwise_cons]
          have hne {b : β} (hb : b ∈ ((l.filter fun y => f y != some a).filterMap f).eraseDups) :
              b ≠ a := by
            rw [← filter_filterMap_ne, List.mem_eraseDups] at hb
            simpa using (List.mem_filter.mp hb).2
          constructor
          · intro b hb
            refine ⟨(hne hb).symm, x, List.mem_cons_self, hfx, fun y hy hfy => hx y ?_⟩
            exact hbehind (by simpa [hfx] using (hne hb).symm) hy hfy
          · refine (pairwise_eraseDups_filterMap (hl.filter _)).imp_of_mem ?_
            rintro b c hb hc ⟨hbc, z, hz, hfz, hfirst⟩
            refine ⟨hbc, z, List.mem_cons_of_mem _ (List.mem_of_mem_filter hz), hfz, ?_⟩
            intro y hy hfy
            refine hfirst y (List.mem_filter.mpr ⟨?_, ?_⟩) hfy
            · exact hbehind (by simpa [hfx] using (hne hc).symm) hy hfy
            · simpa [hfy] using hne hc
  termination_by l => l.length
  decreasing_by
    · exact Nat.lt_succ_self _
    · exact Nat.lt_succ_of_le (List.length_filter_le _ _)

end FirstMentions

/-! ### Alternates -/

/-- The mention may be meant beside the primary one: it stands in another phrase, or its similarity
reaches the bar. Each does that if the bar is no number. -/
structure MayBeMeant (bar : Float32) (s : Sentence) (primary m : Mention) : Prop where
  isIn : m.IsIn s
  near : m.place ≠ primary.place ∨ m.token.similarity.reaches bar = true ∨ orderKey? bar = none

/-- A command is mentioned before another, by mentions that count. -/
def IsMentionedBefore (bar : Float32) (state : State) (s : Sentence) (primary : Mention)
    (a b : TextCommand) : Prop :=
  ∃ m, MayBeMeant bar s primary m ∧ m.command? state = some a
    ∧ ∀ n, MayBeMeant bar s primary n → n.command? state = some b → m.Precedes n

/-- The commands other than the primary one that may be meant, each once, those of higher priority
first, and of equal ones those that are mentioned first. -/
structure AreAlternates (bar : Float32) (state : State) (s : Sentence) (primary : Mention)
    (command : TextCommand) (others : List TextCommand) : Prop where
  mem_iff : ∀ c, c ∈ others ↔
    c ≠ command ∧ ∃ m, MayBeMeant bar s primary m ∧ m.command? state = some c
  nodup : others.Nodup
  sorted : others.Pairwise fun a b => b.priority < a.priority
    ∨ a.priority = b.priority ∧ IsMentionedBefore bar state s primary a b

variable {thresholds : Thresholds Float32} {bar : Float32} {primary m : Mention}
  {command c : TextCommand} {name : String}

/-- The mentions that count beside a primary one at some place, in order. -/
def meant (bar : Float32) (place : Nat) (s : Sentence) : List Mention :=
  (mentions s).filter fun m => !(m.place = place && m.token.similarity.isBelow bar)

lemma mem_meant : m ∈ meant bar primary.place s ↔ MayBeMeant bar s primary m := by
  have hnear : (!(m.place = primary.place && m.token.similarity.isBelow bar)) = true ↔
      m.place ≠ primary.place ∨ m.token.similarity.reaches bar = true ∨ orderKey? bar = none := by
    rw [Bool.not_and, Bool.or_eq_true, Bool.not_eq_true', Bool.not_eq_true', decide_eq_false_iff_not,
      Score.isBelow_eq_false_iff]
  rw [meant, List.mem_filter, mem_mentions, hnear]
  exact ⟨fun h => ⟨h.1, h.2⟩, fun h => ⟨h.isIn, h.near⟩⟩

/-- The candidates are the names of these mentions. -/
lemma candidates_eq_filterMap (place : Nat) :
    candidates thresholds place s
      = (meant thresholds.alternateMethod place s).filterMap fun m => m.token.name := by
  rw [candidates, methodTokens_eq_map, List.filterMap_map, meant, List.filterMap_filter]
  refine List.filterMap_congr fun m _ => ?_
  have hleftOut (isOut : Bool) (name : Option String) :
      (if isOut then none else name) = if !isOut then name else none := by
    cases isOut <;> rfl
  exact hleftOut _ _

lemma command?_eq_some_iff :
    m.command? state = some c ↔
      m.token.name = some c.canonicalName ∧ state.command? c.canonicalName = some c := by
  rw [Mention.command?, Option.bind_eq_some_iff]
  constructor
  · rintro ⟨name, hname, hc⟩
    obtain rfl := State.canonicalName_of_command? hc
    exact ⟨hname, hc⟩
  · rintro ⟨hname, hc⟩
    exact ⟨_, hname, hc⟩

/-- The commands that these mentions name, but for one, before they are ranked. -/
def others (bar : Float32) (state : State) (s : Sentence) (primary : Mention) (name : String) :
    List TextCommand :=
  (((meant bar primary.place s).filterMap fun m => m.token.name).eraseDups.filter
    (· != name)).filterMap state.command?

lemma mem_others (hcommand : state.command? name = some command) :
    c ∈ others bar state s primary name ↔
      c ≠ command ∧ ∃ m, MayBeMeant bar s primary m ∧ m.command? state = some c := by
  simp only [others, List.mem_filterMap, List.mem_filter, List.mem_eraseDups, mem_meant,
    bne_iff_ne]
  constructor
  · rintro ⟨_, ⟨⟨m, hm, hmc⟩, hne⟩, hc⟩
    obtain rfl := State.canonicalName_of_command? hc
    refine ⟨?_, m, hm, command?_eq_some_iff.mpr ⟨hmc, hc⟩⟩
    rintro rfl
    exact hne (State.canonicalName_of_command? hcommand)
  · rintro ⟨hne, m, hm, hmc⟩
    obtain ⟨hmc, hc⟩ := command?_eq_some_iff.mp hmc
    refine ⟨c.canonicalName, ⟨⟨m, hm, hmc⟩, ?_⟩, hc⟩
    rintro rfl
    exact hne (Option.some.inj (hc.symm.trans hcommand))

lemma pairwise_others :
    (others bar state s primary name).Pairwise fun a b =>
      a ≠ b ∧ IsMentionedBefore bar state s primary a b := by
  have hnames := pairwise_eraseDups_filterMap (f := fun m => m.token.name)
    ((pairwise_mentions s).filter fun m =>
      !(m.place = primary.place && m.token.similarity.isBelow bar))
  refine (hnames.filter _).filterMap _ ?_
  rintro _ _ ⟨hne, m, hm, hma, hfirst⟩ a ha b hb
  obtain rfl := State.canonicalName_of_command? ha
  obtain rfl := State.canonicalName_of_command? hb
  refine ⟨fun hab => hne (congrArg _ hab), m, mem_meant.mp hm,
    command?_eq_some_iff.mpr ⟨hma, ha⟩, fun n hn hnb => ?_⟩
  exact hfirst n (mem_meant.mpr hn) (command?_eq_some_iff.mp hnb).1

/-- The alternates are all commands but the primary one that the mentions beside it name, ranked. -/
lemma areAlternates_alternates (hcommand : state.command? name = some command) :
    AreAlternates thresholds.alternateMethod state s primary command
      (alternates state name (candidates thresholds primary.place s)) := by
  have halternates : alternates state name (candidates thresholds primary.place s)
      = (others thresholds.alternateMethod state s primary name).mergeSort
          fun a b => decide (b.priority ≤ a.priority) := by
    rw [alternates, candidates_eq_filterMap, others]
  have hpairwise : (others thresholds.alternateMethod state s primary name).Pairwise fun a b =>
      a ≠ b ∧ IsMentionedBefore thresholds.alternateMethod state s primary a b := pairwise_others
  rw [halternates]
  constructor
  · intro c
    rw [List.mem_mergeSort, mem_others hcommand]
  · exact (List.mergeSort_perm _ _).nodup_iff.mpr (hpairwise.imp And.left)
  · refine (pairwise_mergeSort_of_pairwise ?_ ?_ hpairwise).imp ?_
    · intro a b c hab hbc
      exact decide_eq_true (Int32.le_trans (of_decide_eq_true hbc) (of_decide_eq_true hab))
    · intro a b
      simpa using Int32.le_total b.priority a.priority
    · rintro a b ⟨hle, hties⟩
      have hle : b.priority ≤ a.priority := of_decide_eq_true hle
      by_cases hge : a.priority ≤ b.priority
      · exact .inr ⟨Int32.le_antisymm hge hle, (hties (decide_eq_true hge)).2⟩
      · exact .inl (Int32.not_le.mp hge)

/-! ### Extraction -/

/-- **A sentence calls the command of its primary mention first, and then those that may be meant
beside it.** If the state has no command of that name, the sentence calls none. In any case what is
left of it are the phrases without the tokens that name commands. -/
theorem extract_of_mentions (hmention : ∃ p ∈ s, ∃ t ∈ p.tokens, isMethod t = true)
    (hnamed : ∀ p ∈ s, ∀ t ∈ p.tokens, isMethod t = true → t.name.isSome = true) :
    ∃ primary name, IsPrimary s primary ∧ primary.token.name = some name
      ∧ (state.command? name = none → (extract thresholds state s).1 = [])
      ∧ (∀ command, state.command? name = some command → ∃ others,
        (extract thresholds state s).1 = command :: others
          ∧ AreAlternates thresholds.alternateMethod state s primary command others)
      ∧ List.Forall₂ (fun p left => left.text = p.text
          ∧ left.tokens = p.tokens.filter fun t => !isMethod t) s (extract thresholds state s).2 := by
  obtain ⟨p, hp, t, ht, hmethod⟩ := hmention
  obtain ⟨place, hplace⟩ := List.mem_iff_getElem?.mp hp
  obtain ⟨number, hnumber⟩ := List.mem_iff_getElem?.mp ht
  obtain ⟨primary, hprimary, hsearch⟩ :=
    exists_isPrimary ⟨⟨place, number, t⟩, ⟨⟨p, hplace, hnumber⟩, hmethod⟩⟩
  obtain ⟨⟨q, hq, htoken⟩, hmethod⟩ := hprimary.isIn
  obtain ⟨name, hname⟩ := Option.isSome_iff_exists.mp (hnamed q (List.mem_of_getElem? hq)
    primary.token (List.mem_of_getElem? htoken) hmethod)
  have hleft : (extract thresholds state s).2 = withoutMethods s := by
    simp only [extract, hsearch, Mention.entry, hname]
    cases state.command? name <;> rfl
  refine ⟨primary, name, hprimary, hname, fun hnone => ?_, fun command hcommand => ?_, ?_⟩
  · simp only [extract, hsearch, Mention.entry, hname, hnone]
  · refine ⟨_, ?_, areAlternates_alternates hcommand⟩
    simp only [extract, hsearch, Mention.entry, hname, hcommand]
  · rw [hleft, withoutMethods, List.forall₂_map_right_iff]
    exact List.forall₂_same.mpr fun p _ => ⟨rfl, rfl⟩

/-! ### Words that are alike -/

def kick : TextCommand := { canonicalName := "kick", aliases := ["kick"], priority := 1 }

def kill : TextCommand := { canonicalName := "kill", aliases := ["kill"], priority := 9 }

def armed : State := { commands := [kick, kill], now := ⟨0⟩ }

/-- A span that is the word for one command, and half as similar to that for the other. -/
def kickOrKill : Phrase where
  text := "kick"
  tokens :=
    [{ text := "kick", name := some "kick", variant := .method, similarity := .hundred },
      { text := "kick", name := some "kill", variant := .method
        similarity := ⟨0x42480000, .inl (by decide)⟩ }]

/-- A span that is the word for the other command. -/
def killOnly : Phrase where
  text := "kill"
  tokens := [{ text := "kill", name := some "kill", variant := .method, similarity := .hundred }]

/-- Of two words that are there the first one's command is the primary one, and the other's comes
behind it, though its priority is higher. -/
theorem extract_kick_kill :
    let s := [kickOrKill, killOnly]
    let thresholds : Thresholds Float32 := .standard
    (extract thresholds armed s).1 = [kick, kill]
      ∧ ∃ primary name, IsPrimary s primary ∧ primary.token.name = some name
        ∧ (armed.command? name = none → (extract thresholds armed s).1 = [])
        ∧ (∀ command, armed.command? name = some command → ∃ others,
          (extract thresholds armed s).1 = command :: others
            ∧ AreAlternates thresholds.alternateMethod armed s primary command others)
        ∧ List.Forall₂ (fun p left => left.text = p.text
            ∧ left.tokens = p.tokens.filter fun t => !isMethod t) s (extract thresholds armed s).2 :=
  ⟨by decide +kernel, extract_of_mentions (by decide) (by decide)⟩

/-- Beside the primary mention, in its own phrase, every mention counts if the bar is no number,
though none reaches it. -/
theorem extract_kickOrKill_of_nan :
    let thresholds : Thresholds Float32 := { Thresholds.standard with
      alternateMethod := .ofBits 0x7fc00000 }
    (extract thresholds armed [kickOrKill]).1 = [kick, kill]
      ∧ ∀ m, Mention.IsIn [kickOrKill] m → m.command? armed = some kill →
        m.place = 0 ∧ m.token.similarity.reaches thresholds.alternateMethod = false := by
  refine ⟨by decide +kernel, fun m hm => ?_⟩
  rw [← mem_mentions] at hm
  revert m
  decide

end Commands

end ChatCommand
