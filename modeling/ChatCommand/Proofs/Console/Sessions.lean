/-
What lines change of a session.

* `Turn`, `Console.evalAll`: lines one after the other, between which others may touch the files;
* `Session.effect?`: what a line that succeeds makes of the state and the files;
* `Console.exists_run_perform`: **a request that succeeds has this effect, one that fails none**;
* `Request.prefix_of_changesState`: the words with which a line begins that changes the state;
* `Console.evalAll_frozen`: **a session with a frozen clock is changed by loading and by naming a
  speaker alone, whatever is typed, and the words that are completed are always its own**.
-/
import ChatCommand.Console.Basic
import ChatCommand.Proofs.Console.Files

namespace ChatCommand

/-! ### Turns -/

/-- A line that is typed, and what others did to the files and the clock before it. -/
structure Turn where
  meanwhile : Transcript → Transcript := id
  line : String

/-- The console after some lines. -/
def Console.evalAll (c : Console) : List Turn → StateM Transcript Console
  | [] => return c
  | turn :: rest => do
    modify turn.meanwhile
    let (_, c) ← c.eval turn.line
    c.evalAll rest

/-! ### Effects -/

/-- The state of the snapshot that a path leads to. -/
def Transcript.loaded? (t : Transcript) (path : String) : Option State := do
  let bytes ← (t.files.read path).toOption
  (State.ofBytes? t.now bytes (.ofPath path)).toOption

namespace Session

/-- What a request that succeeds makes of the state and of the files. `none` if it fails. -/
def effect? (s : Session) (t : Transcript) : Request → Option (State × Transcript)
  | .load path => (t.loaded? path).map fun state => (state, t)
  | .setSpeaker name =>
    (s.state.players.find? fun p => Text.equalsIgnoringAsciiCase p.name name).map fun p =>
      ({ s.state with speaker := some p }, t)
  | .save path =>
    (t.files.write path (s.state.toBytes (.ofPath path))).toOption.map fun files =>
      (s.state, { t with files })
  | .read text => (s.parse text).toOption.map fun _ => (s.state, t)
  | .withoutPath _ | .unknown _ => none
  | .quit | .help | .players | .maps | .items | .commands | .speaker => some (s.state, t)

/-- The state and the files after a request, which leaves them as they are if it fails. -/
def after (s : Session) (t : Transcript) (r : Request) : State × Transcript :=
  (s.effect? t r).getD (s.state, t)

/-- The state and the files after what others do and one more line. -/
def afterTurn (s : Session) : State × Transcript → Turn → State × Transcript
  | (state, t), turn => { s with state }.after (turn.meanwhile t) (.ofLine turn.line)

end Session

/-! ### Single requests -/

namespace Transcript

/-- A state is loaded if there is a snapshot. The files stay as they are. -/
lemma exists_run_readSnapshot (path : String) (t : Transcript) :
    ∃ result, (readSnapshot path : StateM Transcript (Except Error State)).run t = (result, t)
      ∧ result.toOption = t.loaded? path := by
  cases hread : t.files.read path with
  | ok bytes =>
      refine ⟨_, run_readSnapshot hread, ?_⟩
      simp [loaded?, hread, Except.toOption]
  | error fault =>
      have hnone : t.loaded? path = none := by simp [loaded?, hread, Except.toOption]
      rw [hnone]
      cases fault <;> exact ⟨.error _, by simp [readSnapshot, Host.readFile, hread]; rfl, rfl⟩

end Transcript

namespace Console

variable {s : Session} {t : Transcript}

/-- Under a frozen clock reading an input changes nothing. -/
lemma exists_run_read (hfrozen : s.frozen = true) (text : String) (t : Transcript) :
    ∃ reply, ((ofSession s).read text : StateM Transcript _).run t = ((reply, ofSession s), t)
      ∧ reply.isOk = (s.parse text).isOk := by
  have hclock : s.atTime t.now = s := if_pos hfrozen
  have hrun : ∃ reply, ((ofSession s).read text : StateM Transcript _).run t
        = ((reply, { ofSession s with session := s.atTime t.now }), t)
      ∧ reply.isOk = ((s.atTime t.now).parse text).isOk := by
    refine ⟨_, rfl, ?_⟩
    show (((s.atTime t.now).parse text).map _).isOk = ((s.atTime t.now).parse text).isOk
    cases (s.atTime t.now).parse text <;> rfl
  rwa [hclock] at hrun

/-- **A request that succeeds has its effect, and one that fails has none.** -/
theorem exists_run_perform (hfrozen : s.frozen = true) (t : Transcript) (r : Request) :
    ∃ reply, ((ofSession s).perform r : StateM Transcript _).run t
        = ((reply, ofSession { s with state := (s.after t r).1 }), (s.after t r).2)
      ∧ reply.isOk = (s.effect? t r).isSome := by
  cases r with
  | load path =>
      obtain ⟨result, hrun, hresult⟩ := Transcript.exists_run_readSnapshot path t
      simp only [perform, load, StateT.run_bind, hrun, Session.after, Session.effect?, ← hresult]
      cases result with
      | ok state => exact ⟨_, rfl, rfl⟩
      | error e => exact ⟨_, rfl, rfl⟩
  | setSpeaker name =>
      simp only [perform, setSpeaker, State.withSpeaker?, State.playerNamed?, Session.after,
        Session.effect?, ofSession]
      cases s.state.players.find? fun p => Text.equalsIgnoringAsciiCase p.name name with
      | some p => exact ⟨.ok (.text _), rfl, rfl⟩
      | none => exact ⟨.error _, rfl, rfl⟩
  | save path =>
      have hrun := Transcript.run_writeSnapshot s.state path t
      simp only [perform, save, StateT.run_bind, Session.after, Session.effect?]
      cases hwrite : t.files.write path (s.state.toBytes (.ofPath path)) with
      | ok files =>
          rw [hwrite] at hrun
          exact ⟨.ok _, by rw [ofSession, hrun]; rfl, rfl⟩
      | error e =>
          rw [hwrite] at hrun
          exact ⟨.error _, by rw [ofSession, hrun]; rfl, rfl⟩
  | read text =>
      obtain ⟨reply, hrun, hreply⟩ := exists_run_read hfrozen text t
      have hafter : s.after t (.read text) = (s.state, t) := by
        rw [Session.after, Session.effect?]
        cases s.parse text <;> rfl
      rw [hafter]
      refine ⟨reply, hrun, hreply.trans ?_⟩
      rw [Session.effect?]
      cases s.parse text <;> rfl
  | withoutPath _ | unknown _ => exact ⟨.error _, rfl, rfl⟩
  | quit | help | players | maps | items | commands | speaker => exact ⟨.ok _, rfl, rfl⟩

end Console

/-! ### Lines -/

namespace Request

variable {line : String}

/-- What may change the state. -/
def changesState : Request → Bool
  | load _ | setSpeaker _ => true
  | _ => false

lemma name_of_changesState {name argument : String}
    (h : (ofName name argument).changesState = true) : name = "load" ∨ name = "speaker" := by
  unfold ofName at h
  split at h
  all_goals first
    | contradiction
    | exact .inl rfl
    | exact .inr rfl
    | split at h <;> contradiction

/-- A line that may change the state begins with one of two words behind a colon. -/
lemma prefix_of_changesState (h : (ofLine line).changesState = true) :
    ":load".toList <+: Text.trim line.toList ∨ ":speaker".toList <+: Text.trim line.toList := by
  rw [ofLine] at h
  split at h
  · next rest hline =>
      rw [hline, ← List.takeWhile_append_dropWhile (p := fun c => !Text.isBlank c) (l := rest)]
      rw [List.span_eq_takeWhile_dropWhile] at h
      rcases name_of_changesState h with hname | hname
      · rw [← String.toList_ofList (l := rest.takeWhile _), hname]
        exact .inl (List.prefix_append _ _)
      · rw [← String.toList_ofList (l := rest.takeWhile _), hname]
        exact .inr (List.prefix_append _ _)
  · contradiction

end Request

/-- Other requests leave the state as it is. -/
lemma Session.after_of_not_changesState {s : Session} {r : Request} (h : r.changesState = false)
    (t : Transcript) : (s.after t r).1 = s.state := by
  cases r with
  | load _ | setSpeaker _ => contradiction
  | save path =>
      rw [after, effect?]
      cases t.files.write path (s.state.toBytes (.ofPath path)) <;> rfl
  | read text =>
      rw [after, effect?]
      cases s.parse text <;> rfl
  | withoutPath _ | unknown _ => rfl
  | quit | help | players | maps | items | commands | speaker => rfl

/-! ### Many lines -/

namespace Console

variable {s : Session}

/-- The state and the files after some lines are what the effects of the lines make of them. -/
lemma run_evalAll (hfrozen : s.frozen = true) (turns : List Turn) (t : Transcript) :
    ((ofSession s).evalAll turns).run t
      = (ofSession { s with state := (turns.foldl s.afterTurn (s.state, t)).1 },
          (turns.foldl s.afterTurn (s.state, t)).2) := by
  induction turns generalizing s t with
  | nil => rfl
  | cons turn turns ih =>
      obtain ⟨reply, hrun, -⟩ := exists_run_perform hfrozen (turn.meanwhile t) (.ofLine turn.line)
      rw [evalAll, StateT.run_bind, StateT.run_modify, pure_bind, StateT.run_bind, eval, hrun]
      exact ih (s := { s with state := (s.after (turn.meanwhile t) (.ofLine turn.line)).1 })
        hfrozen _

/-- **Only loading and naming a speaker change a session with a frozen clock.** Whatever is typed,
and whatever files there are at each line: the state afterwards is what the effects of the lines
make of the first one, where a snapshot that is loaded takes its place and the first player of a
name becomes the speaker, and the words that are completed are those of this state. On every
further line exactly those requests succeed that have an effect, a line with an error leaves
everything as it was, and one that does not begin with either request leaves the state as it
was. -/
theorem evalAll_frozen (hfrozen : s.frozen = true) (turns : List Turn) (t : Transcript) :
    let last := turns.foldl s.afterTurn (s.state, t)
    let reached := ofSession { s with state := last.1 }
    ((ofSession s).evalAll turns).run t = (reached, last.2)
      ∧ reached.completions = reached.session.completions
      ∧ ∀ (t' : Transcript) (line : String), ∃ reply c files,
        (reached.eval line : StateM Transcript _).run t' = ((reply, c), files)
          ∧ c.session.state = (reached.session.after t' (.ofLine line)).1
          ∧ reply.isOk = (reached.session.effect? t' (.ofLine line)).isSome
          ∧ (reply.isOk = false → c = reached ∧ files = t')
          ∧ (¬":load".toList <+: Text.trim line.toList →
            ¬":speaker".toList <+: Text.trim line.toList → c = reached) := by
  intro last reached
  refine ⟨run_evalAll hfrozen turns t, rfl, fun t' line => ?_⟩
  obtain ⟨reply, hrun, hreply⟩ :=
    exists_run_perform (s := reached.session) hfrozen t' (.ofLine line)
  refine ⟨reply, _, _, hrun, rfl, hreply, fun herror => ?_, fun hload hspeaker => ?_⟩
  · rw [hreply, Option.isSome_eq_false_iff, Option.isNone_iff_eq_none] at herror
    rw [Session.after, herror]
    exact ⟨rfl, rfl⟩
  · have hkeeps : (Request.ofLine line).changesState = false := by
      rw [Bool.eq_false_iff]
      intro hchanges
      exact (Request.prefix_of_changesState hchanges).elim hload hspeaker
    rw [Session.after_of_not_changesState hkeeps]
    rfl

/-- A name that nobody has changes nothing, a player is found whatever the case of the name, and a
snapshot that is loaded takes the place of all that. -/
theorem evalAll_frozen_three :
    let phogue : Player := { uid := "1", name := "Phogue" }
    let s : Session :=
      { parser := { catalog := .empty }, state := { players := [phogue], now := ⟨0⟩ }
        frozen := true }
    let t : Transcript := { files := [(⟨some 0, ["new.json"]⟩, "{}".toUTF8.toList)], now := ⟨7⟩ }
    let named : List Turn := [{ line := ":speaker nobody" }, { line := ":speaker PHOGUE" }]
    (((ofSession s).evalAll named).run t).1.session.state = { s.state with speaker := some phogue }
      ∧ (((ofSession s).evalAll (named ++ [{ line := ":load new.json" }])).run t).1.session.state
        = { now := ⟨7⟩ } := by
  intro phogue s t named
  obtain ⟨hnamed, -⟩ := evalAll_frozen (s := s) rfl named t
  obtain ⟨hloaded, -⟩ := evalAll_frozen (s := s) rfl (named ++ [{ line := ":load new.json" }]) t
  rw [hnamed, hloaded]
  exact ⟨by decide +kernel, by decide +kernel⟩

end Console

end ChatCommand
