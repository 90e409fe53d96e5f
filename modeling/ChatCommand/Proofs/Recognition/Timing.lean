/-
When a command is carried out.

A match takes the times of a sentence in order, each for its use unless something has been taken
for this use before. A time that points at no moment leaves nothing behind, so the next one of its
use takes its place.

* `TimePattern.isFor`, `Sentence.times`: the uses of a time, and the times of a sentence;
* `CommandMatch.TakesFirst`: for each use the first time is taken, whatever it points at;
* `TimePattern.DecidedByFirst`: where the first time of a use points at no moment, none does;
* `findSome?_eq_bind_find?_iff`: the first result is that of the first element looked at exactly if
  this has a result or none has;
* `CommandMatch.times_foldl_absorb`: what is taken from some tokens, for each use;
* `CommandMatch.takesFirst_assemble_iff`: **for each use the first time that points at a moment is
  taken, which is the first time of the use exactly where that decides**.
-/
import ChatCommand.Proofs.Recognition.Telling

namespace ChatCommand

/-! ### Times of a sentence -/

/-- Whether a command takes the time for the use. A time without a use is taken for a period. -/
def TimePattern.isFor (use : TimeUse) (p : TimePattern) : Bool :=
  p.use = use ∨ use = .period ∧ p.use = .unspecified

/-- The time that a token gives. -/
def Token.givenTime? (t : Token) : Option TimePattern :=
  match t.variant, t.value with
  | .dateTime, some (.time p) => some p
  | _, _ => none

/-- The times that the preferred tokens of a sentence give, in order. -/
def Sentence.times (s : Sentence) : List TimePattern :=
  (s.filterMap Phrase.best?).filterMap Token.givenTime?

/-- Where the first time for a use points at no moment, no time for it does. -/
def TimePattern.DecidedByFirst (use : TimeUse) (now : Instant) (times : List TimePattern) : Prop :=
  (times.find? (isFor use)).bind (·.resolve? now) = none →
    ∀ p ∈ times, p.isFor use = true → p.resolve? now = none

/-- A search among the elements that pass a test has the result of the first of them exactly if it
has one or none of them has. -/
lemma findSome?_eq_bind_find?_iff {α β : Type} {test : α → Bool} {f : α → Option β} {l : List α} :
    (l.findSome? fun a => if test a = true then f a else none) = (l.find? test).bind f ↔
      ((l.find? test).bind f = none → ∀ a ∈ l, test a = true → f a = none) := by
  induction l with
  | nil => simp
  | cons a l ih =>
      cases htest : test a with
      | false => simpa [List.findSome?_cons, htest] using ih
      | true => cases hresult : f a <;> simp [htest, hresult]

namespace CommandMatch

open TimePattern (isFor DecidedByFirst)

variable {now : Instant} {p : TimePattern}

/-- For each use the match has what the first time for it gives, which may be nothing. -/
structure TakesFirst (m : CommandMatch) (now : Instant) (times : List TimePattern) : Prop where
  delay : m.delay = (times.find? (isFor .delay)).bind (·.resolve? now)
  period : m.period = (times.find? (isFor .period)).bind (·.duration? now)
  interval : m.interval = (times.find? (isFor .interval)).map TimePattern.interval

/-! ### Uses -/

lemma delayOf?_eq :
    delayOf? now = fun p => if p.isFor .delay = true then p.resolve? now else none := by
  funext p
  simp [delayOf?, isFor]

lemma periodOf?_eq :
    periodOf? now = fun p => if p.isFor .period = true then p.duration? now else none := by
  funext p
  simp [periodOf?, isFor]

lemma intervalOf?_eq :
    intervalOf? = fun p => if p.isFor .interval = true then some p.interval else none := by
  funext p
  simp [intervalOf?, isFor]

/-- A time gives a span exactly if it points at a moment. -/
lemma duration?_eq_none_iff : p.duration? now = none ↔ p.resolve? now = none :=
  Option.map_eq_none_iff

/-! ### Tokens -/

/-- What a token gives is taken for its use unless there is something. -/
lemma times_absorb (state : State) (m : CommandMatch) (t : Token) :
    (m.absorb state t).delay = m.delay.or (t.givenTime?.bind (delayOf? state.now))
      ∧ (m.absorb state t).period = m.period.or (t.givenTime?.bind (periodOf? state.now))
      ∧ (m.absorb state t).interval = m.interval.or (t.givenTime?.bind intervalOf?) := by
  cases htime : t.givenTime? with
  | none =>
      simp only [Option.bind_none, Option.or_none]
      unfold absorb
      split
      case h_8 p hvariant hvalue => simp [Token.givenTime?, hvariant, hvalue] at htime
      all_goals exact ⟨rfl, rfl, rfl⟩
  | some p =>
      have habsorb : m.absorb state t = m.addTime state.now p := by
        unfold Token.givenTime? at htime
        split at htime
        · next hvariant hvalue =>
            obtain rfl := Option.some.inj htime
            simp only [absorb, hvariant, hvalue]
        · contradiction
      rw [habsorb]
      exact times_addTime m state.now p

/-- Of some tokens, for each use the first time that gives something is taken, unless there is
something before. -/
lemma times_foldl_absorb (state : State) (tokens : List Token) (m : CommandMatch) :
    (tokens.foldl (absorb state) m).delay
        = m.delay.or ((tokens.filterMap Token.givenTime?).findSome? (delayOf? state.now))
      ∧ (tokens.foldl (absorb state) m).period
        = m.period.or ((tokens.filterMap Token.givenTime?).findSome? (periodOf? state.now))
      ∧ (tokens.foldl (absorb state) m).interval
        = m.interval.or ((tokens.filterMap Token.givenTime?).findSome? intervalOf?) := by
  induction tokens generalizing m with
  | nil => simp
  | cons t tokens ih =>
      obtain ⟨hdelay, hperiod, hinterval⟩ := times_absorb state m t
      obtain ⟨hdelays, hperiods, hintervals⟩ := ih (m.absorb state t)
      have hsplit {β : Type} (f : TimePattern → Option β) :
          ((t :: tokens).filterMap Token.givenTime?).findSome? f
            = (t.givenTime?.bind f).or ((tokens.filterMap Token.givenTime?).findSome? f) := by
        cases htime : t.givenTime? with
        | none => rw [List.filterMap_cons_none htime, Option.bind_none, Option.none_or]
        | some p =>
            rw [List.filterMap_cons_some htime, List.findSome?_cons, Option.bind_some]
            cases f p <;> rfl
      rw [List.foldl_cons, hsplit, hsplit, hsplit, ← Option.or_assoc, ← Option.or_assoc,
        ← Option.or_assoc, ← hdelay, ← hperiod, ← hinterval]
      exact ⟨hdelays, hperiods, hintervals⟩

/-! ### Sentences -/

/-- **For each use the first time that points at a moment is taken**, as every interval does. It is
the first time for the use exactly if that points at a moment or no other for the use does. -/
theorem takesFirst_assemble_iff (mark : String) (commands : List TextCommand) (s : Sentence)
    (state : State) :
    (assemble mark commands s state).delay = s.times.findSome? (delayOf? state.now)
      ∧ (assemble mark commands s state).period = s.times.findSome? (periodOf? state.now)
      ∧ (assemble mark commands s state).interval
        = (s.times.find? (isFor .interval)).map TimePattern.interval
      ∧ ((assemble mark commands s state).TakesFirst state.now s.times ↔
          DecidedByFirst .delay state.now s.times ∧ DecidedByFirst .period state.now s.times) := by
  obtain ⟨hdelay, hperiod, hinterval⟩ := times_foldl_absorb state
    (s.filterMap Phrase.best?) { mark, commands, speaker := state.speaker }
  rw [Option.none_or] at hdelay hperiod hinterval
  have hfirst : s.times.findSome? intervalOf?
      = (s.times.find? (isFor .interval)).map TimePattern.interval := by
    rw [intervalOf?_eq, Option.map_eq_bind]
    refine findSome?_eq_bind_find?_iff.mpr fun hnone p hp hfor => ?_
    have hno := Option.map_eq_none_iff.mp (Option.map_eq_bind.trans hnone)
    exact absurd hfor (List.find?_eq_none.mp hno p hp)
  refine ⟨hdelay, hperiod, hinterval.trans hfirst, ?_⟩
  have hdelays : s.times.findSome? (delayOf? state.now)
      = (s.times.find? (isFor .delay)).bind (·.resolve? state.now) ↔
        DecidedByFirst .delay state.now s.times := by
    rw [delayOf?_eq]
    exact findSome?_eq_bind_find?_iff
  have hperiods : s.times.findSome? (periodOf? state.now)
      = (s.times.find? (isFor .period)).bind (·.duration? state.now) ↔
        DecidedByFirst .period state.now s.times := by
    rw [periodOf?_eq, findSome?_eq_bind_find?_iff]
    simp only [DecidedByFirst, Option.bind_eq_none_iff, duration?_eq_none_iff]
  rw [← hdelays, ← hperiods]
  exact ⟨fun h => ⟨hdelay.symm.trans h.delay, hperiod.symm.trans h.period⟩,
    fun h => ⟨hdelay.trans h.1, hperiod.trans h.2, hinterval.trans hfirst⟩⟩

/-- A command that is to wait far longer than the calendar lasts, and then for five minutes, waits
for five minutes. -/
theorem not_takesFirst_far_delay :
    ∃ (s : Sentence) (state : State),
      (s.times.find? (isFor .delay)).bind (·.resolve? state.now) = none
        ∧ (assemble "!" [] s state).delay = some ⟨300000000000⟩
        ∧ ¬(assemble "!" [] s state).TakesFirst state.now s.times := by
  let token (text : String) (p : TimePattern) : Phrase :=
    .ofToken text
      { text, variant := .dateTime, value := some (.time p), similarity := .hundred }
  let far : TimePattern := { use := .delay, year := some 99999999999 }
  let soon : TimePattern := { use := .delay, minute := some 5 }
  let s : Sentence := [token "in 99999999999 years" far, token "in 5 minutes" soon]
  let state : State := { now := ⟨0⟩ }
  have hnone : (s.times.find? (isFor .delay)).bind (·.resolve? state.now) = none := by
    decide +kernel
  have hdelay : (assemble "!" [] s state).delay = some ⟨300000000000⟩ := by decide +kernel
  refine ⟨s, state, hnone, hdelay, fun h => ?_⟩
  have hfirst := h.delay
  rw [hnone, hdelay] at hfirst
  exact Option.some_ne_none _ hfirst

end CommandMatch

end ChatCommand
