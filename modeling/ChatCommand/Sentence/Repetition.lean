/-
Repetition with a budget.

* `Repetition.run`: repeats a step as long as it applies and the budget lasts;
* `Repetition.trail`: everything that such a run passes through;
* `Repetition.step?_run_eq_none`, `Repetition.run_add`: a run that does not exceed its budget ends
  where the step does not apply, and a greater budget changes nothing;
* `Repetition.run_induction`, `Repetition.trail_induction`: what every step keeps, a run keeps, and
  it holds all along;
* `Repetition.map_run`, `Repetition.map_trail`: corresponding steps make corresponding runs;
* `Repetition.run_of_decreasing`, `Repetition.length_trail_add_le`: where every step makes a number
  smaller, a run takes no more steps than the number falls by, and that budget suffices.
-/

namespace ChatCommand

namespace Repetition

variable {α : Type}

/-- Repeats a step at most `budget` times, and tells whether it would have gone on. -/
def run (step? : α → Option α) (budget : Nat) (a : α) : α × Bool :=
  match step? a with
  | none => (a, false)
  | some b =>
    match budget with
    | 0 => (a, true)
    | rest + 1 => run step? rest b

/-- What a run passes through, from the start to the end. -/
def trail (step? : α → Option α) (budget : Nat) (a : α) : List α :=
  match step? a with
  | none => [a]
  | some b =>
    match budget with
    | 0 => [a]
    | rest + 1 => a :: trail step? rest b

/-! ### Runs -/

/-- Where the step does not apply, a run ends at once. -/
theorem run_of_eq_none {step? : α → Option α} {a : α} (h : step? a = none) (budget : Nat) :
    run step? budget a = (a, false) := by
  rw [run.eq_def, h]

/-- Without a budget a run ends where it starts, and tells whether the step applies there. -/
theorem run_zero (step? : α → Option α) (a : α) :
    run step? 0 a = (a, (step? a).isSome) := by
  rw [run.eq_def]
  cases step? a <;> rfl

/-- A run with a budget takes the first step and goes on with one step less. -/
theorem run_succ {step? : α → Option α} {a b : α} (h : step? a = some b) (budget : Nat) :
    run step? (budget + 1) a = run step? budget b := by
  rw [run.eq_def, h]

/-- A run that would not have gone on ends where the step does not apply. -/
theorem step?_run_eq_none {step? : α → Option α} {budget : Nat} {a : α}
    (h : (run step? budget a).2 = false) : step? (run step? budget a).1 = none := by
  induction budget generalizing a with
  | zero => simpa [run_zero] using h
  | succ budget ih =>
    cases hs : step? a with
    | none => rw [run_of_eq_none hs, hs]
    | some b =>
      rw [run_succ hs] at h ⊢
      exact ih h

/-- A run that would have gone on ends where the step applies. -/
theorem isSome_step?_run {step? : α → Option α} {budget : Nat} {a : α}
    (h : (run step? budget a).2 = true) : (step? (run step? budget a).1).isSome := by
  induction budget generalizing a with
  | zero => simpa [run_zero] using h
  | succ budget ih =>
    cases hs : step? a with
    | none => simp [run_of_eq_none hs] at h
    | some b =>
      rw [run_succ hs] at h ⊢
      exact ih h

/-- A budget that suffices may be raised. -/
theorem run_add {step? : α → Option α} {budget : Nat} {a : α}
    (h : (run step? budget a).2 = false) (more : Nat) :
    run step? (budget + more) a = run step? budget a := by
  induction budget generalizing a with
  | zero =>
    have hs : step? a = none := by simpa [run_zero] using h
    rw [run_of_eq_none hs, run_of_eq_none hs]
  | succ budget ih =>
    cases hs : step? a with
    | none => rw [run_of_eq_none hs, run_of_eq_none hs]
    | some b =>
      rw [Nat.succ_add, run_succ hs, run_succ hs]
      exact ih (by rwa [run_succ hs] at h)

/-- What every step keeps, a run keeps. -/
theorem run_induction {step? : α → Option α} {p : α → Prop}
    (keeps : ∀ a b, p a → step? a = some b → p b) {budget : Nat} {a : α} (h : p a) :
    p (run step? budget a).1 := by
  induction budget generalizing a with
  | zero => simpa [run_zero] using h
  | succ budget ih =>
    cases hs : step? a with
    | none => rwa [run_of_eq_none hs]
    | some b =>
      rw [run_succ hs]
      exact ih (keeps a b h hs)

/-! ### Trails -/

/-- A run ends where its trail ends. -/
theorem getLast?_trail (step? : α → Option α) (budget : Nat) (a : α) :
    (trail step? budget a).getLast? = some (run step? budget a).1 := by
  induction budget generalizing a with
  | zero =>
    rw [run_zero, trail.eq_def]
    cases step? a <;> rfl
  | succ budget ih =>
    rw [trail.eq_def]
    cases hs : step? a with
    | none => simp [run_of_eq_none hs]
    | some b =>
      have hne : trail step? budget b ≠ [] := by
        intro h
        simpa [h] using ih b
      rw [run_succ hs]
      obtain ⟨c, rest, hc⟩ := List.exists_cons_of_ne_nil hne
      simpa [hc] using ih b

/-- What every step keeps holds all along a trail. -/
theorem trail_induction {step? : α → Option α} {p : α → Prop}
    (keeps : ∀ a b, p a → step? a = some b → p b) {budget : Nat} {a : α} (h : p a) :
    ∀ b ∈ trail step? budget a, p b := by
  induction budget generalizing a with
  | zero =>
    rw [trail.eq_def]
    cases step? a <;> simpa using h
  | succ budget ih =>
    rw [trail.eq_def]
    cases hs : step? a with
    | none => simpa using h
    | some b => exact List.forall_mem_cons.mpr ⟨h, ih (keeps a b h hs)⟩

/-- A trail is at most one longer than the budget. -/
theorem length_trail_le (step? : α → Option α) (budget : Nat) (a : α) :
    (trail step? budget a).length ≤ budget + 1 := by
  induction budget generalizing a with
  | zero =>
    rw [trail.eq_def]
    cases step? a <;> simp
  | succ budget ih =>
    rw [trail.eq_def]
    cases step? a with
    | none => simp
    | some b => simpa using ih b

/-- A trail begins where it starts. -/
theorem head?_trail (step? : α → Option α) (budget : Nat) (a : α) :
    (trail step? budget a).head? = some a := by
  rw [trail.eq_def]
  cases step? a with
  | none => rfl
  | some b => cases budget <;> rfl

/-! ### Corresponding steps -/

section Map

variable {β : Type} {f : α → β} {step? : α → Option α} {image? : β → Option β}

/-- A run is mapped to a run by what maps each step to a step. -/
theorem map_run (h : ∀ a, (step? a).map f = image? (f a)) (budget : Nat) (a : α) :
    run image? budget (f a) = (f (run step? budget a).1, (run step? budget a).2) := by
  induction budget generalizing a with
  | zero =>
    rw [run_zero, run_zero, ← h a, Option.isSome_map]
  | succ budget ih =>
    have ha := h a
    cases hs : step? a with
    | none =>
      rw [hs] at ha
      rw [run_of_eq_none hs, run_of_eq_none ha.symm]
    | some b =>
      rw [hs] at ha
      rw [run_succ hs, run_succ ha.symm]
      exact ih b

/-- A trail is mapped to a trail by what maps each step to a step. -/
theorem map_trail (h : ∀ a, (step? a).map f = image? (f a)) (budget : Nat) (a : α) :
    (trail step? budget a).map f = trail image? budget (f a) := by
  induction budget generalizing a with
  | zero =>
    rw [trail.eq_def, trail.eq_def image?, ← h a]
    cases step? a <;> rfl
  | succ budget ih =>
    rw [trail.eq_def, trail.eq_def image?, ← h a]
    cases step? a with
    | none => rfl
    | some b => exact congrArg (f a :: ·) (ih b)

end Map

/-! ### Steps that make a number smaller -/

/-- Where every step makes a number smaller, a budget of that number is not exceeded. -/
theorem run_of_decreasing (step? : α → Option α) {size : α → Nat}
    (smaller : ∀ a b, step? a = some b → size b < size a) {budget : Nat} {a : α}
    (h : size a ≤ budget) : (run step? budget a).2 = false := by
  induction budget generalizing a with
  | zero =>
    cases hs : step? a with
    | none => rw [run_of_eq_none hs]
    | some b =>
      have := smaller a b hs
      omega
  | succ budget ih =>
    cases hs : step? a with
    | none => rw [run_of_eq_none hs]
    | some b =>
      have := smaller a b hs
      rw [run_succ hs]
      exact ih (by omega)

/-- Where every step makes a number smaller, a run takes no more steps than the number falls by. -/
theorem length_trail_add_le (step? : α → Option α) {size : α → Nat}
    (smaller : ∀ a b, step? a = some b → size b < size a) (budget : Nat) (a : α) :
    (trail step? budget a).length - 1 + size (run step? budget a).1 ≤ size a := by
  induction budget generalizing a with
  | zero =>
    rw [run_zero, trail.eq_def]
    cases step? a <;> simp
  | succ budget ih =>
    rw [trail.eq_def]
    cases hs : step? a with
    | none => simp [run_of_eq_none hs]
    | some b =>
      have := smaller a b hs
      have := ih b
      rw [run_succ hs]
      simp only [List.length_cons]
      omega

end Repetition

end ChatCommand
