/-
Rewriting with a budget and without one.

* `Repetition.Leads`: so many steps lead from here to there;
* `Repetition.run_of_leads`, `Repetition.run_of_goesOn`: a run with a budget that suffices ends
  where no step leads on, any other run after as many steps as its budget allows;
* `Sentence.MergesAt`, `Sentence.Merges`: merging the first neighbours that read as one at least as
  well as each of them, which is what one merge does;
* `Sentence.reduce_of_leads`: a reduction ends where its steps lead, if the budget suffices;
* `Sentence.CutsOff`: a loop with a budget does what the loop without one does, and stops short of
  it only where the budget ends;
* `Sentence.cutsOff_refactor_reduce`: **merging in whatever stage and reduction are such loops**.
-/
import ChatCommand.Proofs.Sentence.Confidence
import ChatCommand.Proofs.Sentence.Redexes

namespace ChatCommand

/-! ### Runs and steps -/

namespace Repetition

variable {α : Type}

/-- So many steps lead from here to there. -/
inductive Leads (step : α → α → Prop) : Nat → α → α → Prop
  | stay (a : α) : Leads step 0 a a
  | step {n : Nat} {a b c : α} (first : step a b) (rest : Leads step n b c) : Leads step (n + 1) a c

variable {step? : α → Option α} {step : α → α → Prop}

lemma Leads.trans {n m : Nat} {a b c : α} (hab : Leads step n a b) (hbc : Leads step m b c) :
    Leads step (n + m) a c := by
  induction hab with
  | stay a => rwa [Nat.zero_add]
  | step first _ ih =>
      rw [Nat.succ_add]
      exact .step first (ih hbc)

/-- A run whose budget suffices ends where no step leads on. -/
lemma run_of_leads (hstep : ∀ a b, step? a = some b ↔ step a b) {n budget : Nat} {a b : α}
    (h : Leads step n a b) (hb : ∀ c, ¬step b c) (hn : n ≤ budget) :
    run step? budget a = (b, false) := by
  induction h generalizing budget with
  | stay a =>
      have hnone : step? a = none :=
        Option.eq_none_iff_forall_ne_some.mpr fun c hc => hb c ((hstep a c).mp hc)
      exact run_of_eq_none hnone budget
  | step first _ ih =>
      obtain ⟨budget, rfl⟩ := Nat.exists_eq_add_of_le' (Nat.lt_of_lt_of_le (Nat.succ_pos _) hn)
      rw [run_succ ((hstep _ _).mpr first)]
      exact ih hb (by omega)

/-- A run that goes on where its budget ends takes as many steps as the budget allows. -/
lemma run_of_goesOn (hstep : ∀ a b, step? a = some b ↔ step a b) {budget : Nat} {a b c : α}
    (h : Leads step budget a b) (hb : step b c) : run step? budget a = (b, true) := by
  induction h with
  | stay a => rw [run_zero, (hstep _ _).mpr hb, Option.isSome_some]
  | step first _ ih =>
      rw [run_succ ((hstep _ _).mpr first)]
      exact ih hb

/-- Within a budget either no step leads on any more, or the whole budget is used. -/
lemma leads_or (step : α → α → Prop) (budget : Nat) (a : α) :
    (∃ n ≤ budget, ∃ b, Leads step n a b ∧ ∀ c, ¬step b c) ∨
      ∃ b c, Leads step budget a b ∧ step b c := by
  induction budget generalizing a with
  | zero =>
      by_cases h : ∃ c, step a c
      · exact .inr ⟨a, h.choose, .stay a, h.choose_spec⟩
      · exact .inl ⟨0, Nat.le_refl 0, a, .stay a, not_exists.mp h⟩
  | succ budget ih =>
      by_cases h : ∃ b, step a b
      · obtain ⟨b, hab⟩ := h
        rcases ih b with ⟨n, hn, c, hc, hlast⟩ | ⟨c, d, hc, hcd⟩
        · exact .inl ⟨n + 1, by omega, c, .step hab hc, hlast⟩
        · exact .inr ⟨c, d, .step hab hc, hcd⟩
      · exact .inl ⟨0, Nat.zero_le _, a, .stay a, not_exists.mp h⟩

end Repetition

/-! ### The first merge -/

namespace Sentence

variable {ctx : Context} {stage : Stage} {s : Sentence}

/-- Two or more neighbours merge into the phrase: it is their joined text as all stages up to this
one read it, and its preferred reading is at least as similar as that of each of them. -/
def MergesAt (ctx : Context) (stage : Stage) (s : Sentence) (r : Splice) : Prop :=
  2 ≤ r.count ∧ r.offset + r.count ≤ s.length
    ∧ r.phrase = ctx.tokenizeText stage (joinText (s.window r.offset r.count))
    ∧ ∃ best ∈ r.phrase.best?,
        ∀ p ∈ s.window r.offset r.count, p.bestSimilarity ≤ best.similarity

/-- The second sentence is the first with the first neighbours merged that do, fewer before more
and left before right. In the last stage nothing is merged. -/
def Merges (ctx : Context) (stage : Stage) (s s' : Sentence) : Prop :=
  stage ≠ .reduction ∧ ∃ r, s.MergesAt ctx stage r ∧ s' = s.splice r
    ∧ ∀ r', s.MergesAt ctx stage r' →
        r.count < r'.count ∨ r.count = r'.count ∧ r.offset ≤ r'.offset

lemma mergesAt_iff {r : Splice} :
    s.MergesAt ctx stage r ↔
      (r.offset, r.count) ∈ s.mergePlaces
        ∧ ctx.merge? stage (s.window r.offset r.count) = some r.phrase := by
  rw [MergesAt, mem_mergePlaces, Context.merge?_eq_some_iff, and_assoc]
  refine and_congr_right fun _ => and_congr_right fun _ => and_congr_right fun _ => ?_
  refine exists_congr fun best => and_congr_right fun _ => ⟨fun hle => ?_, fun hle p hp => ?_⟩
  · exact Score.greatest_le (List.forall_mem_map.mpr hle)
  · exact Nat.le_trans (Score.le_greatest (List.mem_map_of_mem hp)) hle

/-- The places of merges are searched fewer neighbours before more and left before right. -/
lemma pairwise_mergePlaces (s : Sentence) :
    s.mergePlaces.Pairwise fun a b => a.2 < b.2 ∨ a.2 = b.2 ∧ a.1 < b.1 := by
  refine List.pairwise_flatMap.mpr ⟨fun count _ => ?_,
    (List.pairwise_lt_range' 1).imp fun hcount => ?_⟩
  · exact List.pairwise_map.mpr ((s.pairwise_offsets count).imp fun hoffset => .inr ⟨rfl, hoffset⟩)
  · simp only [List.mem_map]
    rintro _ ⟨_, -, rfl⟩ _ ⟨_, -, rfl⟩
    exact .inl hcount

/-- The search finds the first neighbours that merge. -/
lemma findMerge?_eq_some_iff {r : Splice} :
    s.findMerge? ctx stage = some r ↔ s.MergesAt ctx stage r ∧
      ∀ r', s.MergesAt ctx stage r' →
        r.count < r'.count ∨ r.count = r'.count ∧ r.offset ≤ r'.offset := by
  rw [findMerge?, findSome?_eq_some_iff_first (by grind) s.pairwise_mergePlaces]
  simp only [mergesAt_iff]
  constructor
  · rintro ⟨⟨offset, count⟩, hplace, hfound, hfirst⟩
    obtain ⟨p, hp, rfl⟩ := Option.map_eq_some_iff.mp hfound
    refine ⟨⟨hplace, hp⟩, fun r' ⟨hplace', hp'⟩ => ?_⟩
    have hnext := hfirst (r'.offset, r'.count) hplace' (by simp [hp'])
    grind
  · rintro ⟨⟨hplace, hp⟩, hfirst⟩
    refine ⟨(r.offset, r.count), hplace, by simp [hp], fun ⟨offset, count⟩ hplace' hsome => ?_⟩
    obtain ⟨p, hp'⟩ := Option.isSome_iff_exists.mp (Option.isSome_map.symm.trans hsome)
    have hnext := hfirst { offset, count, phrase := p } ⟨hplace', hp'⟩
    grind

/-- One step of merging, which in the last stage is none. -/
def rewriteStep? (ctx : Context) (stage : Stage) (s : Sentence) : Option Sentence :=
  if stage = .reduction then none else s.mergeStep? ctx stage

lemma rewriteStep?_eq_some_iff {s' : Sentence} :
    s.rewriteStep? ctx stage = some s' ↔ s.Merges ctx stage s' := by
  rw [rewriteStep?, Merges]
  split
  · next hstage => simp [hstage]
  · next hstage =>
      simp only [mergeStep?, Option.map_eq_some_iff, findMerge?_eq_some_iff]
      grind

/-- Merging is a run in every stage. -/
lemma refactor_eq_ofRun (ctx : Context) (stage : Stage) (s : Sentence) :
    s.refactor ctx stage
      = .ofRun .refactor ctx.budget (Repetition.run (rewriteStep? ctx stage) ctx.budget s) := by
  rw [refactor]
  split
  · next hstage =>
      have hnone : s.rewriteStep? ctx stage = none := if_pos hstage
      rw [Repetition.run_of_eq_none hnone]
      rfl
  · next hstage =>
      have hstep : rewriteStep? ctx stage = mergeStep? ctx stage := funext fun _ => if_neg hstage
      rw [hstep]

/-! ### Cutting off -/

/-- Reduction ends where its steps lead, if the budget suffices. -/
lemma reduce_of_leads {s' : Sentence} {n : Nat} (hread : s.withoutUnread = s)
    (h : Repetition.Leads (fun s s' => s.reductionStep? ctx = some s') n s s')
    (hstop : s'.reductionStep? ctx = none) (hn : n ≤ ctx.budget) :
    s.reduce ctx = { sentence := s' } := by
  have hlast (r : Sentence) : s'.reductionStep? ctx ≠ some r := by simp [hstop]
  rw [reduce, hread, Repetition.run_of_leads (fun _ _ => Iff.rfl) h hlast hn]
  rfl

/-- A loop with a budget does what the steps do without one, and stops short only where the budget
ends. -/
structure CutsOff (loop : Loop) (step : Sentence → Sentence → Prop) (start : Sentence)
    (act : Nat → Progress) : Prop where
  /-- A sentence goes on in one way at most. -/
  unique : ∀ s s' s'', step s s' → step s s'' → s' = s''
  /-- Within a budget either no step leads on any more, or the whole budget is used and a step still
  leads on. -/
  stopsOrGoesOn : ∀ budget,
    (∃ n ≤ budget, ∃ s, Repetition.Leads step n start s ∧ ∀ s', ¬step s s')
      ∨ ∃ s s', Repetition.Leads step budget start s ∧ step s s'
  /-- Every budget that suffices leaves the sentence where no step leads on. -/
  stops : ∀ n s, Repetition.Leads step n start s → (∀ s', ¬step s s') →
    ∀ budget, n ≤ budget → act budget = { sentence := s }
  /-- Every other budget is used to the end, and the fault tells the loop and the budget. -/
  goesOn : ∀ budget s s', Repetition.Leads step budget start s → step s s' →
    act budget = { sentence := s, fault? := some (.budgetExceeded loop.name budget) }
  /-- A greater budget than one that suffices changes nothing. -/
  raised : ∀ budget, (act budget).fault? = none → ∀ more, act (budget + more) = act budget

/-- Runs of a step with a budget cut the steps off. -/
lemma cutsOff_of_run {loop : Loop} {step? : Sentence → Option Sentence}
    {step : Sentence → Sentence → Prop} {start : Sentence} {act : Nat → Progress}
    (hstep : ∀ s s', step? s = some s' ↔ step s s')
    (hact : ∀ budget, act budget = .ofRun loop budget (Repetition.run step? budget start)) :
    CutsOff loop step start act where
  unique := fun s s' s'' h' h'' =>
    Option.some.inj (((hstep s s').mpr h').symm.trans ((hstep s s'').mpr h''))
  stopsOrGoesOn := fun budget => Repetition.leads_or step budget start
  stops := fun n s h hlast budget hn => by
    rw [hact, Repetition.run_of_leads hstep h hlast hn]
    rfl
  goesOn := fun budget s s' h hnext => by
    rw [hact, Repetition.run_of_goesOn hstep h hnext]
    rfl
  raised := fun budget hfault more => by
    rw [hact] at hfault
    have hends := Progress.fault?_ofRun_eq_none_iff.mp hfault
    simp only [hact, Progress.ofRun, Repetition.run_add hends, hends]
    rfl

/-- **The budget only cuts runs off.** Merging in whatever stage goes from the sentence on by
merging the first neighbours that merge. Reduction goes from the phrases in which something has been
read on by rewriting the first redex. With any budget both leave the sentence where no step leads
on, or the one reached when the budget is used. -/
theorem cutsOff_refactor_reduce (ctx : Context) (s : Sentence) :
    (∀ stage, CutsOff .refactor (Merges ctx stage) s fun budget =>
        s.refactor { ctx with budget } stage)
      ∧ CutsOff .reduce (Reduces ctx) s.withoutUnread fun budget =>
        s.reduce { ctx with budget } :=
  ⟨fun stage => cutsOff_of_run (fun _ _ => rewriteStep?_eq_some_iff) fun budget =>
      refactor_eq_ofRun { ctx with budget } stage s,
    cutsOff_of_run (fun _ _ => reductionStep?_eq_some_iff) fun _ => rfl⟩

end Sentence

end ChatCommand
