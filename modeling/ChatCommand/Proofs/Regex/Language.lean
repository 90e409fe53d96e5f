/-
The language of a regular expression.

* `Rounds`, `RoundsWithin`: a relation several times, one after the other;
* `Regex.Spans`: an expression leads from a place of a text to another;
* `Regex.language`: the texts that it leads through from the beginning to the end;
* `Regex.IsProper`: no repetition asks for more rounds than it allows;
* `Regex.IsProper.sequence`, `Regex.IsProper.alternatives`, `Regex.IsProper.repeated`: what is put
  together of proper expressions is proper;
* `Regex.isProper_of_read?`: **an expression that has been read is proper**.
-/
import Mathlib.Data.Set.Defs
import Mathlib.Logic.Relation
import ChatCommand.Regex.Reader

namespace ChatCommand

/-! ### Rounds -/

/-- A relation so many times, one after the other. -/
def Rounds (R : Nat → Nat → Prop) : Nat → Nat → Nat → Prop
  | 0 => Eq
  | count + 1 => Relation.Comp R (Rounds R count)

/-- A relation at least and at most so many times. -/
def RoundsWithin (R : Nat → Nat → Prop) (least : Nat) (most : Option Nat) (i k : Nat) : Prop :=
  ∃ count, least ≤ count ∧ (∀ m ∈ most, count ≤ m) ∧ Rounds R count i k

section Rounds

variable {R : Nat → Nat → Prop}

lemma rounds_one : Rounds R 1 = R := Relation.comp_eq

lemma comp_rounds (n m : Nat) : Relation.Comp (Rounds R n) (Rounds R m) = Rounds R (n + m) := by
  induction n with
  | zero => rw [Nat.zero_add, Rounds, Relation.eq_comp]
  | succ n ih => rw [Nat.succ_add, Rounds, Rounds, Relation.comp_assoc, ih]

/-- Some rounds before a number of rounds shift its bounds. -/
lemma comp_roundsWithin (n least : Nat) (most : Option Nat) :
    Relation.Comp (Rounds R n) (RoundsWithin R least most)
      = RoundsWithin R (n + least) (most.map (n + ·)) := by
  ext i k
  constructor
  · rintro ⟨j, hfirst, count, hleast, hmost, hrounds⟩
    refine ⟨n + count, Nat.add_le_add_left hleast n, fun m hm => ?_, ?_⟩
    · obtain ⟨limit, hlimit, rfl⟩ := Option.map_eq_some_iff.mp hm
      exact Nat.add_le_add_left (hmost limit hlimit) n
    · rw [← comp_rounds]
      exact ⟨j, hfirst, hrounds⟩
  · rintro ⟨count, hleast, hmost, hrounds⟩
    obtain ⟨more, rfl⟩ := Nat.exists_eq_add_of_le (Nat.le_of_add_right_le hleast)
    rw [← comp_rounds] at hrounds
    obtain ⟨j, hfirst, hrounds⟩ := hrounds
    exact ⟨j, hfirst, more, Nat.le_of_add_le_add_left hleast, fun m hm =>
      Nat.le_of_add_le_add_left (hmost _ (Option.mem_map_of_mem _ hm)), hrounds⟩

lemma comp_roundsWithin_zero (most : Option Nat) :
    Relation.Comp R (RoundsWithin R 0 most) = RoundsWithin R 1 (most.map (1 + ·)) := by
  rw [← comp_roundsWithin 1 0, rounds_one]

/-- Rounds that need not be are at least one round, or none. -/
lemma roundsWithin_zero_iff {most : Option Nat} {i k : Nat} :
    RoundsWithin R 0 most i k ↔ RoundsWithin R 1 most i k ∨ i = k := by
  constructor
  · rintro ⟨count, -, hmost, hrounds⟩
    cases count with
    | zero => exact .inr hrounds
    | succ count => exact .inl ⟨count + 1, Nat.le_add_left 1 count, hmost, hrounds⟩
  · rintro (⟨count, -, hmost, hrounds⟩ | heq)
    · exact ⟨count, Nat.zero_le _, hmost, hrounds⟩
    · exact ⟨0, Nat.zero_le _, fun m _ => Nat.zero_le m, heq⟩

lemma roundsWithin_zero (most : Option Nat) :
    RoundsWithin R 0 most = fun i k => RoundsWithin R 1 most i k ∨ i = k :=
  funext₂ fun _ _ => propext roundsWithin_zero_iff

lemma roundsWithin_zero_zero : RoundsWithin R 0 (some 0) = Eq := by
  ext i k
  constructor
  · rintro ⟨count, -, hmost, hrounds⟩
    obtain rfl := Nat.le_zero.mp (hmost 0 rfl)
    exact hrounds
  · exact fun heq => roundsWithin_zero_iff.mpr (.inr heq)

end Rounds

namespace Regex

/-! ### Languages -/

/-- An expression leads from a place of a text to another. -/
def Spans (whole : List Char) : Regex → Nat → Nat → Prop
  | text s => fun i k => s <+: whole.drop i ∧ k = i + s.length
  | char set => fun i k => ∃ c, whole[i]? = some c ∧ set.contains c ∧ k = i + 1
  | seq a b => Relation.Comp (a.Spans whole) (b.Spans whole)
  | choice a b => fun i k => a.Spans whole i k ∨ b.Spans whole i k
  | rounds least most _ a => RoundsWithin (a.Spans whole) least most
  | group _ a => a.Spans whole
  | textStart => fun i k => i = 0 ∧ k = i
  | textEnd => fun i k => whole.drop i = [] ∧ k = i

/-- The texts that an expression leads through from the beginning to the end. -/
def language (e : Regex) : Set (List Char) := {s | e.Spans s 0 s.length}

/-! ### Proper repetitions -/

/-- No repetition asks for more rounds than it allows. -/
def IsProper : Regex → Prop
  | seq a b => a.IsProper ∧ b.IsProper
  | choice a b => a.IsProper ∧ b.IsProper
  | rounds least most _ a => (∀ m ∈ most, least ≤ m) ∧ a.IsProper
  | group _ a => a.IsProper
  | _ => True

lemma isProper_text (s : List Char) : (text s).IsProper := trivial

lemma isProper_char (set : CharSet) : (char set).IsProper := trivial

lemma isProper_ofSet (set : CharSet) : (ofSet set).IsProper := by
  unfold ofSet
  split <;> exact trivial

lemma IsProper.items {e : Regex} (h : e.IsProper) : ∀ x ∈ e.items, x.IsProper := by
  fun_induction Regex.items e with
  | case1 => simp
  | case2 a b ih => exact List.forall_mem_cons.mpr ⟨h.1, ih h.2⟩
  | case3 => simpa using h

lemma IsProper.branches {e : Regex} (h : e.IsProper) : ∀ x ∈ e.branches, x.IsProper := by
  fun_induction Regex.branches e with
  | case1 a b ih => exact List.forall_mem_cons.mpr ⟨h.1, ih h.2⟩
  | case2 => simpa using h

section Parts

variable {parts : List Regex}

lemma isProper_ofItems (h : ∀ x ∈ parts, x.IsProper) : (ofItems parts).IsProper := by
  fun_induction ofItems parts with
  | case1 => exact isProper_text []
  | case2 a => exact h a List.mem_cons_self
  | case3 a rest _ ih => exact ⟨h a List.mem_cons_self, ih (List.forall_mem_cons.mp h).2⟩

lemma isProper_ofBranches (h : ∀ x ∈ parts, x.IsProper) : (ofBranches parts).IsProper := by
  fun_induction ofBranches parts with
  | case1 => exact isProper_char .empty
  | case2 a => exact h a List.mem_cons_self
  | case3 a rest _ ih => exact ⟨h a List.mem_cons_self, ih (List.forall_mem_cons.mp h).2⟩

lemma isProper_of_mem_joinTexts (h : ∀ x ∈ parts, x.IsProper) :
    ∀ x ∈ joinTexts parts, x.IsProper := by
  fun_induction joinTexts parts with
  | case1 => simp
  | case2 s rest t others heq ih =>
      rw [heq] at ih
      exact List.forall_mem_cons.mpr
        ⟨trivial, (List.forall_mem_cons.mp (ih (List.forall_mem_cons.mp h).2)).2⟩
  | case3 s rest _ ih =>
      exact List.forall_mem_cons.mpr ⟨trivial, ih (List.forall_mem_cons.mp h).2⟩
  | case4 a rest _ ih =>
      obtain ⟨ha, hrest⟩ := List.forall_mem_cons.mp h
      exact List.forall_mem_cons.mpr ⟨ha, ih hrest⟩

lemma IsProper.sequence (h : ∀ x ∈ parts, x.IsProper) : (sequence parts).IsProper := by
  refine isProper_ofItems (isProper_of_mem_joinTexts fun x hx => ?_)
  obtain ⟨e, he, hx⟩ := List.mem_flatMap.mp hx
  exact (h e he).items x hx

lemma IsProper.merged (h : ∀ x ∈ parts, x.IsProper) : (merged parts).IsProper := by
  unfold Regex.merged
  split
  · next a => exact h a List.mem_cons_self
  · split
    · exact isProper_ofSet _
    · exact isProper_ofBranches h

/-- What is common to some sequences begins the first. -/
lemma foldl_commonItems_isPrefixOf (first : List Regex) (rest : List (List Regex)) :
    rest.foldl commonItems first <+: first := by
  induction rest generalizing first with
  | nil => exact List.prefix_rfl
  | cons s rest ih => exact (ih (commonItems first s)).trans ( commonItems_prefix_left first s)

lemma isProper_of_mem_sharedItems (h : ∀ x ∈ parts, x.IsProper) :
    ∀ x ∈ sharedItems parts, x.IsProper := by
  intro x hx
  cases parts with
  | nil => simp [sharedItems] at hx
  | cons e parts =>
      simp only [sharedItems, List.map_cons] at hx
      split at hx
      · exact (h e List.mem_cons_self).items x ((foldl_commonItems_isPrefixOf _ _).subset hx)
      · simp at hx

lemma IsProper.dropItems {e : Regex} (h : e.IsProper) (count : Nat) :
    (dropItems count e).IsProper :=
  isProper_ofItems fun x hx => h.items x (List.mem_of_mem_drop hx)

lemma IsProper.alternatives (h : ∀ x ∈ parts, x.IsProper) : (alternatives parts).IsProper := by
  have hbranches : ∀ x ∈ parts.flatMap Regex.branches, x.IsProper := fun x hx => by
    obtain ⟨e, he, hx⟩ := List.mem_flatMap.mp hx
    exact (h e he).branches x hx
  unfold Regex.alternatives
  dsimp only
  split
  · next a heq => exact hbranches a (heq ▸ List.mem_singleton_self a)
  · split
    · next a shared _ hshared =>
        refine .sequence (List.forall_mem_append.mpr ⟨fun x hx => ?_, ?_⟩)
        · exact isProper_of_mem_sharedItems hbranches x (hshared ▸ hx)
        · refine List.forall_mem_singleton.mpr (.merged fun x hx => ?_)
          obtain ⟨_, hbehind, hx⟩ := List.mem_flatMap.mp hx
          obtain ⟨e, he, rfl⟩ := List.mem_map.mp hbehind
          exact ((hbranches e he).dropItems _).branches x hx
    · exact .merged hbranches

end Parts

lemma IsProper.repeated {e : Regex} {least : Nat} {most : Option Nat} {greedy : Bool}
    (he : e.IsProper) (h : ∀ m ∈ most, least ≤ m) : (repeated least most greedy e).IsProper := by
  unfold Regex.repeated
  split
  next least' most' heq =>
  have h' : ∀ m ∈ most', least' ≤ m := by
    split at heq
    · obtain ⟨rfl, rfl⟩ := Prod.mk.inj heq
      intro m hm
      obtain rfl := Option.some.inj hm
      have hone : min least 1 ≤ 1 := Nat.min_le_right least 1
      cases most with
      | none => exact hone
      | some limit => exact Nat.le_min.mpr ⟨Nat.le_trans (Nat.min_le_left _ _) (h limit rfl), hone⟩
    · obtain ⟨rfl, rfl⟩ := Prod.mk.inj heq
      exact h
  split
  · exact isProper_text []
  · split
    · exact he
    · exact ⟨h', he⟩

lemma IsProper.optional {e : Regex} (he : e.IsProper) : (optional e).IsProper :=
  he.repeated (by simp)

lemma IsProper.many {e : Regex} (he : e.IsProper) : (many e).IsProper :=
  he.repeated (by simp)

lemma IsProper.times {e : Regex} (he : e.IsProper) (count : Nat) : (times count e).IsProper :=
  he.repeated (by simp)

/-! ### Reading -/

/-- The limit of the rounds is not below the number that must be. -/
lemma le_of_readRounds? {s rest : List Char} {least : Nat} {most : Option Nat}
    (h : readRounds? s = some ((least, most), rest)) : ∀ m ∈ most, least ≤ m := by
  simp only [readRounds?, Option.bind_eq_bind, Option.bind_eq_some_iff] at h
  obtain ⟨⟨least', s'⟩, -, h⟩ := h
  dsimp only at h
  split at h
  · split at h
    · split at h
      · obtain ⟨⟨rfl, rfl⟩, -⟩ := by simpa using h
        simp
      · simp only [Option.bind_eq_some_iff] at h
        obtain ⟨⟨most', s''⟩, -, h⟩ := h
        dsimp only at h
        split at h
        · split at h
          · next hle =>
              obtain ⟨⟨rfl, rfl⟩, -⟩ := by simpa using h
              simpa using hle.2
          · contradiction
        · contradiction
    · contradiction
  · split at h
    · obtain ⟨⟨rfl, rfl⟩, -⟩ := by simpa using h
      simp
    · contradiction
  · contradiction

lemma le_of_readRepetition? {s rest : List Char} {least : Nat} {most : Option Nat}
    (h : readRepetition? s = some (some ((least, most), rest))) : ∀ m ∈ most, least ≤ m := by
  unfold readRepetition? at h
  split at h
  · obtain ⟨⟨rfl, rfl⟩, -⟩ := by simpa using h
    simp
  · obtain ⟨⟨rfl, rfl⟩, -⟩ := by simpa using h
    simp
  · obtain ⟨⟨rfl, rfl⟩, -⟩ := by simpa using h
    simp
  · split at h
    · obtain ⟨_, hrounds, heq⟩ := Option.map_eq_some_iff.mp h
      exact le_of_readRounds? (Option.some.inj heq ▸ hrounds)
    · simp at h
  · simp at h

lemma isProper_of_readRepetitions? {fuel : Nat} {p p' : Part} {s rest : List Char}
    (hp : p.expression.IsProper) (h : readRepetitions? fuel p s = some (p', rest)) :
    p'.expression.IsProper := by
  induction fuel generalizing p s with
  | zero =>
      obtain ⟨rfl, -⟩ := Prod.mk.inj (Option.some.inj h)
      exact hp
  | succ fuel ih =>
      simp only [readRepetitions?, Option.bind_eq_bind, Option.bind_eq_some_iff] at h
      obtain ⟨repetition, hrepetition, h⟩ := h
      split at h
      · obtain ⟨rfl, -⟩ := Prod.mk.inj (Option.some.inj h)
        exact hp
      · exact ih (hp.repeated (le_of_readRepetition? hrepetition)) h

lemma Part.isProper_sequence {parts : List Part} (h : ∀ p ∈ parts, p.expression.IsProper) :
    (Part.sequence parts).expression.IsProper :=
  .sequence (List.forall_mem_map.mpr h)

lemma Part.isProper_alternatives {parts : List Part} (h : ∀ p ∈ parts, p.expression.IsProper) :
    (Part.alternatives parts).expression.IsProper :=
  .alternatives (List.forall_mem_map.mpr h)

lemma Part.isProper_bracketed {p : Part} (h : p.expression.IsProper) (head : GroupHead) :
    (p.bracketed head).expression.IsProper := by
  cases head <;> exact h

section Levels

variable {fuel : Nat} {s rest : List Char}
  (ihalternatives : ∀ s parts rest, readAlternatives? fuel s = some (parts, rest) →
    ∀ p ∈ parts, p.expression.IsProper)
  (ihpieces : ∀ s parts rest, readPieces? fuel s = some (parts, rest) →
    ∀ p ∈ parts, p.expression.IsProper)
  (ihpiece : ∀ s p rest, readPiece? fuel s = some (p, rest) → p.expression.IsProper)

include ihalternatives ihpieces in
/-- What is read of alternatives, if it is of the others and of the pieces of the first. -/
lemma isProper_of_readAlternatives?_succ {parts : List Part}
    (h : readAlternatives? (fuel + 1) s = some (parts, rest)) :
    ∀ p ∈ parts, p.expression.IsProper := by
  simp only [readAlternatives?, Option.bind_eq_bind, Option.bind_eq_some_iff] at h
  obtain ⟨⟨pieces, s'⟩, hpieces, h⟩ := h
  have hfirst := Part.isProper_sequence (ihpieces _ _ _ hpieces)
  split at h
  · simp only [Option.bind_eq_some_iff] at h
    obtain ⟨⟨others, rest'⟩, hothers, h⟩ := h
    obtain ⟨rfl, -⟩ := Prod.mk.inj (Option.some.inj h)
    exact List.forall_mem_cons.mpr ⟨hfirst, ihalternatives _ _ _ hothers⟩
  · obtain ⟨rfl, -⟩ := Prod.mk.inj (Option.some.inj h)
    exact List.forall_mem_singleton.mpr hfirst

include ihpieces ihpiece in
lemma isProper_of_readPieces?_succ {parts : List Part}
    (h : readPieces? (fuel + 1) s = some (parts, rest)) :
    ∀ p ∈ parts, p.expression.IsProper := by
  simp only [readPieces?] at h
  split at h
  case h_4 =>
    simp only [Option.bind_eq_bind, Option.bind_eq_some_iff] at h
    obtain ⟨⟨piece, s₁⟩, hpiece, ⟨piece', s₂⟩, hrepeated, ⟨others, s₃⟩, hothers, h⟩ := h
    obtain ⟨rfl, -⟩ := Prod.mk.inj (Option.some.inj h)
    exact List.forall_mem_cons.mpr
      ⟨isProper_of_readRepetitions? (ihpiece _ _ _ hpiece) hrepeated, ihpieces _ _ _ hothers⟩
  all_goals
    obtain ⟨rfl, -⟩ := Prod.mk.inj (Option.some.inj h)
    simp

include ihalternatives in
lemma isProper_of_readPiece?_succ {p : Part}
    (h : readPiece? (fuel + 1) s = some (p, rest)) : p.expression.IsProper := by
  simp only [readPiece?] at h
  split at h
  · contradiction
  · simp only [Option.bind_eq_bind, Option.bind_eq_some_iff] at h
    obtain ⟨⟨head, s₁⟩, -, ⟨inner, s₂⟩, hinner, h⟩ := h
    dsimp only at h
    split at h
    · obtain ⟨rfl, -⟩ := Prod.mk.inj (Option.some.inj h)
      exact Part.isProper_bracketed
        (Part.isProper_alternatives (ihalternatives _ _ _ hinner)) head
    · contradiction
  · obtain ⟨_, -, heq⟩ := Option.map_eq_some_iff.mp h
    obtain ⟨rfl, -⟩ := Prod.mk.inj heq
    exact isProper_ofSet _
  -- a point and the ends of the text
  iterate 5
    · obtain ⟨rfl, -⟩ := Prod.mk.inj (Option.some.inj h)
      exact trivial
  · split at h
    · obtain ⟨rfl, -⟩ := Prod.mk.inj (Option.some.inj h)
      exact trivial
    · obtain ⟨_, -, heq⟩ := Option.map_eq_some_iff.mp h
      obtain ⟨rfl, -⟩ := Prod.mk.inj heq
      exact isProper_ofSet _
  · split at h
    · contradiction
    · obtain ⟨rfl, -⟩ := Prod.mk.inj (Option.some.inj h)
      exact trivial

end Levels

/-- Alternatives, pieces and single pieces that are read are proper. -/
lemma isProper_of_read (fuel : Nat) :
    (∀ s parts rest, readAlternatives? fuel s = some (parts, rest) →
      ∀ p ∈ parts, p.expression.IsProper)
    ∧ (∀ s parts rest, readPieces? fuel s = some (parts, rest) →
      ∀ p ∈ parts, p.expression.IsProper)
    ∧ ∀ s p rest, readPiece? fuel s = some (p, rest) → p.expression.IsProper := by
  induction fuel with
  | zero => simp [readAlternatives?, readPieces?, readPiece?]
  | succ fuel ih =>
      obtain ⟨ihalternatives, ihpieces, ihpiece⟩ := ih
      exact ⟨fun _ _ _ h => isProper_of_readAlternatives?_succ ihalternatives ihpieces h,
        fun _ _ _ h => isProper_of_readPieces?_succ ihpieces ihpiece h,
        fun _ _ _ h => isProper_of_readPiece?_succ ihalternatives h⟩

/-- **An expression that has been read is proper.** -/
theorem isProper_of_read? {source : String} {e : Regex} (h : read? source = some e) :
    e.IsProper := by
  unfold read? at h
  dsimp only at h
  split at h
  · next parts heq =>
      split at h
      · obtain rfl := Option.some.inj h
        exact Part.isProper_alternatives ((isProper_of_read _).1 _ _ _ heq)
      · contradiction
  · contradiction

end Regex

end ChatCommand
