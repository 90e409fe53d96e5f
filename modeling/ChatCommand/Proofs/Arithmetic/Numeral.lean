/-
Numbers spelled in words.

A number below a thousand million is spelled by its millions, its thousands and its units, each
group by its hundreds, tens and ones. Words are joined from the left, two neighbours at a time, by a
rule that sees nothing but the two values.

* `Numeral.spell`: the values of the words;
* `Numeral.join?`, `Numeral.step?`: what two neighbours say together, and the first neighbours
  joined;
* `Numeral.total?`: all words joined to the first one after the other, if each can be;
* `Numeral.total?_group_append`: a group with its scale and what is below a hundred behind it come
  to one number;
* `Numeral.Splits`: a thousand or more, with a word behind it that joins neither it nor what follows
  to it, which joining never mends;
* `Numeral.run_spell`, `Numeral.two_le_length_run_spell`: **joining ends in the number alone if no
  word "hundred", and no thousands behind millions, come after a thousand or a million**, and
  otherwise in two numbers or more.
-/
import Mathlib.Tactic.Common
import ChatCommand.Sentence.Repetition

namespace ChatCommand

namespace Numeral

/-! ### Spelling -/

/-- The words of a number below a hundred: up to "nineteen" one word, else the tens and the ones. -/
def below100 (n : Nat) : List Nat :=
  if n = 0 then []
  else if n < 20 then [n]
  else n / 10 * 10 :: if n % 10 = 0 then [] else [n % 10]

/-- The words of a number below a thousand: hundreds, then the rest. -/
def below1000 (n : Nat) : List Nat :=
  (if n / 100 = 0 then [] else [n / 100, 100]) ++ below100 (n % 100)

/-- So many thousands or millions. None are not spelled. -/
def group (n scale : Nat) : List Nat :=
  if n = 0 then [] else below1000 n ++ [scale]

/-- The words of a number below a thousand million. -/
def spell (n : Nat) : List Nat :=
  group (n / 1000000) 1000000 ++ group (n / 1000 % 1000) 1000 ++ below1000 (n % 1000)

example : spell 217045013 = [2, 100, 17, 1000000, 40, 5, 1000, 13] := by decide

/-! ### Joining -/

/-- What two numbers say together, if they do: a greater hundred, thousand or million multiplies,
less than a hundred is added to hundreds, and one to nine to tens. -/
def join? (a b : Nat) : Option Nat :=
  if (b = 100 ∨ b = 1000 ∨ b = 1000000) ∧ a < b then some (a * b)
  else if 100 ≤ a ∧ a % 100 = 0 ∧ b < 100 ∨ 20 ≤ a ∧ a % 10 = 0 ∧ b < 10 ∧ 0 < b then some (a + b)
  else none

/-- Puts what the first neighbours say together in their place. -/
def step? : List Nat → Option (List Nat)
  | a :: b :: rest =>
    match join? a b with
    | some c => some (c :: rest)
    | none => (step? (b :: rest)).map (a :: ·)
  | _ => none

/-- The first number with all others joined to it, one after the other. -/
def total? : List Nat → Option Nat
  | [] => none
  | a :: rest => rest.foldlM join? a

section Join

variable {a b c : Nat}

lemma join?_of_lt_scale (hb : b = 100 ∨ b = 1000 ∨ b = 1000000) (h : a < b) :
    join? a b = some (a * b) :=
  if_pos ⟨hb, h⟩

lemma join?_of_hundreds (ha : 100 ≤ a) (hmod : a % 100 = 0) (hb : b < 100) :
    join? a b = some (a + b) := by
  rw [join?, if_neg (by omega), if_pos (.inl ⟨ha, hmod, hb⟩)]

lemma join?_of_tens (ha : 20 ≤ a) (hmod : a % 10 = 0) (hpos : 0 < b) (hb : b < 10) :
    join? a b = some (a + b) := by
  rw [join?, if_neg (by omega), if_pos (.inr ⟨ha, hmod, hb, hpos⟩)]

/-- A thousand or more joins nothing from a hundred on but a million. -/
lemma join?_eq_none (ha : 1000 ≤ a) (hb : 100 ≤ b) (hscale : b ≠ 1000000) : join? a b = none := by
  rw [join?, if_neg (by omega), if_neg (by omega)]

lemma join?_cases (h : join? a b = some c) :
    ((b = 100 ∨ b = 1000 ∨ b = 1000000) ∧ a < b ∧ c = a * b)
      ∨ ((100 ≤ a ∧ a % 100 = 0 ∧ b < 100 ∨ 20 ≤ a ∧ a % 10 = 0 ∧ b < 10 ∧ 0 < b)
        ∧ c = a + b) := by
  rw [join?] at h
  split at h
  · next hscale => exact .inl ⟨hscale.1, hscale.2, (Option.some.inj h).symm⟩
  · split at h
    · next hsum => exact .inr ⟨hsum, (Option.some.inj h).symm⟩
    · contradiction

end Join

/-! ### Steps -/

section Steps

variable {words words' : List Nat}

lemma length_of_step? (h : step? words = some words') : words'.length + 1 = words.length := by
  induction words generalizing words' with
  | nil => contradiction
  | cons a rest ih =>
      match rest with
      | [] => contradiction
      | b :: rest =>
          rw [step?] at h
          split at h
          · obtain rfl := Option.some.inj h
            rfl
          · obtain ⟨rest', hrest, rfl⟩ := Option.map_eq_some_iff.mp h
            exact congrArg Nat.succ (ih hrest)

lemma two_le_length_of_step? (h : step? words = some words') : 2 ≤ words.length := by
  match words with
  | [] | [_] => contradiction
  | _ :: _ :: _ => simp

/-- A property of numbers that joining keeps holds of all words after a step. -/
lemma forall_of_step? {p : Nat → Prop} (hjoin : ∀ a b c, p a → p b → join? a b = some c → p c)
    (hwords : ∀ v ∈ words, p v) (h : step? words = some words') : ∀ v ∈ words', p v := by
  induction words generalizing words' with
  | nil => contradiction
  | cons a rest ih =>
      match rest with
      | [] => contradiction
      | b :: rest =>
          obtain ⟨ha, hrest⟩ := List.forall_mem_cons.mp hwords
          rw [step?] at h
          split at h
          · next c hc =>
              obtain rfl := Option.some.inj h
              obtain ⟨hb, hrest⟩ := List.forall_mem_cons.mp hrest
              exact List.forall_mem_cons.mpr ⟨hjoin a b c ha hb hc, hrest⟩
          · obtain ⟨rest', hstep, rfl⟩ := Option.map_eq_some_iff.mp h
            exact List.forall_mem_cons.mpr ⟨ha, ih hrest hstep⟩

/-- Words that all join to the first are joined from the left, and what follows stays. -/
lemma step?_of_total? {a : Nat} (h : total? words = some a) (hlength : 2 ≤ words.length)
    (rest : List Nat) :
    ∃ words', step? (words ++ rest) = some (words' ++ rest) ∧ total? words' = some a := by
  match words with
  | [] => contradiction
  | [_] => simp at hlength
  | v :: w :: words =>
      rw [total?, List.foldlM_cons, Option.bind_eq_bind, Option.bind_eq_some_iff] at h
      obtain ⟨c, hc, htotal⟩ := h
      refine ⟨c :: words, ?_, htotal⟩
      rw [List.cons_append, List.cons_append, step?, hc]
      rfl

/-- A step keeps the number that all words come to. -/
lemma total?_of_step? {a : Nat} (htotal : total? words = some a) (h : step? words = some words') :
    total? words' = some a := by
  match words with
  | [] => contradiction
  | [_] => contradiction
  | v :: w :: words =>
      obtain ⟨words'', hstep, htotal⟩ := step?_of_total? htotal (by simp) []
      rw [List.append_nil, List.append_nil, h] at hstep
      rwa [Option.some.inj hstep]

/-- Where all words come to one number and none can be joined, there is the number alone. -/
lemma eq_singleton_of_total? {a : Nat} (htotal : total? words = some a)
    (h : step? words = none) : words = [a] := by
  match words with
  | [] => contradiction
  | [v] => rw [Option.some.inj (show some v = some a from htotal)]
  | v :: w :: words =>
      obtain ⟨_, hstep, -⟩ := step?_of_total? htotal (by simp) []
      rw [List.append_nil, h] at hstep
      contradiction

/-! ### Words that stay apart -/

/-- The words up to some place come to a thousand or more, the next is a hundred or more and no
million, and there are no zeros behind it. -/
def Splits (words : List Nat) : Prop :=
  ∃ front b rest a, words = front ++ b :: rest ∧ total? front = some a ∧ 1000 ≤ a ∧ 100 ≤ b
    ∧ b ≠ 1000000 ∧ ∀ v ∈ rest, 1 ≤ v

lemma Splits.two_le_length (h : Splits words) : 2 ≤ words.length := by
  obtain ⟨front, b, rest, a, rfl, htotal, -⟩ := h
  match front with
  | [] => contradiction
  | _ :: _ =>
      simp only [List.length_append, List.length_cons]
      omega

/-- Joining the word behind to what follows it leaves a hundred or more that is no million. -/
lemma le_of_join? {b c d : Nat} (hb : 100 ≤ b) (hc : 1 ≤ c) (h : join? b c = some d) :
    100 ≤ d ∧ d ≠ 1000000 := by
  rcases join?_cases h with ⟨hc, hlt, rfl⟩ | ⟨hsum, rfl⟩
  · rcases hc with rfl | rfl | rfl <;> omega
  · omega

/-- What stays apart stays apart: words in front are joined with each other, and words behind. -/
lemma Splits.of_step? (hsplits : Splits words) (h : step? words = some words') : Splits words' := by
  obtain ⟨front, b, rest, a, rfl, htotal, ha, hb, hscale, hrest⟩ := hsplits
  match front, htotal with
  | v :: w :: front, htotal =>
      obtain ⟨front', hstep, htotal⟩ := step?_of_total? htotal (by simp) (b :: rest)
      rw [h] at hstep
      exact ⟨front', b, rest, a, Option.some.inj hstep, htotal, ha, hb, hscale, hrest⟩
  | [v], htotal =>
      obtain rfl := Option.some.inj (show some v = some a from htotal)
      rw [List.singleton_append, step?, join?_eq_none ha hb hscale] at h
      obtain ⟨behind, hbehind, rfl⟩ := Option.map_eq_some_iff.mp h
      match rest with
      | [] => contradiction
      | c :: rest =>
          obtain ⟨hc, hrest⟩ := List.forall_mem_cons.mp hrest
          rw [step?] at hbehind
          split at hbehind
          · next d hd =>
              obtain rfl := Option.some.inj hbehind
              obtain ⟨hd, hdscale⟩ := le_of_join? hb hc hd
              exact ⟨[v], d, rest, v, rfl, rfl, ha, hd, hdscale, hrest⟩
          · obtain ⟨rest', hstep, rfl⟩ := Option.map_eq_some_iff.mp hbehind
            have hpos : ∀ u ∈ rest', 1 ≤ u := by
              refine forall_of_step? (fun x y z hx hy hz => ?_)
                (List.forall_mem_cons.mpr ⟨hc, hrest⟩) hstep
              rcases join?_cases hz with ⟨-, -, rfl⟩ | ⟨-, rfl⟩
              · exact Nat.mul_pos hx hy
              · omega
            exact ⟨[v], b, rest', v, rfl, rfl, ha, hb, hscale, hpos⟩

end Steps

/-! ### What a spelling comes to -/

section Spelling

variable {n g scale u : Nat}

/-- The words below a hundred are added to hundreds. -/
lemma foldlM_below100 {a : Nat} (ha : 100 ≤ a) (hmod : a % 100 = 0) (hn : n < 100) :
    (below100 n).foldlM join? a = some (a + n) := by
  rw [below100]
  split
  · next h => rw [h]; rfl
  · split
    · rw [List.foldlM_cons, join?_of_hundreds ha hmod hn]
      rfl
    · have htens : join? a (n / 10 * 10) = some (a + n / 10 * 10) :=
        join?_of_hundreds ha hmod (by omega)
      rw [List.foldlM_cons, htens, Option.bind_eq_bind, Option.bind_some]
      split
      · have hsum : a + n / 10 * 10 = a + n := by omega
        rw [hsum]
        rfl
      · have hones : join? (a + n / 10 * 10) (n % 10) = some (a + n / 10 * 10 + n % 10) :=
          join?_of_tens (by omega) (by omega) (by omega) (by omega)
        have hsum : a + n / 10 * 10 + n % 10 = a + n := by omega
        rw [List.foldlM_cons, hones, hsum]
        rfl

/-- The words below a hundred come to their number. -/
lemma total?_below100 (hpos : 0 < n) (hn : n < 100) : total? (below100 n) = some n := by
  rw [below100, if_neg (Nat.ne_of_gt hpos)]
  split
  · rfl
  · split
    · have htens : n / 10 * 10 = n := by omega
      rw [htens]
      rfl
    · have hones : join? (n / 10 * 10) (n % 10) = some (n / 10 * 10 + n % 10) :=
        join?_of_tens (by omega) (by omega) (by omega) (by omega)
      have hsum : n / 10 * 10 + n % 10 = n := by omega
      rw [total?, List.foldlM_cons, hones, hsum]
      rfl

/-- The words below a thousand come to their number. -/
lemma total?_below1000 (hpos : 0 < n) (hn : n < 1000) : total? (below1000 n) = some n := by
  rw [below1000]
  split
  · next h =>
      rw [List.nil_append, total?_below100 (by omega) (Nat.mod_lt n (by omega))]
      congr 1
      omega
  · have hhundreds : join? (n / 100) 100 = some (n / 100 * 100) :=
      join?_of_lt_scale (.inl rfl) (by omega)
    have hsum : n / 100 * 100 + n % 100 = n := by omega
    rw [List.cons_append, total?, List.cons_append, List.nil_append, List.foldlM_cons, hhundreds,
      Option.bind_eq_bind, Option.bind_some, foldlM_below100 (by omega) (by omega) (by omega), hsum]

/-- More words are joined to what the first ones come to. -/
lemma total?_append {front : List Nat} {a : Nat} (h : total? front = some a) (rest : List Nat) :
    total? (front ++ rest) = rest.foldlM join? a := by
  match front with
  | [] => contradiction
  | v :: front =>
      rw [List.cons_append, total?, List.foldlM_append]
      rw [total?] at h
      rw [h, Option.bind_eq_bind, Option.bind_some]

/-- A group with its scale, and what is below a hundred behind it, come to one number. -/
lemma total?_group_append (hg : 0 < g) (hlt : g < 1000) (hscale : scale = 1000 ∨ scale = 1000000)
    (hu : u < 100) : total? (group g scale ++ below100 u) = some (g * scale + u) := by
  have hmultiplied : join? g scale = some (g * scale) :=
    join?_of_lt_scale (.inr hscale) (by omega)
  have hgroup : total? (group g scale) = some (g * scale) := by
    rw [group, if_neg (Nat.ne_of_gt hg), total?_append (total?_below1000 hg hlt), List.foldlM_cons,
      hmultiplied]
    rfl
  rw [total?_append hgroup]
  rcases hscale with rfl | rfl <;> exact foldlM_below100 (by omega) (by omega) hu

/-- Behind a group with its scale another hundred or thousand stays apart. -/
lemma splits_group_append (hg : 0 < g) (hlt : g < 1000) (hscale : scale = 1000 ∨ scale = 1000000)
    (hu : u < 100) {b : Nat} (hb : b = 100 ∨ b = 1000) {rest : List Nat}
    (hrest : ∀ v ∈ rest, 1 ≤ v) : Splits (group g scale ++ below100 u ++ b :: rest) := by
  have hthousand : 1000 ≤ g * scale + u := by
    rcases hscale with rfl | rfl <;> omega
  exact ⟨_, b, rest, _, rfl, total?_group_append hg hlt hscale hu, hthousand, by omega, by omega,
    hrest⟩

lemma below1000_of_lt (hu : u < 100) : below1000 u = below100 u := by
  rw [below1000, if_pos (by omega), Nat.mod_eq_of_lt hu]
  rfl

lemma below1000_of_le (hu : 100 ≤ u) (hlt : u < 1000) :
    below1000 u = below100 (u / 100) ++ 100 :: below100 (u % 100) := by
  have hhundreds : below100 (u / 100) = [u / 100] := by
    rw [below100, if_neg (by omega), if_pos (by omega)]
  rw [below1000, if_neg (by omega), hhundreds]
  rfl

/-- Every word is one at least, and a million at most. -/
lemma bounds_of_mem_spell (hn : n < 1000000000) : ∀ v ∈ spell n, 1 ≤ v ∧ v ≤ 1000000 := by
  have h100 (m : Nat) (hm : m < 100) : ∀ v ∈ below100 m, 1 ≤ v ∧ v ≤ 1000000 := by
    intro v hv
    rw [below100] at hv
    grind
  have h1000 (m : Nat) (hm : m < 1000) : ∀ v ∈ below1000 m, 1 ≤ v ∧ v ≤ 1000000 := by
    refine List.forall_mem_append.mpr ⟨fun v hv => ?_, h100 _ (Nat.mod_lt m (by omega))⟩
    grind
  have hgroup (m scale : Nat) (hm : m < 1000) (hscale : 1 ≤ scale ∧ scale ≤ 1000000) :
      ∀ v ∈ group m scale, 1 ≤ v ∧ v ≤ 1000000 := by
    rw [group]
    split
    · simp
    · exact List.forall_mem_append.mpr ⟨h1000 m hm, by simpa using hscale⟩
  exact List.forall_mem_append.mpr ⟨List.forall_mem_append.mpr
    ⟨hgroup _ _ (by omega) (by omega), hgroup _ _ (by omega) (by omega)⟩, h1000 _ (by omega)⟩

/-- No word "hundred" stands behind a thousand or a million, and no thousands behind millions. -/
def IsFlat (n : Nat) : Prop :=
  n < 1000 ∨ n < 1000000 ∧ n % 1000 < 100 ∨ n % 1000000 < 100

lemma group_zero (scale : Nat) : group 0 scale = [] := rfl

/-- Without another hundred or thousand behind a scale the words come to the number. -/
lemma total?_spell (hpos : 0 < n) (hn : n < 1000000000) (h : IsFlat n) :
    total? (spell n) = some n := by
  rw [spell]
  rcases Nat.eq_zero_or_pos (n / 1000000) with hmillions | hmillions
  · rcases Nat.eq_zero_or_pos (n / 1000 % 1000) with hthousands | hthousands
    · have hunits : n % 1000 = n := by omega
      rw [hmillions, hthousands, hunits]
      exact total?_below1000 hpos (by omega)
    · have hunits : n % 1000 < 100 := by
        rcases h with h | ⟨-, h⟩ | h <;> omega
      have hsum : n / 1000 % 1000 * 1000 + n % 1000 = n := by omega
      rw [hmillions, group_zero, List.nil_append, below1000_of_lt hunits,
        total?_group_append hthousands (by omega) (.inl rfl) hunits, hsum]
  · have hunits : n % 1000000 < 100 := by
      rcases h with h | ⟨h, -⟩ | h <;> omega
    have hthousands : n / 1000 % 1000 = 0 := by omega
    have hsum : n / 1000000 * 1000000 + n % 1000 = n := by omega
    rw [hthousands, group_zero, List.append_nil, below1000_of_lt (by omega),
      total?_group_append hmillions (by omega) (.inr rfl) (by omega), hsum]

/-- Another hundred or thousand behind a scale stays apart. -/
lemma splits_spell (hn : n < 1000000000) (h : ¬IsFlat n) : Splits (spell n) := by
  have hwords : ∀ v ∈ spell n, 1 ≤ v := fun v hv => (bounds_of_mem_spell hn v hv).1
  simp only [IsFlat, not_or, not_and, Nat.not_lt] at h
  have hfront {front rest : List Nat} {b : Nat} (hspell : spell n = front ++ b :: rest) :
      ∀ v ∈ rest, 1 ≤ v := fun v hv => hwords v (by simp [hspell, hv])
  rcases Nat.eq_zero_or_pos (n / 1000000) with hmillions | hmillions
  · -- thousands, and a hundred behind them
    have hspell : spell n = group (n / 1000 % 1000) 1000 ++ below100 (n % 1000 / 100)
        ++ 100 :: below100 (n % 1000 % 100) := by
      rw [spell, hmillions, group_zero, List.nil_append,
        below1000_of_le (by omega) (by omega), List.append_assoc]
    rw [hspell]
    exact splits_group_append (by omega) (by omega) (.inl rfl) (by omega) (.inl rfl) (hfront hspell)
  rcases Nat.lt_or_ge (n / 1000 % 1000) 100 with hthousands | hthousands
  · rcases Nat.eq_zero_or_pos (n / 1000 % 1000) with hzero | hpos
    · -- millions, and a hundred behind them
      have hspell : spell n = group (n / 1000000) 1000000 ++ below100 (n % 1000 / 100)
          ++ 100 :: below100 (n % 1000 % 100) := by
        rw [spell, hzero, group_zero, List.append_nil, below1000_of_le (by omega) (by omega),
          List.append_assoc]
      rw [hspell]
      exact splits_group_append hmillions (by omega) (.inr rfl) (by omega) (.inl rfl)
        (hfront hspell)
    · -- millions, and less than a hundred thousands behind them
      have hspell : spell n = group (n / 1000000) 1000000 ++ below100 (n / 1000 % 1000)
          ++ 1000 :: below1000 (n % 1000) := by
        rw [spell, group, group, if_neg (Nat.ne_of_gt hpos), below1000_of_lt hthousands]
        simp only [List.append_assoc, List.cons_append, List.nil_append]
      rw [hspell]
      exact splits_group_append hmillions (by omega) (.inr rfl) hthousands (.inr rfl)
        (hfront hspell)
  · -- millions, and hundreds of thousands behind them
    have hspell : spell n = group (n / 1000000) 1000000 ++ below100 (n / 1000 % 1000 / 100)
        ++ 100 :: (below100 (n / 1000 % 1000 % 100) ++ 1000 :: below1000 (n % 1000)) := by
      rw [spell, group, group, if_neg (by omega : ¬n / 1000 % 1000 = 0),
        below1000_of_le hthousands (by omega)]
      simp only [List.append_assoc, List.cons_append, List.nil_append]
    rw [hspell]
    exact splits_group_append hmillions (by omega) (.inr rfl) (by omega) (.inl rfl) (hfront hspell)

/-- **Joining ends in the number alone**, if no word "hundred", and no thousands behind millions,
come after a thousand or a million. -/
theorem run_spell (hpos : 0 < n) (hn : n < 1000000000) (hflat : IsFlat n) {budget : Nat}
    (hbudget : (spell n).length ≤ budget + 1) :
    Repetition.run step? budget (spell n) = ([n], false) := by
  have htotal : total? (Repetition.run step? budget (spell n)).1 = some n :=
    Repetition.run_induction (p := fun words => total? words = some n)
      (fun _ _ => total?_of_step?) (total?_spell hpos hn hflat)
  have hsmaller (words words' : List Nat) (h : step? words = some words') :
      words'.length - 1 < words.length - 1 := by
    have hlength := length_of_step? h
    have htwo := two_le_length_of_step? h
    omega
  have hwithin : (Repetition.run step? budget (spell n)).2 = false :=
    Repetition.run_of_decreasing step? hsmaller (by omega)
  have hend := Repetition.step?_run_eq_none hwithin
  exact Prod.ext (eq_singleton_of_total? htotal hend) hwithin

/-- **Otherwise two numbers stay**, whatever the budget. -/
theorem two_le_length_run_spell (hn : n < 1000000000) (hflat : ¬IsFlat n) (budget : Nat) :
    2 ≤ (Repetition.run step? budget (spell n)).1.length := by
  have hsplits : Splits (Repetition.run step? budget (spell n)).1 :=
    Repetition.run_induction (fun _ _ => Splits.of_step?) (splits_spell hn hflat)
  exact hsplits.two_le_length

end Spelling

end Numeral

end ChatCommand
