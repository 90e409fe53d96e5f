/-
What the automaton of an expression lets through.

* `Automaton.Holds`: nodes stand in an automaton from a state on;
* `Automaton.Links`: the walks from one state are those from another, from where a relation leads;
* `Automaton.Links.comp`, `Automaton.Links.fork`, `Automaton.Links.loop`: links one after the other,
  at a fork, and around;
* `Fragment.Realizes`: wherever a fragment stands, it links its entry with its exit;
* `Regex.realizes_fragment`: a fragment leads where its expression does;
* `Regex.spans_iff_exists_way`: **an expression leads from the beginning to a place exactly if a way
  through its automaton ends there**.
-/
import ChatCommand.Proofs.Regex.Language
import ChatCommand.Proofs.Regex.Ways

namespace ChatCommand

namespace Automaton

variable {a : Automaton} {text : List Char}

/-! ### Nodes in an automaton -/

/-- The nodes stand in the automaton from a state on. -/
def Holds (a : Automaton) : Nat → List Node → Prop
  | _, [] => True
  | state, node :: nodes => a.nodes[state]? = some node ∧ a.Holds (state + 1) nodes

lemma holds_append {state : Nat} {l m : List Node} :
    a.Holds state (l ++ m) ↔ a.Holds state l ∧ a.Holds (state + l.length) m := by
  induction l generalizing state with
  | nil => simp [Holds]
  | cons node l ih =>
      rw [List.cons_append, Holds, Holds, ih, and_assoc, List.length_cons, Nat.add_right_comm,
        Nat.add_assoc]

lemma holds_toArray (front nodes : List Node) :
    (⟨(front ++ nodes).toArray⟩ : Automaton).Holds front.length nodes := by
  induction nodes generalizing front with
  | nil => trivial
  | cons node nodes ih =>
      refine ⟨by simp, ?_⟩
      have h := ih (front ++ [node])
      rwa [List.append_assoc, List.length_append] at h

lemma next_eq_map_step {p i : Nat} {node : Node} (h : a.nodes[p]? = some node) :
    a.next text ⟨p, i⟩ = (node.step ⟨p, i, text.drop i, []⟩).map Thread.spot := by
  rw [next, h]
  rfl

/-! ### Links -/

/-- The walks from one state are those from another, from where a relation leads. -/
structure Links (a : Automaton) (text : List Char) (p q : Nat) (R : Nat → Nat → Prop) : Prop where
  passes {n i : Nat} {z : Spot} (walk : Walk a text n ⟨p, i⟩ z) :
    ∃ m ≤ n, ∃ k, R i k ∧ Walk a text m ⟨q, k⟩ z
  leads {n i k : Nat} {z : Spot} (h : R i k) (walk : Walk a text n ⟨q, k⟩ z) :
    ∃ m, Walk a text m ⟨p, i⟩ z

/-- A walk does not end at a node. -/
lemma Walk.exists_step {n p i : Nat} {z : Spot} {node : Node} (hnode : a.nodes[p]? = some node)
    (h : Walk a text n ⟨p, i⟩ z) :
    ∃ m y, n = m + 1 ∧ y ∈ a.next text ⟨p, i⟩ ∧ Walk a text m y z := by
  cases h with
  | final hfinal =>
      rw [IsFinal, hnode] at hfinal
      contradiction
  | move hstep rest => exact ⟨_, _, rfl, hstep, rest⟩

namespace Links

variable {p q r : Nat} {R S : Nat → Nat → Prop}

lemma refl : Links a text p p Eq where
  passes walk := ⟨_, Nat.le_refl _, _, rfl, walk⟩
  leads h walk := ⟨_, h ▸ walk⟩

/-- One link after the other. -/
lemma comp (h : Links a text p q R) (h' : Links a text q r S) :
    Links a text p r (Relation.Comp R S) where
  passes walk := by
    obtain ⟨m, hm, j, hj, walk⟩ := h.passes walk
    obtain ⟨m', hm', k, hk, walk⟩ := h'.passes walk
    exact ⟨m', Nat.le_trans hm' hm, k, ⟨j, hj, hk⟩, walk⟩
  leads := by
    rintro n i k z ⟨j, hj, hk⟩ walk
    obtain ⟨m, walk⟩ := h'.leads hk walk
    exact h.leads hj walk

/-- A node links a state with the one where it leads. -/
lemma ofNode {node : Node} (hnode : a.nodes[p]? = some node)
    (h : ∀ i y, y ∈ a.next text ⟨p, i⟩ ↔ ∃ k, R i k ∧ y = ⟨q, k⟩) : Links a text p q R where
  passes walk := by
    obtain ⟨m, y, rfl, hy, walk⟩ := walk.exists_step hnode
    obtain ⟨k, hk, rfl⟩ := (h _ _).mp hy
    exact ⟨m, m.le_succ, k, hk, walk⟩
  leads hk walk := ⟨_, .move ((h _ _).mpr ⟨_, hk, rfl⟩) walk⟩

lemma pass (hnode : a.nodes[p]? = some (.pass q)) : Links a text p q Eq :=
  .ofNode hnode fun i y => by
    rw [next_eq_map_step hnode]
    simp [Node.step, Thread.spot]

lemma mark {m : GroupMark} (hnode : a.nodes[p]? = some (.mark m q)) : Links a text p q Eq :=
  .ofNode hnode fun i y => by
    rw [next_eq_map_step hnode]
    simp [Node.step, Thread.spot]

lemma atStart (hnode : a.nodes[p]? = some (.atStart q)) :
    Links a text p q (Regex.textStart.Spans text) :=
  .ofNode hnode fun i y => by
    rw [next_eq_map_step hnode]
    by_cases hi : i = 0 <;> simp [Node.step, Thread.spot, Regex.Spans, hi]

lemma atEnd (hnode : a.nodes[p]? = some (.atEnd q)) :
    Links a text p q (Regex.textEnd.Spans text) :=
  .ofNode hnode fun i y => by
    rw [next_eq_map_step hnode]
    by_cases hi : text.drop i = [] <;> simp [Node.step, Thread.spot, Regex.Spans, hi]

lemma read {set : CharSet} (hnode : a.nodes[p]? = some (.read set q)) :
    Links a text p q ((Regex.char set).Spans text) :=
  .ofNode hnode fun i y => by
    rw [next_eq_map_step hnode, Node.step]
    simp only [Regex.Spans, ← List.head?_drop]
    cases text.drop i with
    | nil => simp
    | cons c rest => by_cases hc : set.contains c <;> simp [Thread.spot, hc]

lemma mem_next_choose {greedy : Bool} {on off i : Nat} {y : Spot}
    (hnode : a.nodes[p]? = some (.choose greedy on off)) :
    y ∈ a.next text ⟨p, i⟩ ↔ y = ⟨on, i⟩ ∨ y = ⟨off, i⟩ := by
  rw [next_eq_map_step hnode]
  cases greedy
  · simp [Node.choose, Node.step, Thread.spot, or_comm]
  · simp [Node.choose, Node.step, Thread.spot]

/-- From a choice walks go on in either branch. -/
lemma choose {greedy : Bool} {on off : Nat} (hnode : a.nodes[p]? = some (.choose greedy on off))
    (hon : Links a text on q R) (hoff : Links a text off q S) :
    Links a text p q fun i k => R i k ∨ S i k where
  passes walk := by
    obtain ⟨m, y, rfl, hy, walk⟩ := walk.exists_step hnode
    rcases (mem_next_choose hnode).mp hy with rfl | rfl
    · obtain ⟨m', hm', k, hk, walk⟩ := hon.passes walk
      exact ⟨m', Nat.le_succ_of_le hm', k, .inl hk, walk⟩
    · obtain ⟨m', hm', k, hk, walk⟩ := hoff.passes walk
      exact ⟨m', Nat.le_succ_of_le hm', k, .inr hk, walk⟩
  leads := by
    rintro n i k z (hk | hk) walk
    · obtain ⟨m, walk⟩ := hon.leads hk walk
      exact ⟨m + 1, .move ((mem_next_choose hnode).mpr (.inl rfl)) walk⟩
    · obtain ⟨m, walk⟩ := hoff.leads hk walk
      exact ⟨m + 1, .move ((mem_next_choose hnode).mpr (.inr rfl)) walk⟩

/-- From a choice walks go on in rounds that lead back to it, and then off. -/
lemma loop {greedy : Bool} {on : Nat} (hnode : a.nodes[p]? = some (.choose greedy on q))
    (h : Links a text on p R) : Links a text p q (RoundsWithin R 0 none) where
  passes := by
    -- a round makes the walk shorter, since it goes through the choice
    intro n
    induction n using Nat.strongRecOn with
    | _ n ih =>
      intro i z walk
      obtain ⟨m, y, rfl, hy, walk⟩ := walk.exists_step hnode
      rcases (mem_next_choose hnode).mp hy with rfl | rfl
      · obtain ⟨m₁, hm₁, j, hj, walk⟩ := h.passes walk
        obtain ⟨m₂, hm₂, k, ⟨count, -, -, hrounds⟩, walk⟩ := ih m₁ (Nat.lt_succ_of_le hm₁) walk
        exact ⟨m₂, Nat.le_trans hm₂ (Nat.le_succ_of_le hm₁), k,
          ⟨count + 1, Nat.zero_le _, by simp, j, hj, hrounds⟩, walk⟩
      · exact ⟨m, m.le_succ, i, roundsWithin_zero_iff.mpr (.inr rfl), walk⟩
  leads := by
    rintro n i k z ⟨count, -, -, hrounds⟩ walk
    induction count generalizing i with
    | zero =>
        obtain rfl := hrounds
        exact ⟨n + 1, .move ((mem_next_choose hnode).mpr (.inr rfl)) walk⟩
    | succ count ih =>
        obtain ⟨j, hj, hrounds⟩ := hrounds
        obtain ⟨m, walk⟩ := ih hrounds
        obtain ⟨m, walk⟩ := h.leads hj walk
        exact ⟨m + 1, .move ((mem_next_choose hnode).mpr (.inl rfl)) walk⟩

end Links

end Automaton

/-! ### Fragments -/

namespace Fragment

variable {f g : Fragment} {text : List Char} {R S : Nat → Nat → Prop}

/-- Wherever the fragment stands, it links its entry with its exit. -/
def Realizes (f : Fragment) (text : List Char) (R : Nat → Nat → Prop) : Prop :=
  ∀ ⦃a : Automaton⦄ ⦃entry exit : Nat⦄, a.Holds entry (f.nodes entry exit) →
    a.Links text entry exit R

lemma realizes_pass : (ofNode .pass).Realizes text Eq :=
  fun _ _ _ h => .pass h.1

lemma realizes_mark (m : GroupMark) : (ofNode (.mark m)).Realizes text Eq :=
  fun _ _ _ h => .mark h.1

lemma realizes_read (set : CharSet) :
    (ofNode (.read set)).Realizes text ((Regex.char set).Spans text) :=
  fun _ _ _ h => .read h.1

namespace Realizes

lemma seq (hsized : f.Sized) (hf : f.Realizes text R) (hg : g.Realizes text S) :
    (f.seq g).Realizes text (Relation.Comp R S) := by
  intro a entry exit h
  rw [Fragment.seq, Automaton.holds_append, hsized] at h
  exact (hf h.1).comp (hg h.2)

lemma choice (hsized : f.Sized) (hf : f.Realizes text R) (hg : g.Realizes text S) :
    (f.choice g).Realizes text fun i k => R i k ∨ S i k := by
  intro a entry exit h
  have hnode : a.nodes[entry]? = some (.choose true (entry + 1) (entry + 1 + f.size)) := h.1
  have hnodes : a.Holds (entry + 1)
      (f.nodes (entry + 1) exit ++ g.nodes (entry + 1 + f.size) exit) := h.2
  rw [Automaton.holds_append, hsized] at hnodes
  exact .choose hnode (hf hnodes.1) (hg hnodes.2)

lemma optional (greedy : Bool) (hf : f.Realizes text R) :
    (f.optional greedy).Realizes text fun i k => R i k ∨ i = k :=
  fun _ _ _ h => .choose h.1 (hf h.2) .refl

lemma loop (greedy : Bool) (hf : f.Realizes text R) :
    (f.loop greedy).Realizes text (RoundsWithin R 0 none) :=
  fun _ _ _ h => .loop h.1 (hf h.2)

lemma many (greedy : Bool) (hsized : f.Sized) (hf : f.Realizes text R) :
    (f.many greedy).Realizes text (RoundsWithin R 1 none) := by
  intro a entry exit h
  rw [Fragment.many, Automaton.holds_append, hsized] at h
  rw [← Option.map_none (1 + ·), ← comp_roundsWithin_zero]
  exact (hf h.1).comp (.loop h.2.1 (hf h.1))

lemma copies (hsized : f.Sized) (hf : f.Realizes text R) (count : Nat) :
    (f.copies count).Realizes text (Rounds R count) := by
  induction count with
  | zero => exact realizes_pass
  | succ count ih => exact hf.seq hsized ih

lemma upTo (greedy : Bool) (hsized : f.Sized) (hf : f.Realizes text R) (most : Nat) :
    (f.upTo greedy most).Realizes text (RoundsWithin R 0 (some most)) := by
  induction most with
  | zero =>
      rw [roundsWithin_zero_zero]
      exact realizes_pass
  | succ most ih =>
      have h := (hf.seq hsized ih).optional greedy
      rw [comp_roundsWithin_zero, Option.map_some, Nat.add_comm] at h
      rw [roundsWithin_zero]
      exact h

lemma group (name : String) (hsized : f.Sized) (hf : f.Realizes text R) :
    (f.group name).Realizes text R := by
  have h := (realizes_mark (.opening name)).seq (sized_ofNode _)
    (hf.seq hsized (realizes_mark (.closing name)))
  rwa [Relation.eq_comp, Relation.comp_eq] at h

end Realizes

lemma cons_prefix_drop_iff {c : Char} {s : List Char} {i : Nat} :
    c :: s <+: text.drop i ↔ text[i]? = some c ∧ s <+: text.drop (i + 1) := by
  rw [← List.head?_drop, ← List.tail_drop]
  cases text.drop i with
  | nil => simp
  | cons d rest => simp [List.cons_prefix_cons, eq_comm]

lemma realizes_text (s : List Char) :
    (Fragment.text s).Realizes text ((Regex.text s).Spans text) := by
  induction s with
  | nil =>
      have h : (Regex.text []).Spans text = Eq := by
        ext i k
        simp [Regex.Spans, eq_comm]
      rw [h]
      exact realizes_pass
  | cons c s ih =>
      have h : (Regex.text (c :: s)).Spans text
          = Relation.Comp ((Regex.char (.singleton c)).Spans text) ((Regex.text s).Spans text) := by
        ext i k
        simp only [Regex.Spans, Relation.Comp, cons_prefix_drop_iff, CharSet.contains_singleton,
          List.length_cons]
        constructor
        · rintro ⟨⟨hc, hs⟩, hk⟩
          exact ⟨i + 1, ⟨c, hc, rfl, rfl⟩, hs, by omega⟩
        · rintro ⟨j, ⟨d, hd, rfl, rfl⟩, hs, hk⟩
          exact ⟨⟨hd, hs⟩, by omega⟩
      rw [h]
      exact (realizes_read _).seq (sized_ofNode _) ih

end Fragment

namespace Regex

variable {text : List Char}

/-- **A fragment leads where its expression does.** -/
theorem realizes_fragment {e : Regex} (he : e.IsProper) :
    e.fragment.Realizes text (e.Spans text) := by
  fun_induction fragment e with
  | case1 s => exact Fragment.realizes_text s
  | case2 set => exact Fragment.realizes_read set
  | case3 a b iha ihb => exact (iha he.1).seq a.sized_fragment (ihb he.2)
  | case4 a b iha ihb => exact (iha he.1).choice a.sized_fragment (ihb he.2)
  | case5 greedy a hsolid ih => exact (ih he.2).loop greedy
  | case6 greedy a hsolid ih =>
      rw [Spans, roundsWithin_zero]
      exact ((ih he.2).many greedy a.sized_fragment).optional greedy
  | case7 least greedy a ih =>
      have h := ((ih he.2).copies a.sized_fragment least).seq (a.sized_fragment.copies least)
        ((ih he.2).many greedy a.sized_fragment)
      rwa [comp_roundsWithin] at h
  | case8 least most greedy a ih =>
      have h := ((ih he.2).copies a.sized_fragment least).seq (a.sized_fragment.copies least)
        ((ih he.2).upTo greedy a.sized_fragment (most - least))
      rwa [comp_roundsWithin, Nat.add_zero, Option.map_some,
        Nat.add_sub_cancel' (he.1 most rfl)] at h
  | case9 a ih => exact ih he
  | case10 name a ih => exact (ih he).group name a.sized_fragment
  | case11 => exact fun _ _ _ h => .atStart h.1
  | case12 => exact fun _ _ _ h => .atEnd h.1

lemma holds_automaton (e : Regex) :
    e.automaton.Holds 0 (e.fragment.nodes 0 e.fragment.size) :=
  Automaton.holds_toArray [] _

lemma isFinal_exit (e : Regex) (k : Nat) : e.automaton.IsFinal ⟨e.fragment.size, k⟩ :=
  Array.getElem?_eq_none (Nat.le_of_eq e.size_nodes_automaton)

/-- **An expression leads from the beginning to a place exactly if a way through its automaton ends
there.** -/
theorem spans_iff_exists_way {e : Regex} (he : e.IsProper) {k : Nat} :
    e.Spans text 0 k ↔ ∃ path z, e.automaton.Way text ⟨0, 0⟩ path z ∧ z.position = k := by
  have hlinks : e.automaton.Links text 0 e.fragment.size (e.Spans text) :=
    realizes_fragment he e.holds_automaton
  constructor
  · intro h
    obtain ⟨n, walk⟩ := hlinks.leads h (.final (e.isFinal_exit k))
    obtain ⟨path, way⟩ := walk.exists_way
    exact ⟨path, _, way, rfl⟩
  · rintro ⟨path, z, way, rfl⟩
    obtain ⟨n, walk⟩ := way.exists_walk
    obtain ⟨m, -, k, hk, walk⟩ := hlinks.passes walk
    cases walk with
    | final => exact hk
    | move hstep => simp [(e.isFinal_exit k).next_eq] at hstep

end Regex

end ChatCommand
