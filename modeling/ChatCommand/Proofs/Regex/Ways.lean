/-
Ways through an automaton.

Of the threads that come to a state at a place only the first goes on. What the search finds is
therefore said of ways that come to no state twice at one place, and of these it finds the first.

* `Spot`, `Automaton.next`: a state at a place, and where a thread goes from there;
* `Automaton.Way`: a way to the final state that comes to no spot twice;
* `Automaton.Before`: at the fork where two ways part, the first takes the preferred branch;
* `Automaton.Walk.exists_way`: where a walk comes to, a way does;
* `Automaton.Clear`, `Automaton.Finds`: ways on which no thread has been, and what becomes of some
  threads;
* `Automaton.finds_search`: the search finds the first of these ways;
* `Automaton.run_eq_some_iff`: **a run ends where the way that is before all others does**.
-/
import Mathlib.Data.List.Basic
import ChatCommand.Regex.Match

namespace ChatCommand

/-! ### Spots -/

/-- A state of an automaton and a place of a text. -/
@[ext]
structure Spot where
  state : Nat
  position : Nat
deriving DecidableEq

def Thread.spot (t : Thread) : Spot := ⟨t.state, t.position⟩

/-- A thread at a spot that has passed no marks. -/
def Spot.thread (text : List Char) (x : Spot) : Thread :=
  ⟨x.state, x.position, text.drop x.position, []⟩

/-- Where a thread goes does not depend on its marks. -/
lemma Node.map_spot_step (node : Node) {t t' : Thread} (hposition : t.position = t'.position)
    (hrest : t.rest = t'.rest) :
    (node.step t).map Thread.spot = (node.step t').map Thread.spot := by
  cases node <;> simp only [Node.step, hposition, hrest]
  case read => split <;> [rfl; (split <;> simp [Thread.spot])]
  case atStart => split <;> simp [Thread.spot]
  case atEnd => split <;> simp [Thread.spot]
  all_goals simp [Thread.spot]

/-- A thread stays at its place, or goes over the character behind it. -/
lemma Node.stays_or_reads_of_mem_step {node : Node} {t t' : Thread} (h : t' ∈ node.step t) :
    (t'.position = t.position ∧ t'.rest = t.rest)
      ∨ ∃ c, t.rest = c :: t'.rest ∧ t'.position = t.position + 1 := by
  cases node with
  | read set next =>
      rw [Node.step] at h
      split at h
      · simp at h
      · next c rest hrest =>
          split at h
          · rw [List.mem_singleton.mp h]
            exact .inr ⟨c, hrest, rfl⟩
          · simp at h
  | fork first second =>
      rcases List.mem_pair.mp h with rfl | rfl <;> exact .inl ⟨rfl, rfl⟩
  | atStart next =>
      rw [Node.step] at h
      split at h
      · rw [List.mem_singleton.mp h]
        exact .inl ⟨rfl, rfl⟩
      · simp at h
  | atEnd next =>
      rw [Node.step] at h
      split at h
      · rw [List.mem_singleton.mp h]
        exact .inl ⟨rfl, rfl⟩
      · simp at h
  | pass next =>
      rw [List.mem_singleton.mp h]
      exact .inl ⟨rfl, rfl⟩
  | mark m next =>
      rw [List.mem_singleton.mp h]
      exact .inl ⟨rfl, rfl⟩

/-- A thread has before it what stands behind its place. -/
lemma Node.rest_of_mem_step {node : Node} {text : List Char} {t t' : Thread}
    (ht : t.rest = text.drop t.position) (h : t' ∈ node.step t) :
    t'.rest = text.drop t'.position := by
  rcases stays_or_reads_of_mem_step h with ⟨hposition, hrest⟩ | ⟨c, hrest, hposition⟩
  · rw [hrest, hposition, ht]
  · rw [hposition, ← List.drop_drop, ← ht, hrest]
    rfl

lemma Node.length_step_le (node : Node) (t : Thread) : (node.step t).length ≤ 2 := by
  cases node <;> simp only [Node.step]
  case read => split <;> [simp; (split <;> simp)]
  case atStart => split <;> simp
  case atEnd => split <;> simp
  all_goals simp

namespace Automaton

variable {a : Automaton} {text : List Char}

/-- Where a thread goes from a spot, in order of preference. -/
def next (a : Automaton) (text : List Char) (x : Spot) : List Spot :=
  match a.nodes[x.state]? with
  | none => []
  | some node => (node.step (x.thread text)).map Thread.spot

/-- The state is the final one. -/
def IsFinal (a : Automaton) (x : Spot) : Prop := a.nodes[x.state]? = none

lemma IsFinal.next_eq {x : Spot} (h : a.IsFinal x) : a.next text x = [] := by
  rw [next, show a.nodes[x.state]? = none from h]

lemma map_spot_step {node : Node} {t : Thread} (hnode : a.nodes[t.state]? = some node)
    (ht : t.rest = text.drop t.position) :
    (node.step t).map Thread.spot = a.next text t.spot := by
  rw [next, show a.nodes[t.spot.state]? = some node from hnode]
  exact node.map_spot_step rfl ht

lemma length_next_le (a : Automaton) (text : List Char) (x : Spot) :
    (a.next text x).length ≤ 2 := by
  unfold next
  split
  · simp
  · rw [List.length_map]
    exact Node.length_step_le _ _

/-! ### Ways -/

/-- A way to the final state that comes to no spot twice, by its spots. -/
inductive Way (a : Automaton) (text : List Char) : Spot → List Spot → Spot → Prop
  | final {z : Spot} (h : a.IsFinal z) : Way a text z [z] z
  | move {x y z : Spot} {path : List Spot} (h : y ∈ a.next text x) (rest : Way a text y path z)
      (fresh : x ∉ path) : Way a text x (x :: path) z

/-- The first way takes a branch that comes before that of the second, where they part. -/
inductive Before (a : Automaton) (text : List Char) : List Spot → List Spot → Prop
  | fork {x u v : Spot} {path path' : List Spot} (h : [u, v].Sublist (a.next text x))
      (differ : u ≠ v) : Before a text (x :: u :: path) (x :: v :: path')
  | later {x : Spot} {path path' : List Spot} (h : Before a text path path') :
      Before a text (x :: path) (x :: path')

/-- The first way is the second, or before it. -/
abbrev Leads (a : Automaton) (text : List Char) (path path' : List Spot) : Prop :=
  path' = path ∨ Before a text path path'

/-- A walk to the final state. -/
inductive Walk (a : Automaton) (text : List Char) : Nat → Spot → Spot → Prop
  | final {z : Spot} (h : a.IsFinal z) : Walk a text 0 z z
  | move {n : Nat} {x y z : Spot} (h : y ∈ a.next text x) (rest : Walk a text n y z) :
      Walk a text (n + 1) x z

namespace Way

variable {x y z : Spot} {path path' : List Spot}

lemma exists_cons (h : Way a text x path z) : ∃ rest, path = x :: rest := by
  cases h with
  | final => exact ⟨[], rfl⟩
  | move => exact ⟨_, rfl⟩

lemma start_mem (h : Way a text x path z) : x ∈ path := by
  obtain ⟨rest, rfl⟩ := h.exists_cons
  exact List.mem_cons_self

/-- A way goes on from each of its spots. -/
lemma exists_suffix (h : Way a text x path z) (hy : y ∈ path) :
    ∃ path', path' <:+ path ∧ Way a text y path' z := by
  induction h with
  | final hfinal =>
      obtain rfl := List.mem_singleton.mp hy
      exact ⟨_, List.suffix_refl _, .final hfinal⟩
  | move hstep rest hfresh ih =>
      rcases List.mem_cons.mp hy with rfl | hy
      · exact ⟨_, List.suffix_refl _, .move hstep rest hfresh⟩
      · obtain ⟨path', hsuffix, hway⟩ := ih hy
        exact ⟨path', hsuffix.trans (List.suffix_cons _ _), hway⟩

lemma getLast?_eq (h : Way a text x path z) : path.getLast? = some z := by
  induction h with
  | final => rfl
  | move _ rest _ ih =>
      obtain ⟨path', rfl⟩ := rest.exists_cons
      rwa [List.getLast?_cons_cons]

/-- A way ends at one spot. -/
lemma end_unique {x' z' : Spot} (h : Way a text x path z) (h' : Way a text x' path z') : z = z' :=
  Option.some.inj (h.getLast?_eq.symm.trans h'.getLast?_eq)

lemma exists_walk (h : Way a text x path z) : ∃ n, Walk a text n x z := by
  induction h with
  | final hfinal => exact ⟨0, .final hfinal⟩
  | move hstep _ _ ih =>
      obtain ⟨n, hwalk⟩ := ih
      exact ⟨n + 1, .move hstep hwalk⟩

end Way

/-- Where a walk comes to, a way does: it leaves out what leads back. -/
lemma Walk.exists_way {n : Nat} {x z : Spot} (h : Walk a text n x z) :
    ∃ path, Way a text x path z := by
  induction h with
  | final hfinal => exact ⟨_, .final hfinal⟩
  | @move n x y z hstep _ ih =>
      obtain ⟨path, hway⟩ := ih
      by_cases hx : x ∈ path
      · obtain ⟨path', -, hway'⟩ := hway.exists_suffix hx
        exact ⟨path', hway'⟩
      · exact ⟨_, .move hstep hway hx⟩

lemma Before.head_eq {path path' : List Spot} (h : Before a text path path') :
    path.head? = path'.head? := by
  cases h <;> rfl

/-- No two ways are before each other. -/
lemma Before.asymm {path path' : List Spot} (h : Before a text path path') :
    ¬Before a text path' path := by
  induction h with
  | @fork x u v path path' hsub hne =>
      intro h
      cases h with
      | fork hsub' =>
          have hlength := length_next_le a text x
          have heq := hsub.eq_of_length_le hlength
          have heq' := hsub'.eq_of_length_le hlength
          exact hne (List.cons.inj (heq.trans heq'.symm)).1
      | later h => exact hne (Option.some.inj h.head_eq).symm
  | later h ih =>
      intro h'
      cases h' with
      | fork _ hne => exact hne (Option.some.inj h.head_eq).symm
      | later h' => exact ih h'

/-! ### The search -/

section Search

variable {seen : Array Bool} {x y z : Spot} {path : List Spot}

/-- The place in the marks of a state at a place. -/
def index (a : Automaton) (x : Spot) : Nat := x.position * a.nodes.size + x.state

/-- A thread has been at the spot, which is none of the final state. -/
def Marked (a : Automaton) (seen : Array Bool) (x : Spot) : Prop :=
  x.state < a.nodes.size ∧ seen[a.index x]? ≠ some false

/-- A way on which no thread has been. -/
def Clear (a : Automaton) (text : List Char) (seen : Array Bool) (x : Spot) (path : List Spot)
    (z : Spot) : Prop :=
  Way a text x path z ∧ ∀ y ∈ path, ¬Marked a seen y

lemma index_inj (hx : x.state < a.nodes.size) (hy : y.state < a.nodes.size)
    (h : a.index x = a.index y) : x = y := by
  have hstate : x.state = y.state := by
    have hmod := congrArg (· % a.nodes.size) h
    simpa only [index, Nat.mul_add_mod', Nat.mod_eq_of_lt hx, Nat.mod_eq_of_lt hy] using hmod
  rw [index, index, hstate, Nat.add_right_cancel_iff] at h
  exact Spot.ext hstate (Nat.eq_of_mul_eq_mul_right (Nat.zero_lt_of_lt hx) h)

lemma marked_set_iff (hx : x.state < a.nodes.size) (hindex : a.index x < seen.size) :
    Marked a (seen.set (a.index x) true hindex) y ↔ y = x ∨ Marked a seen y := by
  by_cases hy : y.state < a.nodes.size
  · simp only [Marked, hy, true_and, Array.getElem?_set]
    by_cases heq : y = x
    · simp [heq]
    · have hne : a.index x ≠ a.index y := fun h => heq (index_inj hx hy h).symm
      simp [heq, hne]
  · have hne : y ≠ x := fun h => hy (h ▸ hx)
    simp [Marked, hy, hne]

lemma clear_set_iff (hx : x.state < a.nodes.size) (hindex : a.index x < seen.size) :
    Clear a text (seen.set (a.index x) true hindex) y path z ↔
      Clear a text seen y path z ∧ x ∉ path := by
  simp only [Clear, marked_set_iff hx hindex, not_or, and_assoc]
  refine and_congr_right fun _ => ⟨fun h => ?_, fun h u hu => ?_⟩
  · exact ⟨fun u hu => (h u hu).2, fun hmem => (h x hmem).1 rfl⟩
  · exact ⟨fun heq => h.2 (heq ▸ hu), h.1 u hu⟩

lemma Clear.suffix (h : Clear a text seen x path z) (hy : y ∈ path) :
    ∃ path', Clear a text seen y path' z := by
  obtain ⟨path', hsuffix, hway⟩ := h.1.exists_suffix hy
  exact ⟨path', hway, fun u hu => h.2 u (hsuffix.subset hu)⟩

/-- From a marked spot nothing is clear. -/
lemma not_clear_of_marked (h : Marked a seen x) : ¬Clear a text seen x path z :=
  fun hclear => hclear.2 x hclear.1.start_mem h

/-- From a spot that is not final a clear way goes on from one of the next spots, where nothing is
clear that comes back. -/
lemma Clear.exists_next (hindex : a.index x < seen.size) (hx : x.state < a.nodes.size)
    (h : Clear a text seen x path z) :
    ∃ y ∈ a.next text x, ∃ path', path = x :: path'
      ∧ Clear a text (seen.set (a.index x) true hindex) y path' z := by
  obtain ⟨hway, hclear⟩ := h
  cases hway with
  | final hfinal => exact absurd hx (Nat.not_lt.mpr (Array.getElem?_eq_none_iff.mp hfinal))
  | move hstep hrest hfresh =>
      exact ⟨_, hstep, _, rfl, (clear_set_iff hx hindex).mpr
        ⟨⟨hrest, fun u hu => hclear u (List.mem_cons_of_mem _ hu)⟩, hfresh⟩⟩

/-- What becomes of some threads: one of them finds the first of its clear ways and those before it
have none, or none has any. -/
inductive Finds (a : Automaton) (text : List Char) (seen : Array Bool) :
    List Thread → Option Thread → Prop
  | found {front back : List Thread} {t r : Thread} {path : List Spot}
      (blocked : ∀ u ∈ front, ∀ path z, ¬Clear a text seen u.spot path z)
      (clear : Clear a text seen t.spot path r.spot)
      (first : ∀ path' z, Clear a text seen t.spot path' z → Leads a text path path') :
      Finds a text seen (front ++ t :: back) (some r)
  | missed {threads : List Thread}
      (blocked : ∀ u ∈ threads, ∀ path z, ¬Clear a text seen u.spot path z) :
      Finds a text seen threads none

variable {t : Thread} {threads : List Thread} {result : Option Thread}

lemma Finds.head {r : Thread} (clear : Clear a text seen t.spot path r.spot)
    (first : ∀ path' z, Clear a text seen t.spot path' z → Leads a text path path') :
    Finds a text seen (t :: threads) (some r) := by
  rw [← List.nil_append (t :: threads)]
  exact .found (by simp) clear first

/-- What becomes of one thread. -/
lemma Finds.of_singleton (h : Finds a text seen [t] result) :
    (∃ r path, result = some r ∧ Clear a text seen t.spot path r.spot ∧ ∀ path' z,
      Clear a text seen t.spot path' z → Leads a text path path')
      ∨ result = none ∧ ∀ path z, ¬Clear a text seen t.spot path z := by
  generalize hthreads : [t] = threads at h
  cases h with
  | found hblocked hclear hfirst =>
      obtain ⟨rfl, hback⟩ | ⟨rfl, hempty⟩ := List.singleton_eq_append_iff.mp hthreads
      · obtain ⟨rfl, -⟩ := List.cons.inj hback
        exact .inl ⟨_, _, rfl, hclear, hfirst⟩
      · contradiction
  | missed hblocked =>
      subst hthreads
      exact .inr ⟨rfl, hblocked t List.mem_cons_self⟩

/-- A thread from which nothing is clear may be left out. -/
lemma Finds.cons_blocked (ht : ∀ path z, ¬Clear a text seen t.spot path z)
    (h : Finds a text seen threads result) : Finds a text seen (t :: threads) result := by
  cases h with
  | found hblocked hclear hfirst =>
      rw [← List.cons_append]
      exact .found (List.forall_mem_cons.mpr ⟨ht, hblocked⟩) hclear hfirst
  | missed hblocked => exact .missed (List.forall_mem_cons.mpr ⟨ht, hblocked⟩)

section Step

variable (hindex : a.index x < seen.size) (hx : x.state < a.nodes.size)

include hx

/-- What a mark takes away is clear no longer anyway if nothing is clear from the marked spot. -/
lemma Clear.set (hblocked : ∀ path z, ¬Clear a text seen x path z)
    (h : Clear a text seen y path z) :
    Clear a text (seen.set (a.index x) true hindex) y path z := by
  refine (clear_set_iff hx hindex).mpr ⟨h, fun hmem => ?_⟩
  obtain ⟨path', hclear⟩ := h.suffix hmem
  exact hblocked path' z hclear

/-- If nothing is clear from the next spots, nothing is clear from the spot. -/
lemma not_clear_of_next
    (h : ∀ y ∈ a.next text x, ∀ path z,
      ¬Clear a text (seen.set (a.index x) true hindex) y path z) (path : List Spot) (z : Spot) :
    ¬Clear a text seen x path z := by
  intro hclear
  obtain ⟨y, hy, path', -, hclear'⟩ := hclear.exists_next hindex hx
  exact h y hy path' z hclear'

/-- The first way from one of the next spots is the first way from the spot, if nothing is clear
from those before. -/
lemma first_of_next {front back : List Spot} (hnext : a.next text x = front ++ y :: back)
    (hblocked : ∀ u ∈ front, ∀ path z,
      ¬Clear a text (seen.set (a.index x) true hindex) u path z)
    (hway : Way a text y path z)
    (hfirst : ∀ path' z,
      Clear a text (seen.set (a.index x) true hindex) y path' z → Leads a text path path')
    {path' : List Spot} {z' : Spot} (h : Clear a text seen x path' z') :
    Leads a text (x :: path) path' := by
  obtain ⟨u, hu, rest, rfl, hrest⟩ := h.exists_next hindex hx
  by_cases hsame : u = y
  · subst hsame
    exact (hfirst rest z' hrest).imp (congrArg _) .later
  · right
    rw [hnext, List.mem_append, List.mem_cons] at hu
    have hback : u ∈ back :=
      (hu.resolve_left fun hfront => hblocked u hfront rest z' hrest).resolve_left hsame
    obtain ⟨path₀, rfl⟩ := hway.exists_cons
    obtain ⟨rest₀, rfl⟩ := hrest.1.exists_cons
    refine .fork ?_ (Ne.symm hsame)
    rw [hnext]
    exact ((List.singleton_sublist.mpr hback).cons_cons y).trans (List.sublist_append_right _ _)

end Step

lemma append_eq_append_cons {α : Type} {l m front back : List α} {u : α}
    (h : l ++ m = front ++ u :: back) :
    (∃ front', front = l ++ front' ∧ m = front' ++ u :: back)
      ∨ ∃ behind, l = front ++ u :: behind ∧ back = behind ++ m := by
  rcases List.append_eq_append_iff.mp h with ⟨front', hfront, hm⟩ | ⟨behind, hl, hback⟩
  · exact .inl ⟨front', hfront, hm⟩
  · cases behind with
    | nil => exact .inl ⟨[], by simpa using hl.symm, by simpa using hback.symm⟩
    | cons v behind =>
        obtain ⟨rfl, rfl⟩ := List.cons.inj hback
        exact .inr ⟨behind, hl, rfl⟩

lemma not_clear_of_step {node : Node} (hnode : a.nodes[t.state]? = some node)
    (ht : t.rest = text.drop t.position) (hindex : a.index t.spot < seen.size)
    (h : ∀ u ∈ node.step t, ∀ path z,
      ¬Clear a text (seen.set (a.index t.spot) true hindex) u.spot path z) :
    ∀ path z, ¬Clear a text seen t.spot path z := by
  refine not_clear_of_next hindex (Array.getElem?_eq_some_iff.mp hnode).1 ?_
  rw [← map_spot_step hnode ht, List.forall_mem_map]
  exact h

/-- A thread finds what the next ones find, after its own spot has been marked. -/
lemma Finds.step {node : Node} (hnode : a.nodes[t.state]? = some node)
    (ht : t.rest = text.drop t.position) (hindex : a.index t.spot < seen.size)
    (hfresh : ¬Marked a seen t.spot)
    (h : Finds a text (seen.set (a.index t.spot) true hindex) (node.step t ++ threads) result) :
    Finds a text seen (t :: threads) result := by
  have hstate : t.spot.state < a.nodes.size := (Array.getElem?_eq_some_iff.mp hnode).1
  generalize hall : node.step t ++ threads = all at h
  cases h with
  | missed hblocked =>
      rw [← hall, List.forall_mem_append] at hblocked
      have hspot := not_clear_of_step hnode ht hindex hblocked.1
      exact .cons_blocked hspot (.missed fun u hu path z hclear =>
        hblocked.2 u hu path z (hclear.set hindex hstate hspot))
  | @found front back u r path hblocked hclear hfirst =>
      rcases append_eq_append_cons hall with ⟨front', rfl, rfl⟩ | ⟨behind, hstep, rfl⟩
      · rw [List.forall_mem_append] at hblocked
        have hspot := not_clear_of_step hnode ht hindex hblocked.1
        refine .cons_blocked hspot (.found (fun w hw path z hclear' => ?_)
          ((clear_set_iff hstate hindex).mp hclear).1 fun path' z hclear' => ?_)
        · exact hblocked.2 w hw path z (hclear'.set hindex hstate hspot)
        · exact hfirst path' z (hclear'.set hindex hstate hspot)
      · have hnext := map_spot_step hnode ht
        rw [hstep, List.map_append, List.map_cons] at hnext
        obtain ⟨⟨hway, hunmarked⟩, havoids⟩ := (clear_set_iff hstate hindex).mp hclear
        have hmem : u.spot ∈ a.next text t.spot := by
          rw [← hnext]
          simp
        have hclear₀ : Clear a text seen t.spot (t.spot :: path) r.spot :=
          ⟨.move hmem hway havoids, List.forall_mem_cons.mpr ⟨hfresh, hunmarked⟩⟩
        refine .head hclear₀ fun path' z hclear' => ?_
        refine first_of_next hindex hstate hnext.symm ?_ hway hfirst hclear'
        rw [List.forall_mem_map]
        exact hblocked

/-- **The search finds the first way from the first of some threads from which there is one.** -/
theorem finds_search (seen : Array Bool) (threads : List Thread)
    (hthreads : ∀ t ∈ threads, t.rest = text.drop t.position) :
    Finds a text seen threads (a.search seen threads) := by
  fun_induction Automaton.search a seen threads with
  | case1 => exact .missed (by simp)
  | case2 seen t others hfinal =>
      have hspot : a.IsFinal t.spot := hfinal
      refine .head ⟨.final hspot, ?_⟩ fun path' z hclear => .inl ?_
      · rw [List.forall_mem_singleton]
        exact fun hmarked => Nat.not_lt.mpr (Array.getElem?_eq_none_iff.mp hfinal) hmarked.1
      · cases hclear.1 with
        | final => rfl
        | move hstep => simp [hspot.next_eq] at hstep
  | case3 seen t others node hnode index hindex hfresh ih =>
      obtain ⟨ht, hothers⟩ := List.forall_mem_cons.mp hthreads
      refine .step hnode ht hindex (fun hmarked => hmarked.2 ?_) (ih ?_)
      · have hget : seen[a.index t.spot]? = some seen[index] := Array.getElem?_eq_getElem hindex
        rw [hget]
        exact congrArg some hfresh
      · exact List.forall_mem_append.mpr ⟨fun t' ht' => Node.rest_of_mem_step ht ht', hothers⟩
  | case4 seen t others node hnode index hindex hmarked ih =>
      have hstate : t.state < a.nodes.size := (Array.getElem?_eq_some_iff.mp hnode).1
      refine .cons_blocked (fun path z => not_clear_of_marked ⟨hstate, ?_⟩)
        (ih (List.forall_mem_cons.mp hthreads).2)
      have hget : seen[a.index t.spot]? = some seen[index] := Array.getElem?_eq_getElem hindex
      rw [hget]
      exact fun h => hmarked (Option.some.inj h)
  | case5 seen t others node hnode index hindex ih =>
      have hstate : t.state < a.nodes.size := (Array.getElem?_eq_some_iff.mp hnode).1
      refine .cons_blocked (fun path z => not_clear_of_marked ⟨hstate, ?_⟩)
        (ih (List.forall_mem_cons.mp hthreads).2)
      have hget : seen[a.index t.spot]? = none := Array.getElem?_eq_none (Nat.not_lt.mp hindex)
      rw [hget]
      simp

end Search

/-! ### The whole run -/

/-- A thread does not leave the text. -/
lemma position_le_of_mem_next {x y : Spot} (hx : x.position ≤ text.length)
    (h : y ∈ a.next text x) : y.position ≤ text.length := by
  unfold next at h
  split at h
  · simp at h
  · obtain ⟨t, ht, rfl⟩ := List.mem_map.mp h
    rcases Node.stays_or_reads_of_mem_step ht with ⟨hposition, -⟩ | ⟨c, hrest, hposition⟩
    · exact Nat.le_trans (Nat.le_of_eq hposition) hx
    · have hlength := congrArg List.length (show text.drop x.position = c :: t.rest from hrest)
      rw [List.length_drop, List.length_cons] at hlength
      exact Nat.le_trans (Nat.le_of_eq hposition) (Nat.lt_of_sub_pos (hlength ▸ Nat.succ_pos _))

lemma Way.position_le {x z : Spot} {path : List Spot} (h : Way a text x path z)
    (hx : x.position ≤ text.length) : ∀ y ∈ path, y.position ≤ text.length := by
  induction h with
  | final => simpa using hx
  | move hstep _ _ ih =>
      exact List.forall_mem_cons.mpr ⟨hx, ih (position_le_of_mem_next hx hstep)⟩

/-- Before the search no spot of the text is marked. -/
lemma not_marked_replicate {x : Spot} (hx : x.position ≤ text.length) :
    ¬Marked a (Array.replicate (a.nodes.size * (text.length + 1)) false) x := by
  rintro ⟨hstate, hmarked⟩
  have hindex : a.index x < a.nodes.size * (text.length + 1) :=
    calc a.index x < x.position * a.nodes.size + a.nodes.size := Nat.add_lt_add_left hstate _
      _ = a.nodes.size * (x.position + 1) := by rw [Nat.mul_add_one, Nat.mul_comm]
      _ ≤ a.nodes.size * (text.length + 1) := Nat.mul_le_mul_left _ (Nat.succ_le_succ hx)
  exact hmarked (Array.getElem?_replicate.trans (if_pos hindex))

lemma clear_replicate_iff {path : List Spot} {z : Spot} :
    Clear a text (Array.replicate (a.nodes.size * (text.length + 1)) false) ⟨0, 0⟩ path z ↔
      Way a text ⟨0, 0⟩ path z :=
  ⟨And.left, fun h => ⟨h, fun y hy =>
    not_marked_replicate (h.position_le (Nat.zero_le _) y hy)⟩⟩

/-- A run finds the first way, or there is none. -/
lemma run_spec (a : Automaton) (text : List Char) :
    (∃ t path, a.run text = some t ∧ Way a text ⟨0, 0⟩ path t.spot
      ∧ ∀ path' z, Way a text ⟨0, 0⟩ path' z → Leads a text path path')
      ∨ a.run text = none ∧ ∀ path z, ¬Way a text ⟨0, 0⟩ path z := by
  have hspot : (⟨0, 0, text, []⟩ : Thread).spot = ⟨0, 0⟩ := rfl
  have hfinds : Finds a text _ _ (a.run text) := finds_search _ _ (by simp)
  have hcases := hfinds.of_singleton
  simp only [hspot, clear_replicate_iff] at hcases
  exact hcases

/-- If there is a way, there is one before all others. -/
lemma exists_first {path : List Spot} {z : Spot} (h : Way a text ⟨0, 0⟩ path z) :
    ∃ first z', Way a text ⟨0, 0⟩ first z'
      ∧ ∀ path' z, Way a text ⟨0, 0⟩ path' z → Leads a text first path' := by
  rcases run_spec a text with ⟨t, first, -, hway, hfirst⟩ | ⟨-, hnone⟩
  · exact ⟨first, t.spot, hway, hfirst⟩
  · exact absurd h (hnone path z)

/-- **A run ends where the way that is before all others does**, and fails if there is none. -/
theorem run_eq_some_iff {z : Spot} :
    (a.run text).map Thread.spot = some z ↔
      ∃ path, Way a text ⟨0, 0⟩ path z
        ∧ ∀ path' z', Way a text ⟨0, 0⟩ path' z' → Leads a text path path' := by
  rcases run_spec a text with ⟨t, first, hrun, hway, hfirst⟩ | ⟨hrun, hnone⟩
  · rw [hrun, Option.map_some, Option.some.injEq]
    constructor
    · rintro rfl
      exact ⟨first, hway, hfirst⟩
    · rintro ⟨path, hway', hfirst'⟩
      have hsame : path = first :=
        (hfirst path z hway').elim id fun h =>
          (hfirst' first _ hway).elim Eq.symm fun h' => absurd h' h.asymm
      exact hway.end_unique (hsame ▸ hway')
  · rw [hrun]
    exact ⟨fun h => by contradiction, fun ⟨path, hway, _⟩ => absurd hway (hnone path z)⟩

end Automaton

end ChatCommand
