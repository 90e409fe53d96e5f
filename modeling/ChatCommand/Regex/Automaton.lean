/-
The automaton of a regular expression.

* `Node`: what an automaton does in a state: read a character, look at the place, note where a group
  begins or ends, or choose between two ways;
* `Fragment`: a piece of automaton that can be put anywhere, with one entry, its first node, and
  one exit, the state behind it;
* `Automaton`, `Regex.automaton`: the automaton of an expression;
* `Regex.sized_fragment`: a fragment has as many nodes as it says.

A state is the number of a node, and the state behind the last node is the final one. A repetition
goes back to the one copy of what it repeats, so that the two ways to reach a state, by entering the
repetition and by coming around, are one and the same afterwards.
-/
import ChatCommand.Regex.Basic

namespace ChatCommand

/-! ### Nodes -/

/-- Where a group begins or ends. -/
inductive GroupMark where
  | opening (name : String)
  | closing (name : String)
  deriving DecidableEq

/-- What an automaton does in a state. The ways of a fork are in order of preference. -/
inductive Node where
  | pass (next : Nat)
  | read (set : CharSet) (next : Nat)
  | fork (first second : Nat)
  | mark (m : GroupMark) (next : Nat)
  | atStart (next : Nat)
  | atEnd (next : Nat)

/-- A choice whether to go on or to leave, where the greedy prefer to go on. -/
def Node.choose (greedy : Bool) (on off : Nat) : Node :=
  if greedy then fork on off else fork off on

/-! ### Fragments -/

/-- A piece of automaton with its entry at its first node. -/
structure Fragment where
  size : Nat
  /-- The nodes, put at a state, for an exit. -/
  nodes : (entry exit : Nat) → List Node

namespace Fragment

def ofNode (node : (exit : Nat) → Node) : Fragment :=
  ⟨1, fun _ exit => [node exit]⟩

/-- One fragment after the other. -/
def seq (a b : Fragment) : Fragment where
  size := a.size + b.size
  nodes entry exit := a.nodes entry (entry + a.size) ++ b.nodes (entry + a.size) exit

/-- Either of two fragments, the first preferred. -/
def choice (a b : Fragment) : Fragment where
  size := 1 + a.size + b.size
  nodes entry exit :=
    .fork (entry + 1) (entry + 1 + a.size) ::
      a.nodes (entry + 1) exit ++ b.nodes (entry + 1 + a.size) exit

/-- The fragment, or nothing. -/
def optional (greedy : Bool) (a : Fragment) : Fragment where
  size := 1 + a.size
  nodes entry exit := .choose greedy (entry + 1) exit :: a.nodes (entry + 1) exit

/-- The fragment again and again, at least once. -/
def many (greedy : Bool) (a : Fragment) : Fragment where
  size := a.size + 1
  nodes entry exit := a.nodes entry (entry + a.size) ++ [.choose greedy entry exit]

/-- The fragment again and again, where the choice before the first round is the one before any
other. -/
def loop (greedy : Bool) (a : Fragment) : Fragment where
  size := 1 + a.size
  nodes entry exit := .choose greedy (entry + 1) exit :: a.nodes (entry + 1) entry

/-- So many copies of the fragment. -/
def copies (a : Fragment) : Nat → Fragment
  | 0 => ofNode .pass
  | count + 1 => a.seq (a.copies count)

/-- At most so many copies of the fragment. -/
def upTo (greedy : Bool) (a : Fragment) : Nat → Fragment
  | 0 => ofNode .pass
  | most + 1 => optional greedy (a.seq (upTo greedy a most))

/-- The fragment between the marks of a group. -/
def group (name : String) (a : Fragment) : Fragment :=
  (ofNode (.mark (.opening name))).seq (a.seq (ofNode (.mark (.closing name))))

/-- A text, character by character. -/
def text : List Char → Fragment
  | [] => ofNode .pass
  | c :: rest => (ofNode (.read (.singleton c))).seq (text rest)

/-- Whether a fragment has as many nodes as it says. -/
def Sized (a : Fragment) : Prop :=
  ∀ entry exit, (a.nodes entry exit).length = a.size

theorem sized_ofNode (node : Nat → Node) : (ofNode node).Sized := fun _ _ => rfl

theorem Sized.seq {a b : Fragment} (ha : a.Sized) (hb : b.Sized) : (a.seq b).Sized :=
  fun _ _ => by simp [Fragment.seq, ha _ _, hb _ _]

theorem Sized.choice {a b : Fragment} (ha : a.Sized) (hb : b.Sized) : (a.choice b).Sized :=
  fun _ _ => by simp [Fragment.choice, ha _ _, hb _ _]; omega

theorem Sized.optional {a : Fragment} (greedy : Bool) (ha : a.Sized) :
    (a.optional greedy).Sized :=
  fun _ _ => by simp [Fragment.optional, ha _ _]; omega

theorem Sized.many {a : Fragment} (greedy : Bool) (ha : a.Sized) : (a.many greedy).Sized :=
  fun _ _ => by simp [Fragment.many, ha _ _]

theorem Sized.loop {a : Fragment} (greedy : Bool) (ha : a.Sized) : (a.loop greedy).Sized :=
  fun _ _ => by simp [Fragment.loop, ha _ _]; omega

theorem Sized.copies {a : Fragment} (ha : a.Sized) : (count : Nat) → (a.copies count).Sized
  | 0 => sized_ofNode _
  | count + 1 => ha.seq (ha.copies count)

theorem Sized.upTo {a : Fragment} (greedy : Bool) (ha : a.Sized) :
    (most : Nat) → (a.upTo greedy most).Sized
  | 0 => sized_ofNode _
  | most + 1 => (ha.seq (ha.upTo greedy most)).optional greedy

theorem Sized.group {a : Fragment} (name : String) (ha : a.Sized) : (a.group name).Sized :=
  (sized_ofNode _).seq (ha.seq (sized_ofNode _))

theorem sized_text : (s : List Char) → (text s).Sized
  | [] => sized_ofNode _
  | _ :: rest => (sized_ofNode _).seq (sized_text rest)

end Fragment

/-! ### Automata -/

/-- An automaton starts in the state of its first node and ends in the state behind its last. -/
structure Automaton where
  nodes : Array Node

namespace Regex

/-- The automaton of an expression as a fragment. Rounds without limit that may be none share the
choice before the first round with the others only if no round can be empty. -/
def fragment : Regex → Fragment
  | text s => .text s
  | char set => .ofNode (.read set)
  | seq a b => a.fragment.seq b.fragment
  | choice a b => a.fragment.choice b.fragment
  | rounds 0 none greedy a =>
    if a.isSolid then a.fragment.loop greedy
    else (a.fragment.many greedy).optional greedy
  | rounds (least + 1) none greedy a =>
    (a.fragment.copies least).seq (a.fragment.many greedy)
  | rounds least (some most) greedy a =>
    (a.fragment.copies least).seq (a.fragment.upTo greedy (most - least))
  | group none a => a.fragment
  | group (some name) a => a.fragment.group name
  | textStart => .ofNode .atStart
  | textEnd => .ofNode .atEnd

def automaton (e : Regex) : Automaton :=
  ⟨(e.fragment.nodes 0 e.fragment.size).toArray⟩

theorem sized_fragment : (e : Regex) → e.fragment.Sized
  | text s => by rw [fragment]; exact Fragment.sized_text s
  | char _ => by rw [fragment]; exact Fragment.sized_ofNode _
  | seq a b => by rw [fragment]; exact a.sized_fragment.seq b.sized_fragment
  | choice a b => by rw [fragment]; exact a.sized_fragment.choice b.sized_fragment
  | rounds 0 none greedy a => by
    rw [fragment]
    split
    · exact a.sized_fragment.loop greedy
    · exact (a.sized_fragment.many greedy).optional greedy
  | rounds (least + 1) none greedy a => by
    rw [fragment]
    exact (a.sized_fragment.copies least).seq (a.sized_fragment.many greedy)
  | rounds least (some most) greedy a => by
    rw [fragment]
    exact (a.sized_fragment.copies least).seq (a.sized_fragment.upTo greedy (most - least))
  | group none a => by rw [fragment]; exact a.sized_fragment
  | group (some name) a => by rw [fragment]; exact a.sized_fragment.group name
  | textStart => by rw [fragment]; exact Fragment.sized_ofNode _
  | textEnd => by rw [fragment]; exact Fragment.sized_ofNode _

/-- The final state of an automaton is the exit of its fragment. -/
theorem size_nodes_automaton (e : Regex) : e.automaton.nodes.size = e.fragment.size := by
  simp [automaton, e.sized_fragment _ _]

end Regex

end ChatCommand
