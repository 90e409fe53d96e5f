/-
Matching of regular expressions.

* `Thread`: a state of an automaton at a place of a text, with the marks passed on the way there;
* `Automaton.search`: the first thread, in the order of preference, that reaches the final state. Of the
  threads that reach a state at a place only the first goes on, so that the work is bounded by the
  number of states and places;
* `Regex.Match`: how far a match goes, and its groups;
* `Regex.preferred?`, `Regex.wholeMatch?`: the preferred match at the beginning of a text, and that
  match if it covers the text;
* `getElem?_of_search_eq_some`: a thread that is found has reached the final state;
* `wholeMatch?_eq_some_iff`: no other match counts than the preferred one.
-/
import ChatCommand.Regex.Automaton

namespace ChatCommand

/-! ### Threads -/

/-- A state of an automaton at a place of a text. -/
structure Thread where
  state : Nat
  /-- How many characters lie before the place. -/
  position : Nat
  /-- The characters behind the place. -/
  rest : List Char
  /-- The marks passed with their places, the latest first. -/
  marks : List (GroupMark × Nat)

/-- The threads after a node, in order of preference. -/
def Node.step : Node → Thread → List Thread
  | pass next, t => [{ t with state := next }]
  | read set next, t =>
    match t.rest with
    | [] => []
    | c :: rest =>
      if set.contains c then [{ t with state := next, position := t.position + 1, rest }] else []
  | fork first second, t => [{ t with state := first }, { t with state := second }]
  | mark m next, t => [{ t with state := next, marks := (m, t.position) :: t.marks }]
  | atStart next, t => if t.position = 0 then [{ t with state := next }] else []
  | atEnd next, t => if t.rest.isEmpty then [{ t with state := next }] else []

/-! ### Search -/

namespace Automaton

/-- The first thread that reaches the final state. `seen` tells for each place and state whether a
thread has been there. -/
def search (a : Automaton) (seen : Array Bool) : List Thread → Option Thread
  | [] => none
  | t :: others =>
    match a.nodes[t.state]? with
    | none => some t
    | some node =>
      let index := t.position * a.nodes.size + t.state
      if h : index < seen.size then
        if seen[index] = false then a.search (seen.set index true) (node.step t ++ others)
        else a.search seen others
      else a.search seen others
termination_by threads => (seen.count false, threads.length)
decreasing_by
  · refine .left _ _ ?_
    rename_i hfresh
    have hmem : false ∈ seen := hfresh ▸ Array.getElem_mem h
    have hpos := Array.count_pos_iff.2 hmem
    rw [Array.count_set, if_pos (beq_iff_eq.2 hfresh), if_neg (by decide)]
    omega
  · exact .right _ (Nat.lt_succ_self _)
  · exact .right _ (Nat.lt_succ_self _)

/-- The first thread on a text that reaches the final state. -/
def run (a : Automaton) (text : List Char) : Option Thread :=
  a.search (Array.replicate (a.nodes.size * (text.length + 1)) false) [⟨0, 0, text, []⟩]

/-- A thread that is found has reached the final state. -/
theorem getElem?_of_search_eq_some {a : Automaton} {seen : Array Bool} {threads : List Thread}
    {t : Thread} (h : a.search seen threads = some t) : a.nodes[t.state]? = none := by
  fun_induction Automaton.search a seen threads with
  | case1 => exact absurd h (by simp)
  | case2 seen t others hfinal => cases h; exact hfinal
  | case3 _ _ _ _ _ _ _ _ ih => exact ih h
  | case4 _ _ _ _ _ _ _ _ ih => exact ih h
  | case5 _ _ _ _ _ _ _ ih => exact ih h

end Automaton

/-! ### Matches -/

namespace Regex

/-- A match at the beginning of a text. -/
structure Match where
  text : List Char
  /-- How many characters it covers. -/
  length : Nat
  /-- Where groups begin and end, the latest first. -/
  marks : List (GroupMark × Nat)

/-- The text of a group, if the match passed it: what it matched last. -/
def Match.group? (m : Match) (name : String) : Option (List Char) := do
  let first ← m.marks.lookup (.opening name)
  let last ← m.marks.lookup (.closing name)
  return (m.text.take last).drop first

/-- The preferred match at the beginning of a text. -/
def preferred? (e : Regex) (text : List Char) : Option Match :=
  (e.automaton.run text).map fun t => ⟨text, t.position, t.marks⟩

/-- The preferred match, if it covers the text. A match that begins later cannot cover it. -/
def wholeMatch? (e : Regex) (text : List Char) : Option Match :=
  (e.preferred? text).filter fun m => m.length = text.length

/-- A match of the whole text is the preferred one, and covers the text. -/
theorem wholeMatch?_eq_some_iff {e : Regex} {text : List Char} {m : Match} :
    e.wholeMatch? text = some m ↔ e.preferred? text = some m ∧ m.length = text.length := by
  simp [wholeMatch?, Option.filter_eq_some_iff]

end Regex

end ChatCommand
