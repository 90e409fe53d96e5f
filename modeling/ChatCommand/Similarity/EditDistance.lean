/-
Edit distance.

* `editDistance`: the least number of insertions, deletions and replacements of one character
  that turn one text into another, computed row by row;
* `length_distanceRows`: a row holds the distance to every beginning of the second text.
-/

namespace ChatCommand

/-- The rest of a row: `above` holds the row before from the same place on, `corner` the entry
before it, `left` the entry just computed. -/
def distanceRowFrom (x : Char) : List Char → Nat → List Nat → Nat → List Nat
  | y :: ys, corner, up :: above, left =>
    let here := min (min (left + 1) (up + 1)) (if x == y then corner else corner + 1)
    here :: distanceRowFrom x ys up above here
  | _, _, _, _ => []

/-- The distances from a text that ends in `x` to every beginning of `b`, from those of the text
without `x`. -/
def distanceRow (x : Char) (b : List Char) : List Nat → List Nat
  | [] => []
  | first :: above => (first + 1) :: distanceRowFrom x b first above (first + 1)

/-- The distances from `a` to every beginning of `b`, the empty one first. -/
def distanceRows (a b : List Char) : List Nat :=
  a.foldl (fun row x => distanceRow x b row) (List.range (b.length + 1))

/-- The least number of insertions, deletions and replacements that turn `a` into `b`. -/
def editDistance (a b : List Char) : Nat :=
  (distanceRows a b).getLastD 0

/-! ### Rows -/

theorem length_distanceRowFrom (x : Char) (b : List Char) (corner : Nat) (above : List Nat)
    (left : Nat) : (distanceRowFrom x b corner above left).length = min b.length above.length := by
  induction b generalizing corner above left with
  | nil => simp [distanceRowFrom]
  | cons y ys ih =>
    cases above with
    | nil => simp [distanceRowFrom]
    | cons up above =>
      simp only [distanceRowFrom, List.length_cons, ih]
      omega

theorem length_distanceRow (x : Char) (b : List Char) {row : List Nat}
    (h : row.length = b.length + 1) : (distanceRow x b row).length = b.length + 1 := by
  cases row with
  | nil => simp at h
  | cons first above =>
    simp only [List.length_cons] at h
    simp only [distanceRow, List.length_cons, length_distanceRowFrom]
    omega

/-- A row holds the distance to every beginning of the text. -/
theorem length_distanceRows (a b : List Char) : (distanceRows a b).length = b.length + 1 := by
  have key (row : List Nat) (h : row.length = b.length + 1) :
      (a.foldl (fun row x => distanceRow x b row) row).length = b.length + 1 := by
    induction a generalizing row with
    | nil => exact h
    | cons x rest ih => exact ih _ (length_distanceRow x b h)
  exact key _ (by simp)

end ChatCommand
