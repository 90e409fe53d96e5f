/-
The lines of a text.

* `lines`: the pieces that line feeds end, and what follows the last of them if that is not empty.
-/

namespace ChatCommand.Text

/-- The lines of a text, the first of which began with `line` in reverse. -/
def linesFrom (line : List Char) : List Char → List (List Char)
  | [] => if line.isEmpty then [] else [line.reverse]
  | c :: rest =>
    if c == '\n' then line.reverse :: linesFrom [] rest else linesFrom (c :: line) rest

/-- The lines of a text. -/
def lines (s : String) : List String :=
  (linesFrom [] s.toList).map String.ofList

end ChatCommand.Text
