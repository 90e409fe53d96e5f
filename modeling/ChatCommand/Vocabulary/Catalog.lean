/-
The vocabulary: the words and expressions that are recognized whatever the state of the server.

* `Entry`: a word or a regular expression, with a name and a value;
* `Catalog`: the entries of each family, in order;
* `Catalog.ofDatum?`, `Catalog.ofJson`: the catalog of a document, where whatever cannot be used is
  passed over;
* `Hit`, `Catalog.hits`: the entries of a family that match a span.

A word matches a span if they are similar enough. A regular expression matches it if it covers it.
-/
import ChatCommand.Data.Json
import ChatCommand.Error
import ChatCommand.Regex.Match
import ChatCommand.Regex.Reader
import ChatCommand.Similarity.Text
import ChatCommand.Vocabulary.Family

namespace ChatCommand

/-! ### Entries -/

/-- A word or an expression of the vocabulary. -/
structure Entry where
  /-- A word in lower case, compared by similarity. -/
  literal : Option String := none
  /-- An expression that must cover a span, if there is no word. -/
  expression : Option Regex := none
  name : Option String := none
  value : Option Datum := none

namespace Entry

def fieldNames : List String := ["text", "regex", "name", "value"]

/-- The entry of a record. `none` if it cannot be used: it is no such record, its expression is not
well-formed, or it has neither word nor expression. -/
def ofDatum? (d : Datum) : Option Entry := do
  let fields ← d.fields? fieldNames
  let text ← fields.optional? "text" none (Datum.orNull? Datum.text?)
  let regex ← fields.optional? "regex" none (Datum.orNull? Datum.text?)
  let name ← fields.optional? "name" none (Datum.orNull? Datum.text?)
  let value ← fields.optional? "value" none (Datum.orNull? some)
  let expression ←
    match regex with
    | none => some none
    | some source => (Regex.read? source).map some
  if text.isNone && expression.isNone then none
  else some { literal := text.map Text.lowercase, expression, name, value }

end Entry

/-! ### Catalogs -/

/-- The entries of each family, in order. -/
structure Catalog where
  entries : Family → List Entry

namespace Catalog

def empty : Catalog := ⟨fun _ => []⟩

/-- The usable entries of a list, in order. -/
def usable (items : List Datum) : List Entry :=
  items.filterMap Entry.ofDatum?

/-- The entries that the parts of a document give a family: those of the list under its key. -/
def entriesIn (document : List (Datum × Datum)) (family : Family) : List Entry :=
  match document.find? fun (key, _) => key.plainText? = some family.key with
  | some (_, .list items) => usable items
  | _ => []

/-- The catalog of a document, which must be a table. -/
def ofDatum : Datum → Except Error Catalog
  | .table document => .ok ⟨entriesIn document⟩
  | _ => .error { fault := .invalidDocument "top level must be an object" }

/-- How deep a document may be nested. -/
def nestingLimit : Nat := 127

/-- The catalog of a JSON document. Of the parts with one key the last counts. -/
def ofJson (text : String) : Except Error Catalog :=
  match Json.read? text with
  | some d =>
    if d.isReadable && d.depth ≤ nestingLimit then ofDatum d.settled
    else .error { fault := .invalidDocument "not a readable JSON text" }
  | none => .error { fault := .invalidDocument "not a JSON text" }

/-- The number of usable entries. -/
def size (c : Catalog) : Nat :=
  Family.all.foldl (fun total f => total + (c.entries f).length) 0

end Catalog

/-! ### Hits -/

/-- An entry that matches a span. -/
structure Hit where
  entry : Entry
  /-- The span. -/
  text : String
  similarity : Score
  /-- The text of the group `value` of an expression. -/
  captured : Option String := none

/-- Whether texts of these lengths can agree to the given percentage, a point short of it at most:
the difference of the lengths is a lower bound of the distance. -/
def canReach (minimum a b : Nat) : Bool :=
  (minimum - 1) * max a b ≤ 100 * min a b

/-- The hit of an entry on a span, if it matches. `small` holds the span in lower case. -/
def Entry.hit? (minimum : Nat) (text : String) (small : List Char) (e : Entry) : Option Hit :=
  match e.literal, e.expression with
  | some literal, _ =>
    let word := Text.lowercaseChars literal.toList
    if canReach minimum small.length word.length then
      let similarity : Score := agreement small word
      if similarity.reaches (Float32.ofNat minimum) then
        some { entry := e, text, similarity }
      else none
    else none
  | none, some expression =>
    (expression.wholeMatch? text.toList).map fun m =>
      { entry := e, text, similarity := .hundred
        captured := (m.group? "value").map String.ofList }
  | none, none => none

/-- The entries of a family that match a span, in order. -/
def Catalog.hits (c : Catalog) (family : Family) (text : String) : List Hit :=
  let small := Text.lowercaseChars text.toList
  (c.entries family).filterMap (Entry.hit? family.minimum text small)

end ChatCommand
