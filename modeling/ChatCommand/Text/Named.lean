/-
Constants with names.

* `Named`: a type whose constants are listed, each with a name;
* `Named.ofName?`: the constant of a name, whatever the case of its letters.
-/
import ChatCommand.Text.Lowercase

namespace ChatCommand

/-- A type whose constants are listed, each with a name. -/
class Named (α : Type) where
  all : List α
  name : α → String

/-- The constant of this name, whatever the case of its letters. -/
def Named.ofName? (α : Type) [Named α] (name : String) : Option α :=
  (Named.all : List α).find? fun a => Text.equalsIgnoringAsciiCase (Named.name a) name

end ChatCommand
