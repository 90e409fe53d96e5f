/-
Lines typed at the console.

* `Request`: what a line asks for;
* `Request.ofLine`: lines that begin with a colon are requests to the console, all others are read
  as commands of a player.
-/
import ChatCommand.Text.Blank

namespace ChatCommand

/-- What a line asks for. -/
inductive Request where
  /-- To read a command of a player. -/
  | read (text : String)
  | quit
  | help
  | players
  | maps
  | items
  | commands
  | speaker
  | setSpeaker (name : String)
  | load (path : String)
  | save (path : String)
  /-- To load or save without a path. -/
  | withoutPath (name : String)
  | unknown (name : String)
deriving DecidableEq

namespace Request

/-- The request of a name and what follows it. -/
def ofName (name argument : String) : Request :=
  match name with
  | "quit" | "q" | "exit" => quit
  | "help" | "h" => help
  | "players" => players
  | "maps" => maps
  | "items" => items
  | "commands" => commands
  | "speaker" => if argument.isEmpty then speaker else setSpeaker argument
  | "load" => if argument.isEmpty then withoutPath name else load argument
  | "save" => if argument.isEmpty then withoutPath name else save argument
  | _ => unknown name

/-- The request of a line. A name ends at the first white space. -/
def ofLine (line : String) : Request :=
  match Text.trim line.toList with
  | ':' :: rest =>
    let (name, argument) := rest.span fun c => !Text.isBlank c
    ofName (String.ofList name) (String.ofList (Text.trim argument))
  | text => read (String.ofList text)

end Request

end ChatCommand
