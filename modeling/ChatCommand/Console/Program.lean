/-
The program around the console.

* `Program.start`: the console that options ask for;
* `Program.runFiles`: the inputs of files, as if they were typed;
* `Program.prepare`: everything before the talk at the console;
* `Program.run`: the whole program, with the lines that are typed.
-/
import ChatCommand.Console.Basic
import ChatCommand.Console.Options
import ChatCommand.Roster.Demo
import ChatCommand.Text.Lines

namespace ChatCommand

namespace Program

variable {m : Type → Type} [Monad m] [Host m]

/-! ### Starting -/

/-- The vocabulary in a file, or the one that is built in. -/
def vocabulary : Option String → ExceptT String m Catalog
  | none => return .builtin
  | some path => do
    let text ← ExceptT.mk (readText path)
    ExceptT.mk (return (Catalog.ofJson text).mapError Error.message)

/-- The state in a file, or that of the demo. -/
def snapshot : Option String → ExceptT String m State
  | none => return .demo
  | some path => ExceptT.mk do return (← readSnapshot path).mapError Error.message

/-- A state with the speaker that options name. -/
def withSpeaker (state : State) : Option String → Except String State
  | none => .ok state
  | some name => (state.withSpeaker? name).mapError Error.message

/-- The console that options ask for. -/
def start (o : Options) : ExceptT String m Console := do
  let catalog ← vocabulary o.vocabulary
  let state ← snapshot o.snapshot
  let state ← ExceptT.mk (return withSpeaker state o.speaker)
  let parser : Parser := { catalog, config := { thresholds := o.thresholds } }
  return .ofSession { parser, state, mark := o.mark.getD "!" }

/-! ### Files of inputs -/

/-- Whether a line of a file is an input: it is not blank and begins with no number sign. -/
def isInput (line : List Char) : Bool :=
  !line.isEmpty && line.head? != some '#'

/-- The inputs of some lines of a file. `none` if one of them is the request to quit. -/
def runLines (file : String) (c : Console) : List (String × Nat) → m (Option Console)
  | [] => return some c
  | (line, number) :: rest => do
    let line := Text.trim line.toList
    if isInput line then
      let line := String.ofList line
      Host.print (Options.bold ("> " ++ line) ++ "\n")
      match ← c.eval line with
      | (.ok (.text text), c) =>
        Host.print (text ++ "\n\n")
        runLines file c rest
      | (.ok .quit, _) => return none
      | (.error e, c) =>
        let place := file ++ ":" ++ toString number ++ ": "
        Host.complain (Render.red (place ++ "Error: " ++ e.message) ++ "\n\n")
        runLines file c rest
    else runLines file c rest

/-- The inputs of some files. `none` if one of them is the request to quit. -/
def runFiles (c : Console) : List String → ExceptT String m (Option Console)
  | [] => return some c
  | file :: rest => do
    let text ← ExceptT.mk (readText file)
    match ← (runLines file c ((Text.lines text).zipIdx 1) : m (Option Console)) with
    | some c => runFiles c rest
    | none => return none

/-! ### The program -/

/-- Everything before the talk at the console, which is left out if the result is `none`. -/
def prepareWith (o : Options) : ExceptT String m (Option Console) := do
  if o.help then
    Host.print (m := m) Options.helpText
    return none
  else if o.version then
    Host.print (m := m) Options.versionText
    return none
  else
    match ← runFiles (← start o) o.files with
    | none => return none
    | some c =>
      if o.batch then return none
      else
        if o.files.isEmpty then Host.print (m := m) Console.banner
        return some c

/-- Everything before the talk at the console. An error is printed. -/
def prepare (arguments : List String) : m (Except Unit (Option Console)) := do
  match ← (do prepareWith (← ExceptT.mk (pure (Options.read arguments))) :
      ExceptT String m (Option Console)).run with
  | .ok c => return .ok c
  | .error reason =>
    Host.complain (Render.red ("Error: " ++ reason) ++ "\n")
    return .error ()

/-- The whole program, with the lines that are typed. The result tells whether it succeeded. -/
def run (arguments lines : List String) : m Bool := do
  match ← prepare arguments with
  | .error () => return false
  | .ok none => return true
  | .ok (some c) =>
    c.talk lines
    return true

end Program

end ChatCommand
