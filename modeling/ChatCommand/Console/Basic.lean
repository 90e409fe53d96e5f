/-
The console.

* `Console`: a session and the words that are completed;
* `Console.perform`: what a request does, and what is replied;
* `Console.eval`: the same for a line;
* `Console.step`, `Console.talk`: a line with everything that is printed, and a talk of many lines.
-/
import ChatCommand.Console.Render
import ChatCommand.Console.Request
import ChatCommand.Console.Session

namespace ChatCommand

/-- A session and the words that are completed. -/
structure Console where
  session : Session
  completions : List String

/-- What is replied to a line. -/
inductive Reply where
  | text (s : String)
  | quit

namespace Console

def ofSession (session : Session) : Console :=
  { session, completions := session.completions }

variable {m : Type → Type} [Monad m] [Host m]

/-! ### Requests -/

/-- The reply of a console that stays as it is. -/
def say (c : Console) (text : String) : m (Except Error Reply × Console) :=
  return (.ok (.text text), c)

/-- An error in the use of the console. -/
def refuse (c : Console) (reason : String) : m (Except Error Reply × Console) :=
  return (.error { fault := .internal reason }, c)

/-- Reads an input of a player. -/
def read (c : Console) (text : String) : m (Except Error Reply × Console) := do
  let session := c.session.atTime (← Host.now)
  let reply := (session.parse text).map fun found? =>
    Reply.text ((found?.map Render.commandMatch).getD "no match")
  return (reply, { c with session })

/-- Makes a player the speaker. -/
def setSpeaker (c : Console) (name : String) : m (Except Error Reply × Console) :=
  match c.session.state.withSpeaker? name with
  | .error e => return (.error e, c)
  | .ok state =>
    say { c with session := { c.session with state } } ("speaker is now " ++ name)

/-- Puts the state of a snapshot in the place of the present one. -/
def load (c : Console) (path : String) : m (Except Error Reply × Console) := do
  match ← readSnapshot path with
  | .error e => return (.error e, c)
  | .ok state => say (ofSession { c.session with state }) ("loaded " ++ path)

/-- Writes a snapshot of the state. -/
def save (c : Console) (path : String) : m (Except Error Reply × Console) := do
  match ← writeSnapshot c.session.state path with
  | .error e => return (.error e, c)
  | .ok () => say c ("saved " ++ path)

/-- What a request does, and what is replied. -/
def perform (c : Console) : Request → m (Except Error Reply × Console)
  | .read text => c.read text
  | .quit => return (.ok .quit, c)
  | .help => c.say Render.help
  | .players => c.say (Render.players c.session.state)
  | .maps => c.say (Render.maps c.session.state)
  | .items => c.say (Render.items c.session.state)
  | .commands => c.say (Render.commands c.session.state)
  | .speaker => c.say ((c.session.state.speaker.map Player.name).getD "no speaker")
  | .setSpeaker name => c.setSpeaker name
  | .load path => c.load path
  | .save path => c.save path
  | .withoutPath name => c.refuse (":" ++ name ++ " requires a path")
  | .unknown name => c.refuse ("unknown command :" ++ name ++ " (try :help)")

/-- What a line does, and what is replied. -/
def eval (c : Console) (line : String) : m (Except Error Reply × Console) :=
  c.perform (.ofLine line)

/-! ### Talks -/

def prompt : String := "parley> "

def banner : String :=
  "\x1b[1;36mParley v0.1.0\x1b[0m\n"
    ++ "Type a command as a player would say it, or :help. Ctrl+D exits.\n\n"

def farewell : String := "\nGoodbye!\n"

/-- A line with its reply printed. `none` if the talk ends with it. -/
def step (c : Console) (line : String) : m (Option Console) := do
  if (Text.trim line.toList).isEmpty then return some c
  match ← c.eval line with
  | (.ok (.text text), c) => Host.print (text ++ "\n"); return some c
  | (.ok .quit, _) => return none
  | (.error e, c) => Host.complain (Render.error e ++ "\n"); return some c

/-- A talk of some lines, up to the end of the lines or the request to quit. -/
def talk (c : Console) : List String → m Unit
  | [] => do
    Host.print prompt
    Host.print farewell
  | line :: rest => do
    Host.print prompt
    match ← c.step line with
    | some c => c.talk rest
    | none => Host.print farewell

end Console

end ChatCommand
