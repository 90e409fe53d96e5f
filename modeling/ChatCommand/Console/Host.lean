/-
What the console asks of the machine it runs on.

* `Host`: files, the clock and two streams of output, in any monad;
* `Transcript`: files and output kept as values, with a clock that stands still;
* `readText`, `readSnapshot`, `writeSnapshot`: texts and snapshots in files.
-/
import ChatCommand.Console.Files

namespace ChatCommand

/-- Files, the clock and output. -/
class Host (m : Type → Type) where
  readFile : String → m (Except FileFault (List UInt8))
  writeFile : String → List UInt8 → m (Except FileFault Unit)
  now : m Instant
  /-- Writes to the output. -/
  print : String → m Unit
  /-- Writes to the output for errors. -/
  complain : String → m Unit

/-! ### A host of values -/

/-- Files, the time and all output so far. -/
structure Transcript where
  files : Files
  now : Instant
  /-- What was printed, the last part first. -/
  output : List String := []
  /-- What was printed as errors, the last part first. -/
  complaints : List String := []

namespace Transcript

def save (path : String) (bytes : List UInt8) (t : Transcript) :
    Except FileFault Unit × Transcript :=
  match t.files.write path bytes with
  | .ok files => (.ok (), { t with files })
  | .error e => (.error e, t)

instance : Host (StateM Transcript) where
  readFile path := do return (← get).files.read path
  writeFile path bytes := modifyGet (save path bytes)
  now := do return (← get).now
  print text := modify fun t => { t with output := text :: t.output }
  complain text := modify fun t => { t with complaints := text :: t.complaints }

/-- All that was printed. -/
def printed (t : Transcript) : String := String.join t.output.reverse

/-- All that was printed as errors. -/
def complained (t : Transcript) : String := String.join t.complaints.reverse

end Transcript

/-! ### Texts and snapshots -/

/-- A fault as an error: what could not be done with the file. -/
def FileFault.error (e : FileFault) (action path : String) : Error :=
  { fault := .inputOutput ("failed to " ++ action ++ " file '" ++ path ++ "': " ++ e.message) }

variable {m : Type → Type} [Monad m] [Host m]

/-- The text of a file, or why there is none. -/
def readText (path : String) : m (Except String String) := do
  match ← Host.readFile path with
  | .error e => return .error e.message
  | .ok bytes =>
    match String.fromUTF8? ⟨bytes.toArray⟩ with
    | some text => return .ok text
    | none => return .error "stream did not contain valid UTF-8"

/-- The snapshot in a file, in the format that its path tells. A directory can be opened but not
read. -/
def readSnapshot (path : String) : m (Except Error State) := do
  match ← Host.readFile path with
  | .error .isDirectory => return .error (FileFault.isDirectory.error "read" path)
  | .error e => return .error (e.error "open" path)
  | .ok bytes => return State.ofBytes? (← Host.now) bytes (.ofPath path)

/-- Writes a snapshot into a file, in the format that its path tells. -/
def writeSnapshot (state : State) (path : String) : m (Except Error Unit) := do
  match ← Host.writeFile path (state.toBytes (.ofPath path)) with
  | .error e => return .error (e.error "create" path)
  | .ok () => return .ok ()

end ChatCommand
