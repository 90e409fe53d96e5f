/-
The program on a real machine.

* `Machine.host`: files, the clock and the streams of the machine;
* `main`: the program with the lines typed at its console.
-/
import ChatCommand.Console.Program
import Std.Time.DateTime.Timestamp

namespace ChatCommand

namespace Machine

/-- The number of an error, which some functions of the machine give with a sign. -/
def errorNumber (code : UInt32) : Nat :=
  if code.toNat < 0x80000000 then code.toNat else 0x100000000 - code.toNat

/-- The fault of an error number. -/
def faultOfNumber (code : UInt32) (reason : String) : FileFault :=
  match errorNumber code with
  | 2 => .notFound
  | 20 => .notDirectory
  | 21 => .isDirectory
  | 36 => .nameTooLong
  | n => .other (reason ++ " (os error " ++ toString n ++ ")")

/-- Why the machine could not read or write a file. -/
def fault : IO.Error → FileFault
  | .noFileOrDirectory _ code reason | .inappropriateType _ code reason
  | .invalidArgument _ code reason | .permissionDenied _ code reason
  | .resourceExhausted _ code reason => faultOfNumber code reason
  | e => .other (toString e)

/-- The result of an action, or why it failed. -/
def attempt {α : Type} (action : IO α) : IO (Except FileFault α) := do
  match ← action.toBaseIO with
  | .ok a => return .ok a
  | .error e => return .error (fault e)

/-- Files, the clock and the streams of the machine. -/
instance host : Host IO where
  readFile path := attempt do return (← IO.FS.readBinFile path).toList
  writeFile path bytes := attempt (IO.FS.writeBinFile path ⟨bytes.toArray⟩)
  now := do
    let t ← Std.Time.Timestamp.now
    return ⟨t.toNanosecondsSinceUnixEpoch.toInt⟩
  print text := do
    let out ← IO.getStdout
    out.putStr text
    out.flush
  complain text := IO.eprint text

/-- The talk at the console, line by line as they are typed. -/
partial def talk (c : Console) : IO Unit := do
  Host.print Console.prompt
  let line ← (← IO.getStdin).getLine
  if line.isEmpty then Host.print Console.farewell
  else
    match ← c.step line with
    | some c => talk c
    | none => Host.print Console.farewell

end Machine

end ChatCommand

open ChatCommand in
def main (arguments : List String) : IO UInt32 := do
  match ← (Program.prepare arguments : IO _) with
  | .error () => return 1
  | .ok none => return 0
  | .ok (some c) =>
    Machine.talk c
    return 0
