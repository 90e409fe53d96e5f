/-
What can go wrong.

* `Fault`: the causes, with what each message needs;
* `Fault.message`: the message of a cause;
* `ErrorContext`, `ErrorContext.describe`: where an error arose and what was being read;
* `Error`: a cause with its context.
-/
import ChatCommand.Text.Quoted

namespace ChatCommand

/-- The loops that work on a sentence step by step. -/
inductive Loop where
  | refactor | reduce
deriving DecidableEq

def Loop.name : Loop → String
  | refactor => "refactor"
  | reduce => "reduce"

/-- The causes of errors. -/
inductive Fault where
  /-- A vocabulary document that is no table. -/
  | invalidDocument (reason : String)
  /-- A loop had more steps to take than its budget allows. -/
  | budgetExceeded (loop : String) (limit : Nat)
  | inputTooLong (words limit : Nat)
  /-- No entity of this kind has this name. -/
  | unknownEntity (kind name : String)
  /-- A file could not be read or written. -/
  | inputOutput (reason : String)
  /-- Data that is no snapshot. -/
  | serialization (reason : String)
  | internal (reason : String)
deriving DecidableEq

def Fault.message : Fault → String
  | invalidDocument reason => "invalid pattern document: " ++ reason
  | budgetExceeded loop limit =>
    "rewrite limit (" ++ toString limit ++ ") exceeded during " ++ loop
  | inputTooLong words limit =>
    "input too long: " ++ toString words ++ " words (limit " ++ toString limit ++ ")"
  | unknownEntity kind name => "unknown " ++ kind ++ ": " ++ name
  | inputOutput reason => "I/O error: " ++ reason
  | serialization reason => "serialization error: " ++ reason
  | internal reason => "internal error: " ++ reason

def Fault.isBudgetExceeded : Fault → Bool
  | budgetExceeded .. => true
  | _ => false

/-- Where an error arose and what was being read. -/
structure ErrorContext where
  source : Option String := none
  input : Option String := none
deriving DecidableEq

def ErrorContext.describe (c : ErrorContext) : String :=
  let place := c.source.map ("at " ++ ·)
  let reading := c.input.map fun input => "while parsing " ++ Text.quoted input
  " ".intercalate (place.toList ++ reading.toList)

/-- A cause with its context. -/
structure Error where
  fault : Fault
  context : Option ErrorContext := none
deriving DecidableEq

namespace Error

def message (e : Error) : String := e.fault.message

/-- The error of an input. -/
def parsing (input : String) (fault : Fault) : Error :=
  { fault, context := some { input := some input } }

end Error

end ChatCommand
