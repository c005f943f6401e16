import RadioRelay.Simulation.Host
import RadioRelay.Wire.Delivery

/-!
# What a step of a trial shows
-/

namespace RadioRelay.Simulation

structure Mail where
  client : String
  messages : List Bytes
  deriving Repr

inductive Result
  | ok
  /-- What the step is about does not exist. -/
  | absent
  /-- The router holds no socket for the client. -/
  | gone
  | flag (value : Bool)
  | count (value : Nat)
  | word (text : String)
  | name (text : String)
  | message (bytes : Bytes)
  | received (size : Nat) (stored : Bytes)
  | delivery (delivery : Delivery)
  | events (events : List (String × UInt32))
  | labels (labels : List String)
  | inbox (mail : List Mail)
  | failure (failure : Failure)
  | system (errno : Errno)

namespace Result

def ofExcept {α : Type} (onValue : α → Result) : Except Failure α → Result
  | .ok value => onValue value
  | .error reason => .failure reason

/-- A value shown by a function, or the bare system error that came instead. -/
def ofAttempt {α : Type} (onValue : α → Result) : Attempt α → Result
  | .ok value => onValue value
  | .error errno => .system errno

/-- The outcome of a step that only can fail; a system error is a failure. -/
def ofPlainAttempt {α : Type} : Attempt α → Result
  | .ok _ => .ok
  | .error errno => .failure (.system errno)

end Result

/-- Runs a program that may fail, to the end. A program that does not come to an
end shows as one whose call is not supported. -/
def executeFallible {α : Type} (program : Fallible α) : Machine (Except Failure α) := do
  return (← execute program.run).getD (.error (.system .unsupported))

def executeAttempt {α : Type} (program : Program (Attempt α)) : Machine (Attempt α) := do
  return (← execute program).getD (.error .unsupported)

def sorted (texts : List String) : List String := texts.mergeSort fun left right => left ≤ right

def insertEntry {α : Type} (key : String) (value : α) (entries : List (String × α)) :
    List (String × α) :=
  entries.filter (·.1 ≠ key) ++ [(key, value)]

def eraseEntry {α : Type} (key : String) (entries : List (String × α)) : List (String × α) :=
  entries.filter (·.1 ≠ key)

end RadioRelay.Simulation
