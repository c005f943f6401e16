import RadioRelay.System.Call

/-!
# Programs over system calls

A program is a tree of system calls: it is done, or it makes a call and goes on
with the answer, or it repeats a body until that yields a result. A program
does nothing by itself. It is run by a handler that answers its calls, be it
the operating system or a simulated one.
-/

namespace RadioRelay

/-- A computation that talks to the world only through system calls. -/
inductive Program : Type → Type 1
  | done {α : Type} (value : α) : Program α
  | request {α : Type} (call : Call) (next : call.Answer → Program α) : Program α
  /-- Runs the body on a state, over and over, until it gives a result. -/
  | iterate {σ β α : Type} (state : σ) (body : σ → Program (σ ⊕ β)) (next : β → Program α) :
    Program α

namespace Program

def bind {α β : Type} : Program α → (α → Program β) → Program β
  | .done value, continuation => continuation value
  | .request call next, continuation =>
    .request call fun answer => bind (next answer) continuation
  | .iterate state body next, continuation =>
    .iterate state body fun result => bind (next result) continuation

instance : Monad Program where
  pure := .done
  bind := bind

def call (request : Call) : Program request.Answer := .request request .done

def repeatUntil {σ β : Type} (state : σ) (body : σ → Program (σ ⊕ β)) : Program β :=
  .iterate state body .done

section Execution

variable {m : Type → Type} [Monad m]

def repeatWithin {σ β : Type} (step : σ → m (Option (σ ⊕ β))) : Nat → σ → m (Option β)
  | 0, _ => pure none
  | limit + 1, state => do
    match ← step state with
    | none => pure none
    | some (.inr result) => pure (some result)
    | some (.inl next) => repeatWithin step limit next

/-- Runs a program with a handler for its calls. A repetition that goes on for
more than `limit` rounds is given up. -/
def runWith (handler : (call : Call) → m call.Answer) (limit : Nat) {α : Type} :
    Program α → m (Option α)
  | .done value => pure (some value)
  | .request call next => do runWith handler limit (next (← handler call))
  | .iterate state body next => do
    match ← repeatWithin (fun state => runWith handler limit (body state)) limit state with
    | some result => runWith handler limit (next result)
    | none => pure none

end Execution

end Program

abbrev Fallible := ExceptT Failure Program

namespace Fallible

/-- A system call whose failure is a failure of an activity. -/
def attempting {α : Type} (activity : Activity) (attempt : Program (Attempt α)) :
    Fallible α :=
  ExceptT.mk do
    match ← attempt with
    | .ok value => return .ok value
    | .error errno => return .error ((Failure.system errno).during activity)

/-- A system call whose failure counts as a cause of its own, whatever the
system's reason. -/
def attemptingOr {α : Type} (cause : Cause) (attempt : Program (Attempt α)) : Fallible α :=
  ExceptT.mk do
    match ← attempt with
    | .ok value => return .ok value
    | .error _ => return .error (.of cause)

/-- The failures of an action are seen as failures of an activity around it. -/
def during {α : Type} (activity : Activity) (action : Fallible α) : Fallible α :=
  ExceptT.mk do
    match ← action.run with
    | .ok value => return .ok value
    | .error failure => return .error (failure.during activity)

/-- If the action fails, a descriptor that it was to take over is closed. -/
def closingOnFailure {α : Type} (descriptor : Descriptor) (action : Fallible α) :
    Fallible α :=
  ExceptT.mk do
    match ← action.run with
    | .ok value => return .ok value
    | .error failure =>
      Program.call (.close descriptor)
      return .error failure

end Fallible

end RadioRelay
