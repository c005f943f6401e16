import RadioRelay.Client
import RadioRelay.Simulation.Result
import RadioRelay.Socket.Listener

/-!
# Trying out a client

The router's side of the connection is played by hand.
-/

namespace RadioRelay.Simulation

inductive ClientStep
  /-- The router's side sends a message. -/
  | serverSend (message : Except ProtocolError Bytes)
  | serverReceive
  /-- The router's side reads all that was sent to it, and closes. -/
  | serverClose
  | register (mac : MacAddress)
  | receive
  | timeout (milliseconds : Option Nat)
  | fault (call : String) (effect : FaultEffect)

/-- A client, and the router's end of its connection. -/
structure ClientTrial where
  world : World
  client : Client
  server : Option Descriptor

namespace ClientTrial

def onMachine {α : Type} (action : Machine α) : StateM ClientTrial α := fun trial =>
  let (value, world) := action.run trial.world
  (value, { trial with world := world })

def onClient {α : Type} (program : Client → Program (Except Failure α × Client)) :
    StateM ClientTrial (Except Failure α) := do
  match ← onMachine (execute (program (← get).client)) with
  | none => return .error (.system .unsupported)
  | some (outcome, client) =>
    modify fun trial => { trial with client := client }
    return outcome

def perform : ClientStep → StateM ClientTrial Result
  | .serverSend message => do
    match (← get).server, message with
    | none, _ | _, .error _ => return .absent
    | some server, .ok message =>
      return .ofAttempt .count (← onMachine (sendOver server message))
  | .serverReceive => do
    match (← get).server with
    | none => return .absent
    | some server =>
      match ← onMachine (receiveOver server .wouldBlock) with
      | .ok message => return .message message
      | .error _ => return .absent
  | .serverClose => do
    match (← get).server with
    | none => return .ok
    | some server =>
      modify fun trial => { trial with
        world := (trial.world.discard server).closeDescriptor server
        server := none }
      return .ok
  | .register mac => return .ofExcept (fun _ => .ok) (← onClient (·.register mac))
  | .receive => return .ofExcept .delivery (← onClient (·.receiveFrame))
  | .timeout milliseconds => do
    return .ofExcept (fun _ => .ok)
      (← onMachine (executeFallible ((← get).client.setReceiveTimeout milliseconds)))
  | .fault call effect => do
    let fault : Fault := ⟨call, effect, none⟩
    modify fun trial => { trial with world.faults := trial.world.faults ++ [fault] }
    return .ok

end ClientTrial

def connectClient (name : String) : Machine (Except Failure ClientTrial) := do
  match ← executeFallible (Listener.bind name 4) with
  | .error failure => return .error failure
  | .ok listener =>
    match ← executeFallible (Client.connect name) with
    | .error failure => return .error failure
    | .ok client =>
      match ← executeAttempt listener.accept with
      | .error errno => return .error (.system errno)
      | .ok server =>
        return .ok ⟨← get, client, server.map (·.descriptor)⟩

def tryClient (faults : List Fault) (name : String) (steps : List ClientStep) :
    Except Failure (List Result) :=
  match (connectClient name).run { faults := faults } with
  | (.error failure, _) => .error failure
  | (.ok trial, _) => .ok ((steps.mapM ClientTrial.perform).run trial).1

end RadioRelay.Simulation
