import RadioRelay.Monitor
import RadioRelay.Simulation.Result
import RadioRelay.Socket.Listener

/-!
# Trying out the monitor

The router's side is played from a list of messages. The next of them is sent
each time the monitor would have to wait; when none is left, the connection is
closed.
-/

namespace RadioRelay.Simulation

structure MonitorTrial where
  world : World
  /-- What the router is still to send. -/
  messages : List Bytes
  /-- What the router has read, the latest first. -/
  requests : List Bytes := []

structure MonitorReport where
  outcome : Except Failure Unit
  log : List Notice
  /-- What the router read, each time before it sent or closed. -/
  requests : List Bytes

namespace MonitorTrial

def onMachine {α : Type} (action : Machine α) : StateM MonitorTrial α := fun trial =>
  let (value, world) := action.run trial.world
  (value, { trial with world := world })

def readAll (trial : MonitorTrial) (routersEnd : EndId) : MonitorTrial :=
  match trial.world.end? routersEnd with
  | none => trial
  | some state => { trial with
      world := trial.world.setEnd routersEnd { state with inbox := [] }
      requests := state.inbox.reverse ++ trial.requests }

def proceed (trial : MonitorTrial) (routersEnd : EndId) : MonitorTrial :=
  let trial := trial.readAll routersEnd
  match trial.messages with
  | [] => { trial with world := trial.world.closeEnd true routersEnd }
  | message :: rest => { trial with
      world := (trial.world.sendFrom routersEnd message).2
      messages := rest }

def proceedIfBlocked (trial : MonitorTrial) (socket : Descriptor) : MonitorTrial :=
  match trial.world.endAt? socket with
  | some (_, state) =>
    if state.inbox.isEmpty && !trial.world.isAbandoned state then trial.proceed state.peer
    else trial
  | none => trial

def respond : (call : Call) → StateM MonitorTrial call.Answer
  | .receive socket capacity => do
    match ← onMachine (beginReceive socket) with
    | some outcome => return outcome
    | none =>
      modify fun trial => trial.proceedIfBlocked socket
      onMachine (receiveNow socket capacity)
  | call => onMachine (answer call)

def report (program : Fallible Unit) (trial : MonitorTrial) : MonitorReport :=
  let (outcome, trial) := (program.run.runWith respond roundLimit).run trial
  { outcome := outcome.getD (.error (.system .unsupported))
    log := trial.world.log.reverse
    requests := trial.requests.reverse }

end MonitorTrial

/-- Runs a program against a router that has a name and sends messages. Without
such a router nobody listens. The router's side may fail to begin. -/
def tryMonitor (faults : List Fault) (router : Option (String × List Bytes))
    (program : Fallible Unit) : Except Failure MonitorReport :=
  let world : World := { faults := faults }
  match router with
  | none => .ok (MonitorTrial.report program { world := world, messages := [] })
  | some (name, messages) =>
    match (executeFallible (Listener.bind name 4)).run world with
    | (.error failure, _) => .error failure
    | (.ok _, world) =>
      .ok (MonitorTrial.report program { world := world, messages := messages })

end RadioRelay.Simulation
