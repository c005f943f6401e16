import RadioRelay.Poller
import RadioRelay.Simulation.Result
import RadioRelay.Socket.Listener

/-!
# Trying out sockets and pollers

A workbench holds named connections, listeners and events, and at most one
poller. Each step uses one of them.
-/

namespace RadioRelay.Simulation

inductive BenchStep
  /-- Makes a connected pair: a connection under the name, and its other end. -/
  | pair (name : String)
  | event (name : String)
  | watch (name : String) (interest : UInt32)
  | unwatch (name : String)
  | signal (name : String)
  | drain (name : String)
  | wait (timeout : Int)
  | send (name : String) (message : Bytes)
  /-- Sends from the other end of a pair. -/
  | sendFromPeer (name : String) (message : Bytes)
  | receive (name : String) (capacity : Nat)
  | timeout (name : String) (milliseconds : Option Nat)
  | close (name : String)
  | closePeer (name : String)
  | bind (name socketName : String) (backlog : Int)
  | connect (name socketName : String)
  | accept (name listener : String)
  | unbind (name : String)
  /-- Disturbs a call, on the named connection if one is given. -/
  | fault (call : String) (effect : FaultEffect) (name : Option String)

structure Workbench where
  world : World := {}
  poller : Option Poller := none
  connections : List (String × Connection) := []
  peers : List (String × Connection) := []
  listeners : List (String × Listener) := []
  events : List (String × WakeEvent) := []

namespace Workbench

def onMachine {α : Type} (action : Machine α) : StateM Workbench α := fun bench =>
  let (value, world) := action.run bench.world
  (value, { bench with world := world })

def carryOut (program : Program Unit) : StateM Workbench Unit := do
  let _ ← onMachine (execute program)

def place (name : String) (connection : Connection) : StateM Workbench Unit := do
  let former := (← get).connections.lookup name
  modify fun bench =>
    { bench with connections := insertEntry name connection bench.connections }
  match former with
  | some former => carryOut former.close
  | none => return

def remove (name : String) : StateM Workbench Bool := do
  match (← get).connections.lookup name with
  | none => return false
  | some connection =>
    modify fun bench => { bench with connections := eraseEntry name bench.connections }
    carryOut connection.close
    return true

def removeListener (name : String) : StateM Workbench Bool := do
  match (← get).listeners.lookup name with
  | none => return false
  | some listener =>
    modify fun bench => { bench with listeners := eraseEntry name bench.listeners }
    carryOut listener.close
    return true

def descriptor? (bench : Workbench) (name : String) : Option Descriptor :=
  ((bench.connections.lookup name).map (·.descriptor)).or
    ((bench.events.lookup name).map (·.descriptor))

def nameOf (bench : Workbench) (descriptor : Descriptor) : String :=
  let named := bench.connections.map (fun entry => (entry.1, entry.2.descriptor))
    ++ bench.events.map (fun entry => (entry.1, entry.2.descriptor))
  ((named.find? (·.2 = descriptor)).map (·.1)).getD ""

def withEntry {α : Type} (entry : Option α) (action : α → StateM Workbench Result) :
    StateM Workbench Result :=
  match entry with
  | some value => action value
  | none => return .absent

def wait (timeout : Int) : StateM Workbench Result := do
  withEntry (← get).poller fun poller => do
    match ← onMachine (execute (poller.wait timeout)) with
    | none => return .absent
    | some (.error failure, poller) =>
      modify fun bench => { bench with poller := some poller }
      return .failure failure
    | some (.ok events, poller) =>
      modify fun bench => { bench with poller := some poller }
      let bench ← get
      let named := events.map fun event => (bench.nameOf event.descriptor, event.flags)
      return .events (named.mergeSort fun left right =>
        left.1 < right.1 ∨ (left.1 = right.1 ∧ left.2 ≤ right.2))

def makePair (name : String) : StateM Workbench Result := do
  match ← onMachine (executeFallible Connection.pair) with
  | .error failure => return .failure failure
  | .ok (first, second) =>
    place name first
    let former := (← get).peers.lookup name
    modify fun bench => { bench with peers := insertEntry name second bench.peers }
    match former with
    | some former => carryOut former.close
    | none => pure ()
    return .ok

def makeEvent (name : String) : StateM Workbench Result := do
  match ← onMachine (executeAttempt WakeEvent.create) with
  | .error errno => return .failure (.system errno)
  | .ok event =>
    let former := (← get).events.lookup name
    modify fun bench => { bench with events := insertEntry name event bench.events }
    match former with
    | some former => carryOut (Program.call (.close former.descriptor))
    | none => pure ()
    return .ok

def perform : BenchStep → StateM Workbench Result
  | .pair name => makePair name
  | .event name => makeEvent name
  | .watch name interest => do
    withEntry (← get).poller fun poller => do
      withEntry ((← get).descriptor? name) fun target => do
        return .ofPlainAttempt (← onMachine (executeAttempt (poller.watch target interest)))
  | .unwatch name => do
    withEntry (← get).poller fun poller => do
      withEntry ((← get).descriptor? name) fun target => do
        return .ofPlainAttempt (← onMachine (executeAttempt (poller.unwatch target)))
  | .signal name => do
    withEntry ((← get).events.lookup name) fun event => do
      return .ofPlainAttempt (← onMachine (executeAttempt event.signal))
  | .drain name => do
    withEntry ((← get).events.lookup name) fun event => do
      return .ofPlainAttempt (← onMachine (executeAttempt event.drain))
  | .wait timeout => wait timeout
  | .send name message => do
    withEntry ((← get).connections.lookup name) fun connection => do
      return .ofAttempt .count (← onMachine (executeAttempt (connection.send message)))
  | .sendFromPeer name message => do
    withEntry ((← get).peers.lookup name) fun connection => do
      return .ofAttempt .count (← onMachine (executeAttempt (connection.send message)))
  | .receive name capacity => do
    withEntry ((← get).connections.lookup name) fun connection => do
      return .ofAttempt (fun received =>
          .received received.size (received.shown capacity))
        (← onMachine (executeAttempt (connection.receive capacity)))
  | .timeout name milliseconds => do
    withEntry ((← get).connections.lookup name) fun connection => do
      return .ofExcept (fun _ => .ok)
        (← onMachine (executeFallible (connection.setReceiveTimeout milliseconds)))
  | .close name => return .flag (← remove name)
  | .closePeer name => do
    withEntry ((← get).peers.lookup name) fun connection => do
      modify fun bench => { bench with peers := eraseEntry name bench.peers }
      carryOut connection.close
      return .ok
  | .bind name socketName backlog => do
    match ← onMachine (executeFallible (Listener.bind socketName backlog)) with
    | .error failure => return .failure failure
    | .ok listener =>
      let _ ← removeListener name
      modify fun bench => { bench with listeners := insertEntry name listener bench.listeners }
      return .name listener.name
  | .connect name socketName => do
    match ← onMachine (executeFallible (Connection.connect socketName)) with
    | .error failure => return .failure failure
    | .ok connection =>
      place name connection
      return .ok
  | .accept name listenerName => do
    withEntry ((← get).listeners.lookup listenerName) fun listener => do
      match ← onMachine (executeAttempt listener.accept) with
      | .error errno => return .system errno
      | .ok none => return .word "none"
      | .ok (some connection) =>
        place name connection
        return .word "accepted"
  | .unbind name => return .flag (← removeListener name)
  | .fault call effect name => do
    let bench ← get
    let target := name.map fun name => (bench.descriptor? name).getD ⟨-1⟩
    let fault : Fault := ⟨call, effect, target⟩
    set { bench with world.faults := bench.world.faults ++ [fault] }
    return .ok

/-- Does one thing, and shows the address that a bind or a connect used, if one
was carried out. -/
def performShowingAddress (step : BenchStep) : StateM Workbench (Result × Option LocalAddress) := do
  modify fun bench => { bench with world.lastAddress := none }
  let result ← perform step
  return (result, (← get).world.lastAddress)

end Workbench

def tryListening (faults : List Fault) (steps : List BenchStep) :
    List (Result × Option LocalAddress) :=
  ((steps.mapM Workbench.performShowingAddress).run { world.faults := faults }).1

def tryPolling (faults : List Fault) (capacity : Nat) (steps : List BenchStep) :
    Except Failure (List Result) :=
  let world : World := { faults := faults }
  match (executeFallible (Poller.create capacity)).run world with
  | (.error failure, _) => .error failure
  | (.ok poller, world) =>
    .ok ((steps.mapM Workbench.perform).run { world := world, poller := some poller }).1

def tryPair (faults : List Fault) (first second : String) (steps : List BenchStep) :
    Except Failure (List Result) :=
  let world : World := { faults := faults }
  match (executeFallible Connection.pair).run world with
  | (.error failure, _) => .error failure
  | (.ok (left, right), world) =>
    .ok ((steps.mapM Workbench.perform).run
      { world := world, connections := [(first, left), (second, right)] }).1

end RadioRelay.Simulation
