import RadioRelay.Client
import RadioRelay.Simulation.Result

/-!
# The surroundings of a running router

On the stage are clients under labels, the kernel that sends datagrams, and a
script of what is to happen while the router waits. Plain clients only send and
receive bytes; full clients register and receive frames.
-/

namespace RadioRelay.Simulation

inductive StageStep
  | connect (client : String)
  | send (client : String) (message : Bytes)
  /-- The client reads all that was sent to it, and closes its connection. -/
  | close (client : String)
  /-- The kernel sends a datagram, or a receive from it will fail. -/
  | kernel (datagram : Attempt Bytes)
  /-- Disturbs a call; with a client, a call on the router's end of its
  connection. -/
  | fault (call : String) (effect : FaultEffect) (client : Option String)
  /-- The router's end of a client's connection shows these flags next time. -/
  | flags (client : String) (flags : UInt32)
  | advance (microseconds : Nat)
  | shutdown
  | inbox

/-- A machine, and who is on it besides the program under trial. -/
structure Stage where
  world : World
  /-- The name under which clients look for the router. -/
  socketName : String
  /-- Whether the kernel's part is played by a peer, whose sends are calls that
  can be disturbed. -/
  peerPlaysKernel : Bool
  plain : List (String × Connection) := []
  full : List (String × Client) := []
  /-- The router's ends of all connections ever made, with the labels of their
  clients, the latest first. -/
  labels : List (EndId × String) := []
  /-- What plain clients read and was not shown yet. -/
  unshown : List Mail := []
  script : List StageStep := []
  /-- The outcomes of what happened by the script, the latest first. -/
  outcomes : List Result := []

namespace Stage

def onMachine {α : Type} (action : Machine α) : StateM Stage α := fun stage =>
  let (value, world) := action.run stage.world
  (value, { stage with world := world })

def label (stage : Stage) (client : String) (connection : Connection) : Stage :=
  match stage.world.endAt? connection.descriptor with
  | some (_, state) => { stage with labels := (state.peer, client) :: stage.labels }
  | none => stage

def labelOf? (stage : Stage) (descriptor : Descriptor) : Option String :=
  (stage.world.endAt? descriptor).bind fun (own, _) => stage.labels.lookup own

def routersSocket? (stage : Stage) (client : String) : Option Descriptor :=
  (stage.labels.find? (·.2 = client)).bind fun (routersEnd, _) =>
    stage.world.holderOf? routersEnd

def readCapacity : Nat := 1048576

/-- A client receives messages, until there are none or a receive fails. Being
told that the connection was reset does not stop it. The bound is on the number
of receives. -/
def receiveAll (socket : Descriptor) : Nat → Machine (List Bytes)
  | 0 => return []
  | bound + 1 => do
    match ← answer (.receive socket readCapacity) with
    | .error errno =>
      if errno = .connectionReset then receiveAll socket bound else return []
    | .ok received =>
      if received.size = 0 then return []
      return received.shown readCapacity :: (← receiveAll socket bound)

def readAll (client : String) (connection : Connection) : StateM Stage Unit := do
  match (← get).world.endAt? connection.descriptor with
  | none => return
  | some (_, state) =>
    let bound := state.inbox.length + (← get).world.faults.length + 2
    let messages ← onMachine (receiveAll connection.descriptor bound)
    modify fun stage => { stage with unshown := stage.unshown ++ [⟨client, messages⟩] }

/-- Mail of the same client put together, the clients in order. -/
def sortMail (mail : List Mail) : List Mail :=
  let clients := sorted (mail.map (·.client)).eraseDups
  let together := clients.map fun client =>
    Mail.mk client ((mail.filter (·.client = client)).flatMap (·.messages))
  together.filter (!·.messages.isEmpty)

def showMail : StateM Stage (List Mail) := do
  for client in sorted ((← get).plain.map (·.1)) do
    match (← get).plain.lookup client with
    | some connection => readAll client connection
    | none => pure ()
  let mail := (← get).unshown
  modify fun stage => { stage with unshown := [] }
  return sortMail mail

/-- The connected plain clients that have nothing to read and never will. -/
def ended (stage : Stage) : List String :=
  sorted ((stage.plain.filter fun entry =>
    match stage.world.endAt? entry.2.descriptor with
    | some (_, state) => state.inbox.isEmpty && stage.world.isAbandoned state
    | none => false).map (·.1))

/-- Takes a plain client off the stage, once it has read everything. -/
def dismissPlain (client : String) : StateM Stage Unit := do
  match (← get).plain.lookup client with
  | none => return
  | some connection =>
    readAll client connection
    modify fun stage => { stage with
      plain := eraseEntry client stage.plain
      world := stage.world.closeDescriptor connection.descriptor }

def dismissFull (name : String) : StateM Stage Unit := do
  match (← get).full.lookup name with
  | none => return
  | some client =>
    modify fun stage => { stage with
      full := eraseEntry name stage.full
      world := stage.world.closeDescriptor client.connection.descriptor }

def terminate : StateM Stage (Attempt Unit) := do
  match (← get).world.signalEvent with
  | some event => onMachine (answer (.writeEvent event))
  | none => return .ok ()

def perform : StageStep → StateM Stage Result
  | .connect client => do
    match ← onMachine (executeFallible (Connection.connect (← get).socketName)) with
    | .error failure => return .failure failure
    | .ok connection =>
      dismissPlain client
      modify fun stage =>
        { stage with plain := insertEntry client connection stage.plain }.label
          client connection
      return .ok
  | .send client message => do
    match (← get).plain.lookup client with
    | none => return .absent
    | some connection =>
      return .ofAttempt .count (← onMachine (answer (.send connection.descriptor message)))
  | .close client => do
    dismissPlain client
    dismissFull client
    return .ok
  | .kernel datagram => do
    let size := match datagram with
      | .ok bytes => bytes.length
      | .error _ => 1
    let send (world : World) := (.ok size, world.sendFromKernel datagram)
    if (← get).peerPlaysKernel then
      return .ofAttempt .count (← onMachine (guarded "send" none Int.toNat send))
    return .ofAttempt .count (← onMachine send)
  | .fault call effect client => do
    let target := client.map (← get).routersSocket?
    match target with
    | some none => return .gone
    | target =>
      let fault : Fault := ⟨call, effect, target.join⟩
      modify fun stage => { stage with world.faults := stage.world.faults ++ [fault] }
      return .ok
  | .flags client flags => do
    match (← get).routersSocket? client with
    | none => return .gone
    | some descriptor =>
      modify fun stage => { stage with
        world.flagOverrides := stage.world.flagOverrides ++ [(descriptor, flags)] }
      return .ok
  | .advance microseconds => do
    modify fun stage => { stage with
      world.microseconds := stage.world.microseconds + microseconds }
    return .ok
  | .shutdown => return .ofPlainAttempt (← terminate)
  | .inbox => return .inbox (← showMail)

/-- Reports what a poller finds ready. As long as that is nothing, the given
script goes on; when it is over, a termination signal comes. -/
def reportPlaying (poller : Descriptor) (capacity : Nat) :
    List StageStep → StateM Stage Reported
  | [] => do
    let reported ← onMachine (reportNow poller capacity)
    if reported.count ≠ 0 then return reported
    let _ ← terminate
    onMachine (reportNow poller capacity)
  | step :: rest => do
    let reported ← onMachine (reportNow poller capacity)
    if reported.count ≠ 0 then return reported
    modify fun stage => { stage with script := rest }
    let outcome ← perform step
    modify fun stage => { stage with outcomes := outcome :: stage.outcomes }
    reportPlaying poller capacity rest

/-- Waits as the machine does, but lets the script go on first if nothing is
ready and the wait has no limit. -/
def wait (poller : Descriptor) (capacity : Nat) (timeout : Int) :
    StateM Stage (Attempt Reported) := do
  match ← onMachine (beginWait timeout) with
  | some outcome => return outcome
  | none =>
    if timeout < 0 then return .ok (← reportPlaying poller capacity (← get).script)
    let reported ← onMachine (reportNow poller capacity)
    onMachine (passUnless reported timeout)
    return .ok reported

def respond : (call : Call) → StateM Stage call.Answer
  | .wait poller capacity timeout => wait poller capacity timeout
  | call => onMachine (answer call)

/-- Runs a program while the script goes on. The rest of the script, if the
program ends first, never happens. -/
def play {α : Type} (script : List StageStep) (program : Program α) :
    StateM Stage (Option α × List Result) := do
  modify fun stage => { stage with script := script, outcomes := [] }
  let value ← program.runWith respond roundLimit
  let outcomes := (← get).outcomes.reverse
  modify fun stage => { stage with script := [], outcomes := [] }
  return (value, outcomes)

end Stage

end RadioRelay.Simulation
