import RadioRelay.Router.Loop
import RadioRelay.Simulation.Stage

/-!
# Trying out the router's loop

The loop can be taken turn by turn or run to its end. It takes turns while a
full client waits.
-/

namespace RadioRelay.Simulation

inductive RouterStep
  | happen (step : StageStep)
  | subscribers (mac : MacAddress)
  | turn (timeout : Int)
  | run (script : List StageStep)
  | connect (client : String)
  /-- A full client registers, while the loop takes a number of turns at most. -/
  | register (client : String) (mac : MacAddress) (turns : Nat)
  | receive (client : String) (turns : Nat)

structure RouterView where
  inbox : List Mail
  ended : List String
  clients : List String
  subscriptions : Nat
  statistics : Statistics
  /-- The time limits of the waits since the step began. -/
  timeouts : List Int

inductive RouterResult
  | plain (result : Result)
  | turned (goesOn : Except Failure Bool) (view : RouterView)
  | ran (outcome : Except Failure Unit) (script : List Result) (log : List Notice)
    (view : RouterView)
  | clientActed (result : Result) (view : RouterView)

structure RouterTrial where
  stage : Stage
  router : Router

namespace RouterTrial

def onStage {α : Type} (action : StateM Stage α) : StateM RouterTrial α := fun trial =>
  let (value, stage) := action.run trial.stage
  (value, { trial with stage := stage })

def labelsOf (trial : RouterTrial) (ids : List ClientId) : List String :=
  sorted (ids.filterMap trial.stage.labelOf?)

def view : StateM RouterTrial RouterView := do
  let mail ← onStage Stage.showMail
  let trial ← get
  return {
    inbox := mail
    ended := trial.stage.ended
    clients := trial.labelsOf trial.router.registry.ids
    subscriptions := trial.router.registry.subscriptionCount
    statistics := trial.router.statistics
    timeouts := trial.stage.world.timeouts.reverse }

def turn (timeout : Int) : StateM RouterTrial (Except Failure Bool) := do
  match ← onStage (Stage.onMachine (execute ((← get).router.pollOnce timeout))) with
  | none => return .error (.system .unsupported)
  | some (outcome, router) =>
    modify fun trial => { trial with router := router }
    return outcome

/-- Receives a message on a full client's connection. As long as there is none,
the loop takes turns; the number of those left is part of the state. -/
def receiveTurning (socket : Descriptor) (capacity : Nat) :
    Nat → StateT Nat (StateM RouterTrial) (Attempt Received)
  | 0 => do
    set 0
    onStage (Stage.onMachine (receiveNow socket capacity))
  | turns + 1 => do
    set (turns + 1)
    match ← onStage (Stage.onMachine (receiveNow socket capacity)) with
    | .ok received => return .ok received
    | .error errno =>
      if errno ≠ .wouldBlock then return .error errno
      set turns
      match ← turn 0 with
      | .ok true => receiveTurning socket capacity turns
      | _ => return .error errno

def respond : (call : Call) → StateT Nat (StateM RouterTrial) call.Answer
  | .receive socket capacity => do
    match ← onStage (Stage.onMachine (beginReceive socket)) with
    | some outcome => return outcome
    | none => receiveTurning socket capacity (← get)
  | call => onStage (Stage.onMachine (answer call))

def act {α : Type} (name : String) (turns : Nat) (onValue : α → Result)
    (program : Client → Program (Except Failure α × Client)) :
    StateM RouterTrial Result := do
  match (← get).stage.full.lookup name with
  | none => return .absent
  | some client =>
    match (← ((program client).runWith respond roundLimit).run turns).1 with
    | none => return .absent
    | some (outcome, client) =>
      modify fun trial => { trial with
        stage.full := insertEntry name client trial.stage.full }
      return .ofExcept onValue outcome

def perform : RouterStep → StateM RouterTrial RouterResult
  | .happen step => return .plain (← onStage (Stage.perform step))
  | .subscribers mac => do
    let trial ← get
    return .plain (.labels (trial.labelsOf (trial.router.registry.subscribers mac)))
  | .turn timeout => do
    let goesOn ← turn timeout
    return .turned goesOn (← view)
  | .run script => do
    modify fun trial => { trial with stage.world.log := [] }
    match ← onStage (Stage.play script (← get).router.run) with
    | (none, outcomes) =>
      return .ran (.error (.system .unsupported)) outcomes (← get).stage.world.log.reverse (← view)
    | (some (outcome, router), outcomes) =>
      modify fun trial => { trial with router := router }
      return .ran outcome outcomes (← get).stage.world.log.reverse (← view)
  | .connect name => do
    let socketName := (← get).stage.socketName
    match ← onStage (Stage.onMachine (executeFallible (Client.connect socketName))) with
    | .error failure => return .plain (.failure failure)
    | .ok client =>
      onStage (Stage.dismissFull name)
      modify fun trial => { trial with
        stage := { trial.stage with full := insertEntry name client trial.stage.full }.label
          name client.connection }
      return .plain .ok
  | .register name mac turns => do
    let result ← act name turns (fun _ => .ok) (·.register mac)
    return .clientActed result (← view)
  | .receive name turns => do
    let result ← act name turns .delivery (·.receiveFrame)
    return .clientActed result (← view)

/-- Does one thing, and forgets the time limits of earlier waits. -/
def performAnew (step : RouterStep) : StateM RouterTrial RouterResult := do
  modify fun trial => { trial with stage.world.timeouts := [] }
  perform step

end RouterTrial

/-- A router of a name on an empty machine, with an open netlink socket. The
faults concern the making of the router and all that follows. -/
def startRouter (name : String) (backlog : Int) (options : RouterOptions)
    (faults : List Fault) : Machine (Except Failure Router) := do
  match ← executeFallible (Listener.bind name backlog) with
  | .error failure => return .error failure
  | .ok listener =>
    let (kernel, world) := (← get).openDevice (.netlink [])
    set { world with faults := faults }
    match ← executeFallible (Router.create listener kernel options) with
    | .error failure => return .error failure
    | .ok router =>
      modify fun world => { world with signalEvent := some router.wake.descriptor }
      return .ok router

def tryRouter (name : String) (backlog : Int) (options : RouterOptions) (faults : List Fault)
    (steps : List RouterStep) : Except Failure (List RouterResult) :=
  match (startRouter name backlog options faults).run {} with
  | (.error failure, _) => .error failure
  | (.ok router, world) =>
    let stage : Stage := { world := world, socketName := name, peerPlaysKernel := true }
    .ok ((steps.mapM RouterTrial.performAnew).run { stage := stage, router := router }).1

end RadioRelay.Simulation
