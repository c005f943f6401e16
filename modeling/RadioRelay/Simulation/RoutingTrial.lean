import RadioRelay.Routing

/-!
# Trying out routing

The connections of the registry are stand-ins that are told how to take a
message. What they took whole is kept.
-/

namespace RadioRelay.Simulation

inductive Behaviour
  | takesAll
  /-- Claims to have taken so many bytes, and keeps nothing. -/
  | takes (count : Nat)
  | fails (errno : Errno)
  deriving DecidableEq, Repr

inductive RoutingStep
  | add (id : ClientId) (behaviour : Behaviour)
  | change (id : ClientId) (behaviour : Behaviour)
  | register (id : ClientId) (mac : MacAddress)
  | remove (id : ClientId)
  | subscribers (mac : MacAddress)
  | route (mac : MacAddress) (frame : Bytes)

structure RoutingOutcome where
  subscribers : Nat
  delivered : Nat
  dropped : List ClientId
  /-- The messages taken whole, in the order of sending. -/
  taken : List (ClientId × Bytes)
  clients : List ClientId
  subscriptions : Nat
  deriving Repr

inductive RoutingResult
  | flag (value : Bool)
  | clients (ids : List ClientId)
  | routed (outcome : RoutingOutcome)

structure RoutingTrial where
  registry : Registry ClientId := ∅
  behaviours : List (ClientId × Behaviour) := []
  taken : List (ClientId × Bytes) := []

def sortedIds (ids : List ClientId) : List ClientId :=
  ids.mergeSort fun left right => left.number ≤ right.number

namespace RoutingTrial

def sendTo (id : ClientId) (message : Bytes) : StateM RoutingTrial (Attempt Nat) := do
  match ((← get).behaviours.lookup id).getD .takesAll with
  | .fails errno => return .error errno
  | .takes count => return .ok count
  | .takesAll =>
    modify fun trial => { trial with taken := trial.taken ++ [(id, message)] }
    return .ok message.length

def setBehaviour (trial : RoutingTrial) (id : ClientId) (behaviour : Behaviour) : RoutingTrial :=
  { trial with behaviours := (id, behaviour) :: trial.behaviours.filter (·.1 ≠ id) }

def perform : RoutingStep → StateM RoutingTrial RoutingResult
  | .add id behaviour => do
    let trial ← get
    let (isNew, registry) := trial.registry.add id id
    let trial := if isNew then trial.setBehaviour id behaviour else trial
    set { trial with registry := registry }
    return .flag isNew
  | .change id behaviour => do
    let trial ← get
    if trial.registry.contains id then set (trial.setBehaviour id behaviour)
    return .flag (trial.registry.contains id)
  | .register id mac => do
    let trial ← get
    let (known, registry) := trial.registry.register mac id
    set { trial with registry := registry }
    return .flag known
  | .remove id => do
    let trial ← get
    let (connection?, registry) := trial.registry.remove id
    set { trial with registry := registry }
    return .flag connection?.isSome
  | .subscribers mac => return .clients (sortedIds ((← get).registry.subscribers mac))
  | .route mac frame => do
    modify fun trial => { trial with taken := [] }
    let (report, registry) ← RadioRelay.route sendTo ⟨mac, frame⟩ (← get).registry
    modify fun trial => { trial with registry := registry }
    return .routed {
      subscribers := report.subscribers
      delivered := report.delivered
      dropped := sortedIds (report.dropped.map (·.1))
      taken := (← get).taken
      clients := sortedIds registry.ids
      subscriptions := registry.subscriptionCount }

end RoutingTrial

def tryRouting (steps : List RoutingStep) : List RoutingResult :=
  ((steps.mapM RoutingTrial.perform).run {}).1

end RadioRelay.Simulation
