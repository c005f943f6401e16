import RadioRelay.Simulation.Kernel
import RadioRelay.Simulation.Result

/-!
# Trying out the channel to the kernel
-/

namespace RadioRelay.Simulation

inductive ChannelStep
  /-- Subscribes to a family. The kernel answers with some datagrams, and a
  receive fails when they are used up. -/
  | subscribe (family : UInt16) (replies : List Bytes) (exhausted : Errno)
  | datagram (bytes : Bytes)
  | receive (capacity : Nat)
  | fault (call : String) (effect : FaultEffect)

inductive ChannelResult
  | plain (result : Result)
  /-- The outcome of a subscription, and what was sent to the kernel. -/
  | subscribed (result : Result) (requests : List Bytes)

structure ChannelTrial where
  world : World
  channel : Channel

namespace ChannelTrial

def onMachine {α : Type} (action : Machine α) : StateM ChannelTrial α := fun trial =>
  let (value, world) := action.run trial.world
  (value, { trial with world := world })

def perform : ChannelStep → StateM ChannelTrial ChannelResult
  | .subscribe family replies exhausted => do
    modify fun trial => { trial with
      world.requests := []
      world.kernel := { trial.world.kernel with
        reply := fun _ => replies
        exhausted := exhausted } }
    match ← onMachine (execute ((← get).channel.subscribe family)) with
    | none => return .plain .absent
    | some (outcome, channel) =>
      modify fun trial => { trial with channel := channel }
      return .subscribed (.ofExcept (fun _ => .ok) outcome) (← get).world.requests.reverse
  | .datagram bytes => do
    modify fun trial => { trial with world := trial.world.sendFromKernel (.ok bytes) }
    return .plain (.count bytes.length)
  | .receive capacity => do
    let call : Call := .receive (← get).channel.socket capacity
    return .plain (.ofAttempt (fun received =>
        .received received.size (received.shown capacity))
      (← onMachine (executeAttempt (Program.call call))))
  | .fault call effect => do
    let fault : Fault := ⟨call, effect, none⟩
    modify fun trial => { trial with world.faults := trial.world.faults ++ [fault] }
    return .plain .ok

end ChannelTrial

def tryChannel (faults : List Fault) (port : UInt32) (steps : List ChannelStep) :
    Except Failure (List ChannelResult) :=
  match (executeFallible Channel.connect).run { faults := faults, kernel.port := port } with
  | (.error failure, _) => .error failure
  | (.ok channel, world) =>
    .ok ((steps.mapM ChannelTrial.perform).run { world := world, channel := channel }).1

def tryResolving (faults : List Fault) (port : UInt32) (families : List (String × UInt16))
    (name : String) : Except Failure UInt16 :=
  ((executeFallible (Family.resolve name)).run
    { faults := faults, kernel := Kernel.withFamilies port families none }).1

end RadioRelay.Simulation
