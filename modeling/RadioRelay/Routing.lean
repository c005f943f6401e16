import RadioRelay.Registry
import RadioRelay.Wire.Delivery
import RadioRelay.Wire.Notification

/-!
# Routing one frame

A frame is delivered to every subscriber of its transmitter, each exactly once.
A client that does not take the whole delivery at once has failed; it is
removed, but only after everybody else was served. Nothing is logged here: what
became of a frame stands in the report.
-/

namespace RadioRelay

universe u

structure RouteReport (Connection : Type) where
  subscribers : Nat
  delivered : Nat
  /-- The clients that failed, with their connections; they are no longer in
  the registry. -/
  dropped : List (ClientId × Connection)
  deriving Repr

namespace Registry

variable {Connection : Type}

def connectionsOf (registry : Registry Connection) (clients : List ClientId) :
    List (ClientId × Connection) :=
  clients.filterMap fun id => (registry.get? id).map (id, ·)

/-- Removes clients one after the other, and hands back the connections of
those that were connected. -/
def removeAll (registry : Registry Connection) :
    List ClientId → List (ClientId × Connection) × Registry Connection
  | [] => ([], registry)
  | id :: rest =>
    let (connection?, registry) := registry.remove id
    let (removed, registry) := registry.removeAll rest
    match connection? with
    | some connection => ((id, connection) :: removed, registry)
    | none => (removed, registry)

end Registry

section Route

variable {Connection : Type} {m : Type → Type u} [Monad m]

def tookAll (message : Bytes) : Attempt Nat → Bool
  | .ok count => count = message.length
  | .error _ => false

theorem tookAll_iff {message : Bytes} {outcome : Attempt Nat} :
    tookAll message outcome = true ↔ outcome = .ok message.length := by
  cases outcome <;> simp [tookAll]

/-- Sends a message to each client in turn, and notes which of them took it. -/
def deliverAll (send : Connection → Bytes → m (Attempt Nat)) (message : Bytes) :
    List (ClientId × Connection) → m (List (ClientId × Bool))
  | [] => pure []
  | (id, connection) :: rest => do
    let outcome ← send connection message
    let outcomes ← deliverAll send message rest
    return (id, tookAll message outcome) :: outcomes

/-- Delivers a frame to every subscriber of its transmitter. A frame too large
for an attribute is delivered to nobody. -/
def route (send : Connection → Bytes → m (Attempt Nat)) (notification : Notification)
    (registry : Registry Connection) : m (RouteReport Connection × Registry Connection) :=
  let targets := registry.subscribers notification.transmitter
  if targets.isEmpty then pure (⟨0, 0, []⟩, registry)
  else
    match Delivery.encode ⟨notification.transmitter, notification.frame⟩ with
    | .error _ => pure (⟨targets.length, 0, []⟩, registry)
    | .ok message => do
      let outcomes ← deliverAll send message (registry.connectionsOf targets)
      let failed := (outcomes.filter (!·.2)).map (·.1)
      let (dropped, registry) := registry.removeAll failed
      return (⟨targets.length, outcomes.countP (·.2), dropped⟩, registry)

end Route

end RadioRelay
