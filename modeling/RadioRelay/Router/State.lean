import RadioRelay.Buffer
import RadioRelay.Poller
import RadioRelay.Routing
import RadioRelay.Socket.Listener

/-!
# The router's state

One router serves all clients from a single thread. It waits for the listener,
the kernel, the wake event and every client at once, and nobody else changes
its registry. Times are microseconds.
-/

namespace RadioRelay

structure RouterOptions where
  /-- The number of the simulated radio's netlink family. -/
  family : UInt16
  maxClientMessage : Nat
  kernelBuffer : Nat
  deriving DecidableEq, Repr

def RouterOptions.ofConfiguration (family : UInt16) (configuration : Configuration) :
    RouterOptions :=
  ⟨family, configuration.maxClientMessage, configuration.kernelBuffer⟩

/-- A router between two turns of its loop. -/
structure Router where
  poller : Poller
  listener : Listener
  /-- The socket over which the kernel hands out frames. -/
  kernel : Descriptor
  /-- Signalled to end the loop. -/
  wake : WakeEvent
  family : UInt16
  registry : Registry Connection
  kernelBuffer : Buffer
  clientBuffer : Buffer
  statistics : Statistics
  /-- Until when the listener stays out of the poller. -/
  pausedUntil : Option Nat
  /-- When a failed accept was last reported. -/
  lastAcceptNotice : Option Nat
  deriving Repr

namespace Router

def maxEvents : Nat := 256

/-- How long the listener stays out of the poller after a failed accept. -/
def acceptPause : Nat := 100000

/-- The least time between two reports of a failed accept. -/
def acceptNoticeInterval : Nat := 5000000

/-- Puts a router together: a poller that watches the listener, the kernel and
a fresh wake event. The sockets stay open if that fails. -/
def create (listener : Listener) (kernel : Descriptor) (options : RouterOptions) :
    Fallible Router := do
  let poller ← Poller.create maxEvents
  Fallible.closingOnFailure poller.descriptor do
    let wake ← Fallible.attempting .creatingWakeEvent WakeEvent.create
    Fallible.closingOnFailure wake.descriptor do
      Fallible.attempting .watchingListener (poller.watch listener.descriptor readable)
      Fallible.attempting .watchingKernel (poller.watch kernel readable)
      Fallible.attempting .watchingWakeEvent (poller.watch wake.descriptor readable)
      return {
        poller := poller
        listener := listener
        kernel := kernel
        wake := wake
        family := options.family
        registry := ∅
        kernelBuffer := Buffer.zeroed options.kernelBuffer
        clientBuffer := Buffer.zeroed options.maxClientMessage
        statistics := {}
        pausedUntil := none
        lastAcceptNotice := none }

/-- Stops watching and closes a connection that has left the registry. -/
def retire (router : Router) (id : ClientId) (connection : Connection)
    (reason : RemovalReason) : Program Router := do
  let _ ← router.poller.unwatch connection.descriptor
  connection.close
  Program.call (.log (.clientRemoved id reason))
  return { router with statistics.removed := router.statistics.removed + 1 }

def retireAll (router : Router) (reason : RemovalReason) :
    List (ClientId × Connection) → Program Router
  | [] => return router
  | (id, connection) :: rest => do
    let router ← router.retire id connection reason
    router.retireAll reason rest

/-- Removes a client, if it is connected, and retires its connection. -/
def removeClient (router : Router) (id : ClientId) (reason : RemovalReason) :
    Program Router := do
  let (connection?, registry) := router.registry.remove id
  let router := { router with registry := registry }
  match connection? with
  | some connection => router.retire id connection reason
  | none => return router

end Router

end RadioRelay
