import RadioRelay.Router.Accept
import RadioRelay.Router.Answer
import RadioRelay.Router.Forward

/-!
# The router's loop

In one turn the router waits, accepts whoever waits to be accepted, forwards
one datagram from the kernel, and serves every ready client with one message.
A signalled wake event ends the loop before anything else is done.
-/

namespace RadioRelay.Router

structure Batch where
  wake : Bool
  listener : Bool
  kernel : Bool
  clients : List Readiness
  deriving DecidableEq, Repr

def classify (router : Router) (events : List Readiness) : Batch where
  wake := events.any (·.descriptor = router.wake.descriptor)
  listener := events.any (·.descriptor = router.listener.descriptor)
  kernel := events.any (·.descriptor = router.kernel)
  clients := events.filter fun event =>
    event.descriptor ≠ router.wake.descriptor ∧ event.descriptor ≠ router.listener.descriptor
      ∧ event.descriptor ≠ router.kernel

/-- Acts on what is ready, and tells whether the loop goes on. -/
def dispatch (router : Router) (batch : Batch) : Program (Except Failure Bool × Router) := do
  if batch.wake then
    match ← router.wake.drain with
    | .error errno => return (.error (.system errno), router)
    | .ok _ =>
      Program.call (.log .shutdownRequested)
      return (.ok false, router)
  let router ← if batch.listener then router.acceptClients else pure router
  let router ← if batch.kernel then router.handleKernel else pure router
  let router ← router.serveClients batch.clients
  return (.ok true, router)

/-- One turn of the loop, waiting at most so many milliseconds; a negative
number waits for ever. Tells whether the loop goes on. -/
def pollOnce (router : Router) (timeout : Int) : Program (Except Failure Bool × Router) := do
  match ← router.resumeAccept with
  | .error failure => return (.error failure, router)
  | .ok router =>
    let timeout ← router.boundedTimeout timeout
    let (events, poller) ← router.poller.wait timeout
    let router := { router with poller := poller }
    match events with
    | .error failure => return (.error failure, router)
    | .ok events => router.dispatch (router.classify events)

/-- Takes turns until the wake event is signalled or a turn fails. -/
def pollUntilWoken (router : Router) : Program (Except Failure Unit × Router) :=
  Program.repeatUntil router fun router => do
    match ← router.pollOnce (-1) with
    | (.ok true, router) => return .inl router
    | (.ok false, router) => return .inr (.ok (), router)
    | (.error failure, router) => return .inr (.error failure, router)

/-- Routes frames until the wake event is signalled, then retires every client. -/
def run (router : Router) : Program (Except Failure Unit × Router) := do
  Program.call (.log (.routing router.listener.name))
  match ← router.pollUntilWoken with
  | (.error failure, router) => return (.error failure, router)
  | (.ok _, router) =>
    let (connections, registry) := router.registry.drain
    let router := { router with registry := registry }
    let router ← router.retireAll .shuttingDown connections
    Program.call (.log (.stopped router.statistics))
    return (.ok (), router)

def closeAll : List (ClientId × Connection) → Program Unit
  | [] => return
  | (_, connection) :: rest => do
    connection.close
    closeAll rest

/-- Closes all that a router holds. -/
def close (router : Router) : Program Unit := do
  closeAll router.registry.clients
  Program.call (.close router.wake.descriptor)
  Program.call (.close router.poller.descriptor)
  Program.call (.close router.kernel)
  router.listener.close

end RadioRelay.Router
