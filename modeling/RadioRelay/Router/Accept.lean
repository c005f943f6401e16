import RadioRelay.Router.State

/-!
# Accepting clients

The listener stays ready for as long as somebody waits. An accept that fails
for want of resources would therefore wake the router again at once; instead
the listener leaves the poller for a while.
-/

namespace RadioRelay.Router

/-- Counts a failed accept, reports it if none was reported lately, and takes
the listener out of the poller unless it is out already. -/
def pauseAccept (router : Router) (errno : Errno) : Program Router := do
  let statistics := { router.statistics with acceptErrors := router.statistics.acceptErrors + 1 }
  let router := { router with statistics := statistics }
  let now ← Program.call .currentTime
  let router ←
    if router.lastAcceptNotice.all (fun last => acceptNoticeInterval ≤ now - last) then do
      Program.call (.log (.acceptFailed router.listener.name errno statistics.acceptErrors))
      pure { router with lastAcceptNotice := some now }
    else pure router
  if router.pausedUntil.isSome then return router
  match ← router.poller.unwatch router.listener.descriptor with
  | .ok _ => return { router with pausedUntil := some (now + acceptPause) }
  | .error _ => return router

/-- Takes in an accepted connection. One that cannot be watched is closed. -/
def welcome (router : Router) (connection : Connection) : Program Router := do
  let id : ClientId := connection.descriptor
  match ← router.poller.watch id readable with
  | .error errno =>
    Program.call (.log (.clientUnwatched id errno))
    connection.close
    return router
  | .ok _ =>
    let (isNew, registry) := router.registry.add id connection
    unless isNew do connection.close
    Program.call (.log (.clientAdded id))
    return { router with
      registry := registry
      statistics.accepted := router.statistics.accepted + 1 }

def acceptClients (router : Router) : Program Router :=
  Program.repeatUntil router fun router => do
    match ← router.listener.accept with
    | .ok none => return .inr router
    | .ok (some connection) => return .inl (← router.welcome connection)
    | .error errno => return .inr (← router.pauseAccept errno)

/-- Puts the listener back into the poller when its pause is over. -/
def resumeAccept (router : Router) : Program (Except Failure Router) := do
  match router.pausedUntil with
  | none => return .ok router
  | some deadline =>
    let now ← Program.call .currentTime
    if now < deadline then return .ok router
    match ← router.poller.watch router.listener.descriptor readable with
    | .ok _ => return .ok { router with pausedUntil := none }
    | .error errno => return .error ((Failure.system errno).during .watchingListener)

/-- The time to wait: not beyond the end of a pause, rounded up to the next
millisecond. A negative time waits for ever. -/
def boundedTimeout (router : Router) (timeout : Int) : Program Int := do
  match router.pausedUntil with
  | none => return timeout
  | some deadline =>
    let now ← Program.call .currentTime
    let left : Int := ((deadline - now : Nat) : Int) / 1000 + 1
    return if timeout < 0 then left else min timeout left

end RadioRelay.Router
