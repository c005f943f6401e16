import RadioRelay.Proofs.Execution
import RadioRelay.Proofs.Registry
import RadioRelay.Router.Loop

/-!
# The calls of the router, function by function

For each function of the router that makes calls, one statement says which trace
it leaves and in which state. Everything else about the router is derived from
these statements; no later proof opens the functions again.
-/

namespace RadioRelay

/-- The result that a request is acknowledged with. -/
def Request.verdict : Request → Int32
  | .register _ => 0
  | .missingMac | .unrecognized _ => -22

def Request.notice (id : ClientId) : Request → Notice
  | .register mac => .clientRegistered id mac
  | .missingMac => .clientWithoutMac id
  | .unrecognized command => .clientCommand id command

def ClientMessage.reply (message : ClientMessage) : Bytes :=
  Acknowledgement.encode message.request.verdict message.header

def Registry.grant {Connection : Type} (registry : Registry Connection) (id : ClientId) :
    Request → Registry Connection
  | .register mac => (registry.register mac id).2
  | .missingMac | .unrecognized _ => registry

/-- What a poller makes of the system's answer to a wait. -/
def Poller.waited (poller : Poller) : Attempt Reported → Except Failure (List Readiness) × Poller
  | .ok reported =>
    (.ok ((poller.store reported.stored).events reported.count), poller.store reported.stored)
  | .error errno => (if errno = .interrupted then .ok [] else .error (.system errno), poller)

/-- What a read of a wake event makes of the system's answer: there may be more signals. -/
def WakeEvent.counted : Attempt Nat → Unit ⊕ Attempt Unit
  | .ok 0 => .inr (.ok ())
  | .ok _ => .inl ()
  | .error errno => .inr (if errno = .wouldBlock then .ok () else .error errno)

def WakeEvent.drainOnce (wake : WakeEvent) (_ : Unit) : Program (Unit ⊕ Attempt Unit) := do
  match ← Program.call (.readEvent wake.descriptor) with
  | .ok 0 => return .inr (.ok ())
  | .ok _ => return .inl ()
  | .error errno => return .inr (if errno = .wouldBlock then .ok () else .error errno)

/-- Something is received, sent or given up, or the log is told of datagrams or of a client that
leaves. -/
def Call.OfForwarding : Call → Prop
  | .receive _ _ | .send _ _ | .unwatch _ _ | .close _ => True
  | .log .datagramsLost | .log (.kernelUnreadable _) | .log (.oversizedDatagram _ _)
  | .log (.clientRemoved _ _) => True
  | _ => False

namespace Router

open Program

variable {router after : Router} {trace : Trace} {id : ClientId}

/-! ### Removing clients -/

/-- The calls by which a connection is given up. -/
def retirement (poller : Poller) (id : ClientId) (connection : Connection)
    (reason : RemovalReason) (unwatched : Attempt Unit) : Trace :=
  [⟨.unwatch poller.descriptor connection.descriptor, unwatched⟩,
    ⟨.close connection.descriptor, ()⟩, ⟨.log (.clientRemoved id reason), ()⟩]

theorem runs_retire {connection : Connection} {reason : RemovalReason} :
    (router.retire id connection reason).Runs trace after ↔
      ∃ unwatched, trace = retirement router.poller id connection reason unwatched
        ∧ after = { router with statistics.removed := router.statistics.removed + 1 } := by
  constructor
  · rintro ⟨unwatched, _, rfl, _, _, rfl, _, _, rfl, rfl, rfl⟩
    exact ⟨unwatched, rfl, rfl⟩
  · rintro ⟨unwatched, rfl, rfl⟩
    exact ⟨unwatched, _, rfl, (), _, rfl, (), _, rfl, rfl, rfl⟩

def retirements (poller : Poller) (reason : RemovalReason)
    (retired : List ((ClientId × Connection) × Attempt Unit)) : Trace :=
  retired.flatMap fun entry => retirement poller entry.1.1 entry.1.2 reason entry.2

theorem runs_retireAll {connections : List (ClientId × Connection)} {reason : RemovalReason}
    (runs : (router.retireAll reason connections).Runs trace after) :
    ∃ retired, retired.map (·.1) = connections
      ∧ trace = retirements router.poller reason retired
      ∧ after = { router with
        statistics.removed := router.statistics.removed + connections.length } := by
  induction connections generalizing router trace with
  | nil =>
    rcases runs with ⟨rfl, rfl⟩
    exact ⟨[], rfl, rfl, rfl⟩
  | cons entry rest ih =>
    rcases runs_bind.mp runs with ⟨first, later, middle, rfl, retires, runs⟩
    rcases runs_retire.mp retires with ⟨unwatched, rfl, rfl⟩
    rcases ih runs with ⟨retired, rfl, rfl, rfl⟩
    refine ⟨(entry, unwatched) :: retired, rfl, rfl, ?_⟩
    simp [Nat.add_assoc, Nat.add_comm 1]

theorem runs_removeClient {reason : RemovalReason}
    (runs : (router.removeClient id reason).Runs trace after) :
    (router.registry.get? id = none ∧ trace = []
        ∧ after = { router with registry := (router.registry.remove id).2 })
      ∨ ∃ connection unwatched, router.registry.get? id = some connection
        ∧ trace = retirement router.poller id connection reason unwatched
        ∧ after = { router with
          registry := (router.registry.remove id).2
          statistics.removed := router.statistics.removed + 1 } := by
  simp only [removeClient, Registry.remove_fst] at runs
  cases found : router.registry.get? id with
  | none =>
    rw [found] at runs
    exact Or.inl ⟨rfl, runs⟩
  | some connection =>
    rw [found] at runs
    rcases runs_retire.mp runs with ⟨unwatched, rfl, rfl⟩
    exact Or.inr ⟨connection, unwatched, rfl, rfl, rfl⟩

/-! ### Accepting clients -/

theorem runs_accept {listener : Listener} {outcome : Attempt (Option Connection)} :
    listener.accept.Runs trace outcome ↔
      (∃ descriptor, trace = [⟨.accept listener.descriptor, .ok descriptor⟩]
        ∧ outcome = .ok (some ⟨descriptor⟩))
      ∨ ∃ errno, trace = [⟨.accept listener.descriptor, .error errno⟩]
        ∧ outcome = if errno.isTransient then .ok none else .error errno := by
  constructor
  · rintro ⟨errno | descriptor, _, rfl, rfl, rfl⟩
    · exact Or.inr ⟨errno, rfl, rfl⟩
    · exact Or.inl ⟨descriptor, rfl, rfl⟩
  · rintro (⟨descriptor, rfl, rfl⟩ | ⟨errno, rfl, rfl⟩)
    · exact ⟨.ok descriptor, [], rfl, rfl, rfl⟩
    · exact ⟨.error errno, [], rfl, rfl, rfl⟩

/-- A connection that cannot be watched is closed; one that can is kept, unless its number is
taken. -/
theorem runs_welcome {connection : Connection}
    (runs : (router.welcome connection).Runs trace after) :
    (∃ errno, trace = [⟨.watch router.poller.descriptor connection.descriptor readable,
            .error errno⟩,
          ⟨.log (.clientUnwatched connection.descriptor errno), ()⟩,
          ⟨.close connection.descriptor, ()⟩]
        ∧ after = router)
      ∨ ∃ closing, trace = ⟨.watch router.poller.descriptor connection.descriptor readable,
            .ok ()⟩ :: (closing ++ [⟨.log (.clientAdded connection.descriptor), ()⟩])
        ∧ closing = (if router.registry.contains connection.descriptor then
          [⟨.close connection.descriptor, ()⟩] else [])
        ∧ after = { router with
          registry := (router.registry.add connection.descriptor connection).2
          statistics.accepted := router.statistics.accepted + 1 } := by
  rcases runs with ⟨errno | _, _, rfl, runs⟩
  · rcases runs with ⟨_, _, rfl, _, _, rfl, rfl, rfl⟩
    exact Or.inl ⟨errno, rfl, rfl⟩
  · right
    by_cases known : router.registry.contains connection.descriptor
    · simp only [Registry.add, known, if_true] at runs ⊢
      rcases runs with ⟨_, _, rfl, _, _, rfl, rfl, rfl⟩
      exact ⟨_, rfl, rfl, rfl⟩
    · simp only [Registry.add, known] at runs ⊢
      rcases runs with ⟨_, _, rfl, rfl, rfl⟩
      exact ⟨_, rfl, rfl, rfl⟩

def reportsAt (router : Router) (now : Nat) : Bool :=
  router.lastAcceptNotice.all fun last => acceptNoticeInterval ≤ now - last

def acceptReport (router : Router) (errno : Errno) (now : Nat) : Trace :=
  if router.reportsAt now then
    [⟨.log (.acceptFailed router.listener.name errno (router.statistics.acceptErrors + 1)), ()⟩]
  else []

def withAcceptError (router : Router) (now : Nat) : Router :=
  { router with
    statistics.acceptErrors := router.statistics.acceptErrors + 1
    lastAcceptNotice := if router.reportsAt now then some now else router.lastAcceptNotice }

theorem runs_pauseAccept {errno : Errno} (runs : (router.pauseAccept errno).Runs trace after) :
    ∃ now : Nat,
      (router.pausedUntil.isSome ∧ trace = ⟨.currentTime, now⟩ :: router.acceptReport errno now
        ∧ after = router.withAcceptError now)
      ∨ (router.pausedUntil = none ∧ ∃ unwatched,
        trace = ⟨.currentTime, now⟩ :: (router.acceptReport errno now
          ++ [⟨.unwatch router.poller.descriptor router.listener.descriptor, unwatched⟩])
        ∧ after = { router.withAcceptError now with
          pausedUntil := unwatched.toOption.map fun _ => now + acceptPause }) := by
  dsimp only [pauseAccept] at runs
  rw [runs_call_bind] at runs
  rcases runs with ⟨now, rest, rfl, runs⟩
  refine ⟨now, ?_⟩
  unfold acceptReport withAcceptError reportsAt
  split at runs
  case' isTrue due =>
    rw [if_pos due, if_pos due]
    rw [runs_call_bind] at runs
    rcases runs with ⟨_, rest, rfl, runs⟩
  case' isFalse undue => rw [if_neg undue, if_neg undue]
  all_goals
    rw [runs_bind] at runs
    rcases runs with ⟨_, _, _, rfl, ⟨rfl, rfl⟩, runs⟩
    split at runs
    next paused =>
      rcases runs with ⟨rfl, rfl⟩
      exact Or.inl ⟨paused, rfl, rfl⟩
    next unpaused =>
      have listening : router.pausedUntil = none := by simpa using unpaused
      rcases runs with ⟨_ | _, rest, rfl, rfl, rfl⟩
      all_goals
        refine Or.inr ⟨listening, _, rfl, ?_⟩
        simp [Except.toOption, listening]

/-- One round of accepting: the router goes on as long as somebody waits. -/
def acceptOnce (router : Router) : Program (Router ⊕ Router) := do
  match ← router.listener.accept with
  | .ok none => return .inr router
  | .ok (some connection) => return .inl (← router.welcome connection)
  | .error errno => return .inr (← router.pauseAccept errno)

theorem runs_acceptOnce {outcome : Router ⊕ Router} (runs : router.acceptOnce.Runs trace outcome) :
    (∃ errno, errno.isTransient = true
        ∧ trace = [⟨.accept router.listener.descriptor, .error errno⟩] ∧ outcome = .inr router)
      ∨ (∃ errno rest last, errno.isTransient = false
        ∧ trace = ⟨.accept router.listener.descriptor, .error errno⟩ :: rest
        ∧ (router.pauseAccept errno).Runs rest last ∧ outcome = .inr last)
      ∨ ∃ number rest next, trace = ⟨.accept router.listener.descriptor, .ok number⟩ :: rest
        ∧ (router.welcome ⟨number⟩).Runs rest next ∧ outcome = .inl next := by
  rcases runs_bind.mp runs with ⟨_, _, _, rfl, accepts, runs⟩
  rcases runs_accept.mp accepts with ⟨number, rfl, rfl⟩ | ⟨errno, rfl, rfl⟩
  · rcases runs_bind.mp runs with ⟨rest, _, next, rfl, welcomes, rfl, rfl⟩
    rw [List.append_nil]
    exact Or.inr (Or.inr ⟨number, rest, next, rfl, welcomes, rfl⟩)
  · split at runs
    next nobody =>
      split at nobody
      next transient =>
        rcases runs with ⟨rfl, rfl⟩
        exact Or.inl ⟨errno, transient, rfl, rfl⟩
      next => cases nobody
    next somebody => split at somebody <;> cases somebody
    next lasting =>
      split at lasting
      next => cases lasting
      next failed =>
        cases lasting
        rcases runs_bind.mp runs with ⟨rest, _, last, rfl, pauses, rfl, rfl⟩
        rw [List.append_nil]
        exact Or.inr (Or.inl ⟨errno, rest, last, Bool.eq_false_iff.mpr failed, rfl, pauses, rfl⟩)

theorem runs_acceptClients (runs : router.acceptClients.Runs trace after) :
    Rounds (fun state trace outcome => state.acceptOnce.Runs trace outcome) router trace after :=
  runs_repeatUntil.mp runs

/-- The listener goes back into the poller when its pause is over, and not before. -/
theorem runs_resumeAccept {outcome : Except Failure Router}
    (runs : router.resumeAccept.Runs trace outcome) :
    (router.pausedUntil = none ∧ trace = [] ∧ outcome = .ok router)
      ∨ ∃ (deadline now : Nat), router.pausedUntil = some deadline
        ∧ ((now < deadline ∧ trace = [⟨.currentTime, now⟩] ∧ outcome = .ok router)
          ∨ (deadline ≤ now ∧ ∃ watched,
            trace = [⟨.currentTime, now⟩,
              ⟨.watch router.poller.descriptor router.listener.descriptor readable, watched⟩]
            ∧ outcome = match watched with
              | .ok _ => .ok { router with pausedUntil := none }
              | .error errno => .error ((Failure.system errno).during .watchingListener))) := by
  unfold resumeAccept at runs
  split at runs
  next unpaused => exact Or.inl ⟨unpaused, runs⟩
  next deadline paused =>
    rw [runs_call_bind] at runs
    rcases runs with ⟨now, rest, rfl, runs⟩
    refine Or.inr ⟨deadline, now, paused, ?_⟩
    split at runs
    next early =>
      rcases runs with ⟨rfl, rfl⟩
      exact Or.inl ⟨early, rfl, rfl⟩
    next elapsed =>
      rcases runs with ⟨errno | _, rest, rfl, rfl, rfl⟩
      all_goals exact Or.inr ⟨Nat.le_of_not_lt elapsed, _, rfl, rfl⟩

theorem runs_boundedTimeout {timeout bounded : Int}
    (runs : (router.boundedTimeout timeout).Runs trace bounded) :
    (router.pausedUntil = none ∧ trace = [] ∧ bounded = timeout)
      ∨ ∃ (deadline now : Nat), router.pausedUntil = some deadline
        ∧ trace = [⟨.currentTime, now⟩]
        ∧ bounded = if timeout < 0 then ((deadline - now : Nat) : Int) / 1000 + 1
          else min timeout (((deadline - now : Nat) : Int) / 1000 + 1) := by
  unfold boundedTimeout at runs
  split at runs
  next unpaused => exact Or.inl ⟨unpaused, runs⟩
  next deadline paused =>
    rcases runs with ⟨now, rest, rfl, rfl, rfl⟩
    exact Or.inr ⟨deadline, now, paused, rfl, rfl⟩

/-! ### Forwarding frames -/

def mailing (message : Bytes) (sends : List ((ClientId × Connection) × Attempt Nat)) : Trace :=
  sends.map fun entry => ⟨.send entry.1.2.descriptor message, entry.2⟩

/-- The clients that did not take the whole message. -/
def failures (message : Bytes) (sends : List ((ClientId × Connection) × Attempt Nat)) :
    List ClientId :=
  (sends.filter fun entry => !tookAll message entry.2).map (·.1.1)

theorem runs_deliverAll {message : Bytes} {connections : List (ClientId × Connection)}
    {outcomes : List (ClientId × Bool)}
    (runs : (deliverAll Connection.send message connections).Runs trace outcomes) :
    ∃ sends, sends.map (·.1) = connections ∧ trace = mailing message sends
      ∧ outcomes = sends.map fun entry => (entry.1.1, tookAll message entry.2) := by
  induction connections generalizing trace outcomes with
  | nil =>
    rcases runs with ⟨rfl, rfl⟩
    exact ⟨[], rfl, rfl, rfl⟩
  | cons entry rest ih =>
    rcases runs_call_bind.mp runs with ⟨outcome, later, rfl, others⟩
    rcases runs_bind.mp others with ⟨early, _, marks, rfl, delivers, rfl, rfl⟩
    rcases ih delivers with ⟨sends, rfl, rfl, rfl⟩
    exact ⟨(entry, outcome) :: sends, rfl, by simp [mailing], rfl⟩

/-- Either nothing is sent, or everybody subscribed is sent the delivery and those who did not take
it leave the registry. -/
theorem runs_route {notification : Notification} {registry left : Registry Connection}
    {report : RouteReport Connection}
    (runs : (route Connection.send notification registry).Runs trace (report, left)) :
    (trace = [] ∧ report.dropped = [] ∧ left = registry
        ∧ (registry.subscribers notification.transmitter = []
          ∨ ∃ error, Delivery.encode ⟨notification.transmitter, notification.frame⟩ = .error error)
        ∧ report.delivered = 0)
      ∨ ∃ message sends,
        Delivery.encode ⟨notification.transmitter, notification.frame⟩ = .ok message
        ∧ sends.map (·.1)
          = registry.connectionsOf (registry.subscribers notification.transmitter)
        ∧ trace = mailing message sends
        ∧ report.delivered = sends.countP (fun entry => tookAll message entry.2)
        ∧ report.dropped = (registry.removeAll (failures message sends)).1
        ∧ left = (registry.removeAll (failures message sends)).2 := by
  dsimp only [route] at runs
  split at runs
  next nobody =>
    rcases runs with ⟨rfl, same⟩
    cases same
    exact Or.inl ⟨rfl, rfl, rfl, Or.inl (List.isEmpty_iff.mp nobody), rfl⟩
  next =>
    split at runs
    next error refused =>
      rcases runs with ⟨rfl, same⟩
      cases same
      exact Or.inl ⟨rfl, rfl, rfl, Or.inr ⟨error, refused⟩, rfl⟩
    next message encoded =>
      rcases runs_bind.mp runs with ⟨early, _, outcomes, rfl, delivers, rfl, same⟩
      rcases runs_deliverAll delivers with ⟨sends, targets, rfl, rfl⟩
      have failed : ((sends.map fun entry => (entry.1.1, tookAll message entry.2)).filter
          (!·.2)).map (·.1) = failures message sends := by
        simp [failures, List.filter_map, Function.comp_def]
      rw [failed] at same
      cases same
      refine Or.inr ⟨message, sends, encoded, targets, List.append_nil _, ?_, rfl, rfl⟩
      simp [List.countP_map, Function.comp_def]

def withRouted (router : Router) (report : RouteReport Connection) (left : Registry Connection) :
    Router :=
  { router with
    registry := left
    statistics := { router.statistics with
      notifications := router.statistics.notifications + 1
      deliveries := router.statistics.deliveries + report.delivered
      failedDeliveries := router.statistics.failedDeliveries + report.dropped.length } }

theorem runs_forward {notification : Notification}
    (runs : (router.forward notification).Runs trace after) :
    ∃ sent closed report left, trace = sent ++ closed
      ∧ (route Connection.send notification router.registry).Runs sent (report, left)
      ∧ ((router.withRouted report left).retireAll .deliveryFailed report.dropped).Runs closed
        after := by
  rcases runs_bind.mp runs with ⟨sent, closed, ⟨report, left⟩, rfl, routes, retires⟩
  exact ⟨sent, closed, report, left, rfl, routes, retires⟩

def withDatagram (router : Router) (received : Received) : Router :=
  { router with kernelBuffer := router.kernelBuffer.store received.stored }

/-- The frame in a datagram that a router just received, if it is one to route. -/
def heard? (router : Router) (received : Received) : Option Notification :=
  ((router.kernelBuffer.store received.stored).slice? received.size).bind
    (Notification.decode? · router.family)

theorem runs_handleKernel (runs : router.handleKernel.Runs trace after) :
    (∃ errno rest,
        trace = ⟨.receive router.kernel router.kernelBuffer.capacity, .error errno⟩ :: rest
        ∧ (∀ exchange ∈ rest, ∃ notice, exchange = ⟨.log notice, ()⟩) ∧ after = router)
      ∨ ∃ received rest,
        trace = ⟨.receive router.kernel router.kernelBuffer.capacity, .ok received⟩ :: rest
        ∧ ((router.heard? received = none ∧ (∀ exchange ∈ rest, ∃ notice, exchange = ⟨.log notice, ()⟩)
            ∧ after = (router.withDatagram received).ignoreDatagram)
          ∨ ∃ notification, router.heard? received = some notification
            ∧ ((router.withDatagram received).forward notification).Runs rest after) := by
  unfold handleKernel at runs
  rw [runs_call_bind] at runs
  rcases runs with ⟨errno | received, rest, rfl, runs⟩
  · refine Or.inl ⟨errno, rest, rfl, ?_⟩
    dsimp only at runs
    split at runs
    next =>
      rcases runs with ⟨rfl, rfl⟩
      simp
    next =>
      rcases runs with ⟨_, _, rfl, rfl, rfl⟩
      simp
  · refine Or.inr ⟨received, rest, rfl, ?_⟩
    dsimp only at runs
    unfold heard?
    split at runs
    next oversized =>
      rcases runs with ⟨_, _, rfl, rfl, rfl⟩
      simp [oversized, withDatagram]
    next datagram whole =>
      rw [whole]
      split at runs
      next undecoded =>
        rcases runs with ⟨rfl, rfl⟩
        simp [undecoded, withDatagram]
      next notification decoded => exact Or.inr ⟨notification, decoded, runs⟩

theorem ofForwarding_forward {notification : Notification}
    (runs : (router.forward notification).Runs trace after) :
    ∀ exchange ∈ trace, exchange.call.OfForwarding := by
  rcases runs_forward runs with ⟨sent, closed, report, left, rfl, routes, retires⟩
  rcases runs_retireAll retires with ⟨retired, -, rfl, -⟩
  rw [List.forall_mem_append]
  constructor
  · rcases runs_route routes with ⟨rfl, -⟩ | ⟨message, sends, -, -, rfl, -⟩
    · simp
    · exact List.forall_mem_map.mpr fun _ _ => trivial
  · intro exchange exchangeMem
    rcases List.mem_flatMap.mp exchangeMem with ⟨entry, -, exchangeMem⟩
    simp only [retirement, List.mem_cons, List.not_mem_nil, or_false] at exchangeMem
    rcases exchangeMem with rfl | rfl | rfl
    all_goals trivial

theorem ofForwarding_handleKernel (runs : router.handleKernel.Runs trace after) :
    ∀ exchange ∈ trace, exchange.call.OfForwarding := by
  unfold handleKernel at runs
  rw [runs_call_bind] at runs
  rcases runs with ⟨errno | received, rest, rfl, runs⟩
  all_goals
    rw [List.forall_mem_cons]
    refine ⟨trivial, ?_⟩
    dsimp only at runs
    split at runs
  · rcases runs with ⟨rfl, -⟩
    simp
  · rcases runs with ⟨_, _, rfl, rfl, -⟩
    rw [List.forall_mem_singleton]
    dsimp only
    split <;> trivial
  · rcases runs with ⟨_, _, rfl, rfl, -⟩
    simp [Call.OfForwarding]
  · split at runs
    next =>
      rcases runs with ⟨rfl, -⟩
      simp
    next => exact ofForwarding_forward runs

/-! ### Answering clients -/

theorem runs_perform {request : Request} {result : Int32}
    (runs : (router.perform id request).Runs trace (result, after)) :
    trace = [⟨.log (request.notice id), ()⟩] ∧ result = request.verdict
      ∧ after = { router with registry := router.registry.grant id request } := by
  cases request
  all_goals
    rcases runs with ⟨_, _, rfl, rfl, same⟩
    cases same
    exact ⟨rfl, rfl, rfl⟩

/-- A client that takes its acknowledgement stays, one that does not is removed. -/
theorem runs_acknowledge {result : Int32} {request : Header} {connection : Connection}
    (connected : router.registry.get? id = some connection)
    (runs : (router.acknowledge id result request).Runs trace after) :
    ∃ outcome rest,
      trace = ⟨.send connection.descriptor (Acknowledgement.encode result request), outcome⟩ :: rest
      ∧ ((tookAll (Acknowledgement.encode result request) outcome = true ∧ rest = []
          ∧ after = router)
        ∨ (tookAll (Acknowledgement.encode result request) outcome = false
          ∧ ∃ reason, (router.removeClient id reason).Runs rest after)) := by
  simp only [acknowledge, connected] at runs
  rcases runs_call_bind.mp runs with ⟨errno | count, rest, rfl, ends⟩
  · exact ⟨_, rest, rfl, Or.inr ⟨rfl, _, ends⟩⟩
  · refine ⟨_, rest, rfl, ?_⟩
    dsimp only at ends
    split at ends
    next whole =>
      rcases ends with ⟨rfl, rfl⟩
      exact Or.inl ⟨decide_eq_true whole, rfl, rfl⟩
    next short => exact Or.inr ⟨decide_eq_false short, _, ends⟩

def withProtocolError (router : Router) : Router :=
  { router with statistics.protocolErrors := router.statistics.protocolErrors + 1 }

theorem runs_answer {bytes : Bytes} {connection : Connection}
    (connected : router.registry.get? id = some connection)
    (runs : (router.answer id bytes).Runs trace after) :
    (∃ error reason, ClientMessage.decode bytes = .error error
        ∧ (router.withProtocolError.removeClient id reason).Runs trace after)
      ∨ ∃ message outcome rest, ClientMessage.decode bytes = .ok message
        ∧ trace = ⟨.log (message.request.notice id), ()⟩
          :: ⟨.send connection.descriptor message.reply, outcome⟩ :: rest
        ∧ ((tookAll message.reply outcome = true ∧ rest = []
            ∧ after = { router with registry := router.registry.grant id message.request })
          ∨ (tookAll message.reply outcome = false
            ∧ ∃ reason, (removeClient
              { router with registry := router.registry.grant id message.request } id reason).Runs
                rest after)) := by
  unfold answer at runs
  split at runs
  next error undecoded => exact Or.inl ⟨error, _, undecoded, runs⟩
  next message decoded =>
    rcases runs_bind.mp runs with ⟨_, late, ⟨result, granted⟩, rfl, performs, acknowledges⟩
    rcases runs_perform performs with ⟨rfl, rfl, rfl⟩
    have stillConnected : (router.registry.grant id message.request).get? id = some connection := by
      cases message.request <;> simpa [Registry.grant] using connected
    rcases runs_acknowledge stillConnected acknowledges with ⟨outcome, rest, rfl, ends⟩
    exact Or.inr ⟨message, outcome, rest, decoded, rfl, ends⟩

def withMessage (router : Router) (received : Received) : Router :=
  { router with clientBuffer := router.clientBuffer.store received.stored }

/-- A client's turn begins with a receive, and the outcome of that receive says what follows. -/
theorem runs_handleClient {connection : Connection}
    (connected : router.registry.get? id = some connection)
    (runs : (router.handleClient id).Runs trace after) :
    (∃ errno rest,
        trace = ⟨.receive connection.descriptor router.clientBuffer.capacity, .error errno⟩ :: rest
        ∧ ((errno.isTransient = true ∧ rest = [] ∧ after = router)
          ∨ (errno.isTransient = false
            ∧ ∃ reason, (router.removeClient id reason).Runs rest after)))
      ∨ ∃ received rest,
        trace = ⟨.receive connection.descriptor router.clientBuffer.capacity, .ok received⟩ :: rest
        ∧ ((received.size = 0
            ∧ ∃ reason, ((router.withMessage received).removeClient id reason).Runs rest after)
          ∨ (received.size ≠ 0 ∧ router.clientBuffer.capacity < received.size
            ∧ ∃ reason, ((router.withMessage received).withProtocolError.removeClient id
              reason).Runs rest after)
          ∨ (received.size ≠ 0 ∧ ∃ bytes,
            (router.withMessage received).clientBuffer.slice? received.size = some bytes
            ∧ ((router.withMessage received).answer id bytes).Runs rest after)) := by
  simp only [handleClient, connected] at runs
  rcases runs_call_bind.mp runs with ⟨errno | received, rest, rfl, ends⟩
  · refine Or.inl ⟨errno, rest, rfl, ?_⟩
    dsimp only at ends
    split at ends
    next transient => exact Or.inl ⟨transient, ends⟩
    next lasting => exact Or.inr ⟨Bool.eq_false_iff.mpr lasting, _, ends⟩
  · refine Or.inr ⟨received, rest, rfl, ?_⟩
    dsimp only at ends
    split at ends
    next ended => exact Or.inl ⟨ended, _, ends⟩
    next more =>
      split at ends
      next oversized =>
        have beyond := Buffer.slice?_eq_none_iff.mp oversized
        exact Or.inr (Or.inl ⟨more, beyond, _, ends⟩)
      next bytes whole => exact Or.inr (Or.inr ⟨more, bytes, whole, ends⟩)

def serveOne (router : Router) (event : Readiness) : Program Router :=
  if router.registry.contains event.descriptor then
    if event.isReadable then router.handleClient event.descriptor
    else if event.isHangUp then router.removeClient event.descriptor .hangUp
    else pure router
  else pure router

theorem serveClients_cons (router : Router) (event : Readiness) (events : List Readiness) :
    router.serveClients (event :: events) = router.serveOne event >>= (·.serveClients events) := by
  unfold serveOne
  rw [serveClients]
  dsimp only
  split
  · split
    · rfl
    · split <;> rfl
  · rfl

/-- A connected client is read if it is readable, and removed if it is not but has hung up. -/
theorem runs_serveOne {event : Readiness} (runs : (router.serveOne event).Runs trace after) :
    (router.registry.contains event.descriptor ∧ event.isReadable
        ∧ (router.handleClient event.descriptor).Runs trace after)
      ∨ (router.registry.contains event.descriptor ∧ event.isReadable = false ∧ event.isHangUp
        ∧ (router.removeClient event.descriptor .hangUp).Runs trace after)
      ∨ ((router.registry.contains event.descriptor →
          event.isReadable = false ∧ event.isHangUp = false) ∧ trace = [] ∧ after = router) := by
  unfold serveOne at runs
  split at runs
  next connected =>
    split at runs
    next readable => exact Or.inl ⟨connected, readable, runs⟩
    next unready =>
      split at runs
      next hangsUp => exact Or.inr (Or.inl ⟨connected, Bool.eq_false_iff.mpr unready, hangsUp, runs⟩)
      next holds =>
        exact Or.inr (Or.inr ⟨fun _ => ⟨Bool.eq_false_iff.mpr unready, Bool.eq_false_iff.mpr holds⟩,
          runs⟩)
  next unconnected => exact Or.inr (Or.inr ⟨fun connected => absurd connected unconnected, runs⟩)

/-! ### Turns, and being put together -/

/-- A wait makes one call, unless there are too many events to ask for. -/
theorem runs_wait {poller : Poller} {timeout : Int}
    {result : Except Failure (List Readiness) × Poller}
    (runs : (poller.wait timeout).Runs trace result) :
    (Poller.maxCapacity < poller.capacity ∧ trace = []
        ∧ result = (.error (.of .tooManyEvents), poller))
      ∨ ∃ answer, trace = [⟨.wait poller.descriptor poller.capacity timeout, answer⟩]
        ∧ result = poller.waited answer := by
  unfold Poller.wait at runs
  split at runs
  next tooMany => exact Or.inl ⟨tooMany, runs⟩
  next =>
    right
    rcases runs_call_bind.mp runs with ⟨errno | reported, rest, rfl, ends⟩
    · refine ⟨.error errno, ?_⟩
      dsimp only [Poller.waited] at ends ⊢
      split at ends
      next interrupted =>
        rcases ends with ⟨rfl, rfl⟩
        simp [interrupted]
      next failed =>
        rcases ends with ⟨rfl, rfl⟩
        simp [failed]
    · rcases ends with ⟨rfl, rfl⟩
      exact ⟨.ok reported, rfl, rfl⟩

theorem wait_of_answer {poller : Poller} (room : poller.capacity ≤ Poller.maxCapacity)
    (timeout : Int) (answer : Attempt Reported) :
    (poller.wait timeout).Runs [⟨.wait poller.descriptor poller.capacity timeout, answer⟩]
      (poller.waited answer) := by
  unfold Poller.wait
  rw [if_neg (Nat.not_lt.mpr room)]
  refine runs_call_bind.mpr ⟨answer, [], rfl, ?_⟩
  rcases answer with errno | reported
  · dsimp only [Poller.waited]
    split <;> exact ⟨rfl, rfl⟩
  · exact ⟨rfl, rfl⟩

theorem events_store {poller : Poller} {events : List Readiness}
    (fits : events.length ≤ poller.capacity) :
    (poller.store events).events events.length = events := by
  simp [Poller.events, Poller.store, Nat.min_eq_left fits]

theorem waited_poller (poller : Poller) (answer : Attempt Reported) :
    (poller.waited answer).2.descriptor = poller.descriptor
      ∧ (poller.waited answer).2.capacity = poller.capacity := by
  cases answer <;> exact ⟨rfl, rfl⟩

/-- Nothing but the slots of the poller changes. -/
theorem kept_of_wait {timeout : Int} {events : Except Failure (List Readiness)}
    {poller : Poller} (runs : (router.poller.wait timeout).Runs trace (events, poller)) :
    (∀ exchange ∈ trace, ∃ answer,
        exchange = ⟨.wait router.poller.descriptor router.poller.capacity timeout, answer⟩)
      ∧ poller.descriptor = router.poller.descriptor
      ∧ poller.capacity = router.poller.capacity := by
  rcases runs_wait runs with ⟨-, rfl, same⟩ | ⟨answer, rfl, same⟩
  · cases same
    simp
  · have kept := waited_poller router.poller answer
    rw [← same] at kept
    simpa using kept

theorem runs_drainOnce {wake : WakeEvent} {outcome : Unit ⊕ Attempt Unit}
    (runs : (wake.drainOnce ()).Runs trace outcome) :
    ∃ answer : Attempt Nat, trace = [⟨.readEvent wake.descriptor, answer⟩]
      ∧ outcome = WakeEvent.counted answer := by
  rcases runs_call_bind.mp runs with ⟨errno | _ | count, rest, rfl, rfl, rfl⟩
  all_goals exact ⟨_, rfl, rfl⟩

theorem runs_drain {wake : WakeEvent} {outcome : Attempt Unit}
    (runs : wake.drain.Runs trace outcome) :
    Rounds (fun state trace outcome => (wake.drainOnce state).Runs trace outcome) () trace outcome :=
  runs_repeatUntil.mp runs

theorem reads_of_drain {wake : WakeEvent} {outcome : Attempt Unit}
    (runs : wake.drain.Runs trace outcome) :
    ∀ exchange ∈ trace, ∃ answer, exchange = ⟨.readEvent wake.descriptor, answer⟩ := by
  refine Rounds.forall_mem (runs_drain runs) ?_
  intro _ trace next round
  rcases runs_drainOnce round with ⟨answer, rfl, -⟩
  simp

theorem runs_optional {α : Type} {result : α} {due : Bool} {part : Program Router}
    {rest : Router → Program α} :
    (if due then part >>= rest else pure router >>= rest).Runs trace result ↔
      ∃ early late middle, trace = early ++ late
        ∧ (if due then part.Runs early middle else early = [] ∧ middle = router)
        ∧ (rest middle).Runs late result := by
  cases due with
  | true => exact runs_bind
  | false =>
    constructor
    · exact fun runs => ⟨[], trace, router, rfl, ⟨rfl, rfl⟩, runs⟩
    · rintro ⟨_, _, _, rfl, ⟨rfl, rfl⟩, runs⟩
      exact runs

/-- Whoever waits is accepted, a datagram is forwarded, and ready clients are served. -/
def Acts (router : Router) (batch : Batch) (trace : Trace) (after : Router) : Prop :=
  ∃ coming hearing serving entered heard, trace = coming ++ (hearing ++ serving)
    ∧ (if batch.listener then router.acceptClients.Runs coming entered
        else coming = [] ∧ entered = router)
    ∧ (if batch.kernel then entered.handleKernel.Runs hearing heard
        else hearing = [] ∧ heard = entered)
    ∧ (heard.serveClients batch.clients).Runs serving after

/-- A woken router takes the signals back and does nothing else. -/
theorem runs_dispatch {batch : Batch} {outcome : Except Failure Bool}
    (runs : (router.dispatch batch).Runs trace (outcome, after)) :
    (batch.wake = true ∧ after = router ∧ ∃ drained draining,
        router.wake.drain.Runs draining drained
          ∧ ((∃ errno, drained = .error errno ∧ trace = draining
              ∧ outcome = .error (.system errno))
            ∨ (drained = .ok () ∧ trace = draining ++ [⟨.log .shutdownRequested, ()⟩]
              ∧ outcome = .ok false)))
      ∨ (batch.wake = false ∧ outcome = .ok true ∧ router.Acts batch trace after) := by
  simp only [dispatch] at runs
  split at runs
  next woken =>
    left
    rcases runs_bind.mp runs with ⟨draining, _, drained, rfl, drains, runs⟩
    rcases drained with errno | _
    · rcases runs with ⟨rfl, same⟩
      cases same
      exact ⟨woken, rfl, _, draining, drains, Or.inl ⟨errno, rfl, List.append_nil _, rfl⟩⟩
    · rcases runs with ⟨_, _, rfl, rfl, same⟩
      cases same
      exact ⟨woken, rfl, _, draining, drains, Or.inr ⟨rfl, rfl, rfl⟩⟩
  next awake =>
    right
    rcases runs_optional.mp runs with ⟨coming, _, entered, rfl, comes, runs⟩
    rcases runs_optional.mp runs with ⟨hearing, _, heard, rfl, hears, runs⟩
    rcases runs_bind.mp runs with ⟨serving, _, served, rfl, serves, rfl, same⟩
    cases same
    rw [List.append_nil]
    exact ⟨Bool.eq_false_iff.mpr awake, rfl, coming, hearing, serving, entered, heard, rfl, comes,
      hears, serves⟩

theorem dispatch_of_acts {batch : Batch} (awake : batch.wake = false)
    (acts : router.Acts batch trace after) :
    (router.dispatch batch).Runs trace (.ok true, after) := by
  rcases acts with ⟨coming, hearing, serving, entered, heard, rfl, comes, hears, serves⟩
  simp only [dispatch]
  rw [if_neg (Bool.eq_false_iff.mp awake)]
  refine runs_optional.mpr ⟨coming, _, entered, rfl, comes, ?_⟩
  refine runs_optional.mpr ⟨hearing, _, heard, rfl, hears, ?_⟩
  exact runs_bind.mpr ⟨serving, [], after, (List.append_nil _).symm, serves, rfl, rfl⟩

/-- A turn fails before it waits, or as it waits, or it acts on what it found ready. -/
theorem runs_pollOnce {timeout : Int} {outcome : Except Failure Bool}
    (runs : (router.pollOnce timeout).Runs trace (outcome, after)) :
    (∃ failure, router.resumeAccept.Runs trace (.error failure) ∧ outcome = .error failure
        ∧ after = router)
      ∨ ∃ resuming bounding waiting rest resumed bounded events poller,
        trace = resuming ++ (bounding ++ (waiting ++ rest))
          ∧ router.resumeAccept.Runs resuming (.ok resumed)
          ∧ (resumed.boundedTimeout timeout).Runs bounding bounded
          ∧ (resumed.poller.wait bounded).Runs waiting (events, poller)
          ∧ match events with
            | .error failure => rest = [] ∧ outcome = .error failure
              ∧ after = { resumed with poller := poller }
            | .ok events => (dispatch { resumed with poller := poller }
              (resumed.classify events)).Runs rest (outcome, after) := by
  rcases runs_bind.mp runs with ⟨resuming, _, resumed, rfl, resumes, runs⟩
  rcases resumed with failure | resumed
  · rcases runs with ⟨rfl, same⟩
    cases same
    rw [List.append_nil]
    exact Or.inl ⟨failure, resumes, rfl, rfl⟩
  · rcases runs_bind.mp runs with ⟨bounding, _, bounded, rfl, bounds, runs⟩
    rcases runs_bind.mp runs with ⟨waiting, rest, ⟨events, poller⟩, rfl, waits, runs⟩
    refine Or.inr ⟨resuming, bounding, waiting, rest, resumed, bounded, events, poller, rfl,
      resumes, bounds, waits, ?_⟩
    rcases events with failure | events
    · rcases runs with ⟨rfl, same⟩
      cases same
      exact ⟨rfl, rfl, rfl⟩
    · exact runs

theorem pollOnce_of_wait {timeout bounded : Int} {outcome : Except Failure Bool}
    {resuming bounding waiting rest : Trace} {resumed : Router} {events : List Readiness}
    {poller : Poller} (resumes : router.resumeAccept.Runs resuming (.ok resumed))
    (bounds : (resumed.boundedTimeout timeout).Runs bounding bounded)
    (waits : (resumed.poller.wait bounded).Runs waiting (.ok events, poller))
    (ends : (dispatch { resumed with poller := poller }
      (resumed.classify events)).Runs rest (outcome, after)) :
    (router.pollOnce timeout).Runs (resuming ++ (bounding ++ (waiting ++ rest)))
      (outcome, after) := by
  refine runs_bind.mpr ⟨resuming, _, .ok resumed, rfl, resumes, ?_⟩
  refine runs_bind.mpr ⟨bounding, _, bounded, rfl, bounds, ?_⟩
  exact runs_bind.mpr ⟨waiting, rest, (.ok events, poller), rfl, waits, ends⟩

theorem pollOnce_of_failure {timeout : Int} {failure : Failure}
    (resumes : router.resumeAccept.Runs trace (.error failure)) :
    (router.pollOnce timeout).Runs trace (.error failure, router) :=
  runs_bind.mpr ⟨trace, [], .error failure, (List.append_nil _).symm, resumes, rfl, rfl⟩

/-- The router that is put together from its sockets. -/
def assembled (listener : Listener) (kernel : Descriptor) (options : RouterOptions)
    (poller wake : Descriptor) : Router where
  poller := ⟨poller, maxEvents, []⟩
  listener := listener
  kernel := kernel
  wake := ⟨wake⟩
  family := options.family
  registry := ∅
  kernelBuffer := Buffer.zeroed options.kernelBuffer
  clientBuffer := Buffer.zeroed options.maxClientMessage
  statistics := {}
  pausedUntil := none
  lastAcceptNotice := none

/-- The calls by which a router is put together. -/
def assembly (listener kernel poller wake : Descriptor) : Trace :=
  [⟨.openPoller, .ok poller⟩, ⟨.openEvent, .ok wake⟩, ⟨.watch poller listener readable, .ok ()⟩,
    ⟨.watch poller kernel readable, .ok ()⟩, ⟨.watch poller wake readable, .ok ()⟩]

theorem runs_create {listener : Listener} {kernel : Descriptor} {options : RouterOptions}
    (runs : (create listener kernel options).run.Runs trace (.ok router)) :
    ∃ poller wake, trace = assembly listener.descriptor kernel poller wake
      ∧ router = assembled listener kernel options poller wake := by
  rcases runs with ⟨_ | poller, _, rfl, runs⟩
  · cases runs.2
  rcases runs with ⟨_ | wake, _, rfl, runs⟩
  · rcases runs with ⟨_, _, rfl, _, same⟩
    cases same
  rcases runs with ⟨_ | _, _, rfl, runs⟩
  · rcases runs with ⟨_, _, rfl, _, _, rfl, _, same⟩
    cases same
  rcases runs with ⟨_ | _, _, rfl, runs⟩
  · rcases runs with ⟨_, _, rfl, _, _, rfl, _, same⟩
    cases same
  rcases runs with ⟨_ | _, _, rfl, runs⟩
  · rcases runs with ⟨_, _, rfl, _, _, rfl, _, same⟩
    cases same
  rcases runs with ⟨rfl, same⟩
  cases same
  exact ⟨poller, wake, rfl, rfl⟩

theorem runs_create_assembled {listener : Listener} {kernel poller wake : Descriptor}
    {options : RouterOptions} :
    (create listener kernel options).run.Runs (assembly listener.descriptor kernel poller wake)
      (.ok (assembled listener kernel options poller wake)) :=
  ⟨.ok poller, _, rfl, .ok wake, _, rfl, .ok (), _, rfl, .ok (), _, rfl, .ok (), _, rfl, rfl, rfl⟩

/-- A router without clients, to try things out with. -/
def vacant : Router := assembled ⟨⟨3⟩, "radio"⟩ ⟨4⟩ ⟨28, 4096, 4096⟩ ⟨5⟩ ⟨6⟩

theorem creates_vacant :
    (create ⟨⟨3⟩, "radio"⟩ ⟨4⟩ ⟨28, 4096, 4096⟩).run.Runs (assembly ⟨3⟩ ⟨4⟩ ⟨5⟩ ⟨6⟩)
      (.ok vacant) :=
  runs_create_assembled

end Router

end RadioRelay
