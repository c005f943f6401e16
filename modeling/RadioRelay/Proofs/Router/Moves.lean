import RadioRelay.Proofs.Router.Steps

/-!
# The moves of a router

Seen from outside, a router pauses and resumes its listener, takes clients in or
turns them away, forwards frames, answers messages and gives clients up. Each
of these is a `Move`: some calls, and a change of what the router knows of its
clients. All turns of the loop are courses of moves, so what every move
preserves holds throughout every run.
-/

namespace RadioRelay

namespace Exchange

/-- The bytes of a message that was received from a socket and was not longer than a limit. -/
def whole? (socket : Descriptor) (limit : Nat) : Exchange → Option Bytes
  | ⟨.receive source _, .ok received⟩ =>
    if source = socket ∧ received.size ≤ limit then some received.stored else none
  | _ => none

/-- The message of a client that was received, if it is one. -/
def message? (client : ClientId) (limit : Nat) (exchange : Exchange) : Option ClientMessage :=
  (exchange.whole? client limit).bind fun bytes => (ClientMessage.decode bytes).toOption

/-- The frame to route that was received from the kernel, if it is one. -/
def frame? (kernel : Descriptor) (limit : Nat) (family : UInt16) (exchange : Exchange) :
    Option Notification :=
  (exchange.whole? kernel limit).bind (Notification.decode? · family)

/-- The message that was sent: to whom, which one, and what became of it. -/
def sent? : Exchange → Option (Descriptor × Bytes × Attempt Nat)
  | ⟨.send socket message, outcome⟩ => some (socket, message, outcome)
  | _ => none

def opens : Exchange → List Descriptor
  | ⟨.openSocket _ _, .ok number⟩ | ⟨.openPoller, .ok number⟩ | ⟨.openEvent, .ok number⟩
  | ⟨.accept _, .ok number⟩ => [number]
  | ⟨.openPair, .ok (first, second)⟩ => [first, second]
  | _ => []

/-- A receive stores as many bytes of a message as fit. -/
def Faithful : Exchange → Prop
  | ⟨.receive _ capacity, .ok received⟩ => received.stored.length = min received.size capacity
  | _ => True

/-- Whether a receive stored as many bytes of a message as fit. -/
def isFaithful : Exchange → Bool
  | ⟨.receive _ capacity, .ok received⟩ => received.stored.length = min received.size capacity
  | _ => true

theorem isFaithful_iff {exchange : Exchange} : exchange.isFaithful = true ↔ exchange.Faithful := by
  unfold isFaithful Faithful
  split <;> simp

instance decidableFaithful : DecidablePred Faithful := fun _ => decidable_of_iff _ isFaithful_iff

end Exchange

/-- What stays the same for as long as a router lives. -/
structure Fixtures where
  poller : Descriptor
  listener : Descriptor
  kernel : Descriptor
  wake : Descriptor
  family : UInt16
  kernelCapacity : Nat
  clientCapacity : Nat

/-- What a router knows of its clients, and how many it took in and gave up. -/
structure Standing where
  registry : Registry Connection
  paused : Bool
  accepted : Nat
  removed : Nat

namespace Router

def fixtures (router : Router) : Fixtures where
  poller := router.poller.descriptor
  listener := router.listener.descriptor
  kernel := router.kernel
  wake := router.wake.descriptor
  family := router.family
  kernelCapacity := router.kernelBuffer.capacity
  clientCapacity := router.clientBuffer.capacity

def standing (router : Router) : Standing where
  registry := router.registry
  paused := router.pausedUntil.isSome
  accepted := router.statistics.accepted
  removed := router.statistics.removed

end Router

/-- Nothing comes of the call: it failed, concerns nobody, or brought neither a message to answer
nor a frame to route. -/
def Exchange.Quiet (fixed : Fixtures) (exchange : Exchange) : Prop :=
  match exchange with
  | ⟨.currentTime, _⟩ | ⟨.wait _ _ _, _⟩ | ⟨.readEvent _, _⟩ | ⟨.log _, _⟩
  | ⟨.accept _, .error _⟩ | ⟨.watch _ _ _, .error _⟩ | ⟨.unwatch _ _, .error _⟩
  | ⟨.receive _ _, .error _⟩ => True
  | ⟨.receive source _, .ok _⟩ => exchange.Faithful →
    if source = fixed.kernel then exchange.frame? source fixed.kernelCapacity fixed.family = none
    else exchange.message? source fixed.clientCapacity = none
  | _ => False

/-- The calls by which an accepted client that cannot be watched is turned away. -/
def refusal (fixed : Fixtures) (client : ClientId) (errno : Errno) : Trace :=
  [⟨.watch fixed.poller client readable, .error errno⟩,
    ⟨.log (.clientUnwatched client errno), ()⟩, ⟨.close client, ()⟩]

/-- The calls by which an accepted client is taken in. One that is known already would lose its
connection. -/
def admission (fixed : Fixtures) (client : ClientId) (known : Bool) : Trace :=
  ⟨.watch fixed.poller client readable, .ok ()⟩
    :: ((if known then [⟨.close client, ()⟩] else []) ++ [⟨.log (.clientAdded client), ()⟩])

/-- The calls by which a client is given up. -/
def farewell (fixed : Fixtures) (reason : RemovalReason) (leaving : ClientId × Attempt Unit) :
    Trace :=
  [⟨.unwatch fixed.poller leaving.1, leaving.2⟩, ⟨.close leaving.1, ()⟩,
    ⟨.log (.clientRemoved leaving.1 reason), ()⟩]

/-- A message sent to a client, with what became of it. -/
def posted (message : Bytes) (sending : ClientId × Attempt Nat) : Exchange :=
  ⟨.send sending.1 message, sending.2⟩

theorem forall_mem_farewell {fixed : Fixtures} {reason : RemovalReason}
    {leaving : ClientId × Attempt Unit} {P : Exchange → Prop} :
    (∀ exchange ∈ farewell fixed reason leaving, P exchange) ↔
      P ⟨.unwatch fixed.poller leaving.1, leaving.2⟩ ∧ P ⟨.close leaving.1, ()⟩
        ∧ P ⟨.log (.clientRemoved leaving.1 reason), ()⟩ := by
  simp only [farewell, List.forall_mem_cons, List.not_mem_nil, false_implies, implies_true, and_true]

theorem forall_mem_forwarding {fixed : Fixtures} {reason : RemovalReason} {message : Bytes}
    {sendings : List (ClientId × Attempt Nat)} {leaving : List (ClientId × Attempt Unit)}
    {P : Exchange → Prop} :
    (∀ exchange ∈ sendings.map (posted message) ++ leaving.flatMap (farewell fixed reason),
        P exchange) ↔
      (∀ sending ∈ sendings, P (posted message sending))
        ∧ ∀ entry ∈ leaving, ∀ exchange ∈ farewell fixed reason entry, P exchange := by
  simp only [List.forall_mem_append, List.forall_mem_map, List.forall_mem_flatMap]

/-- The clients that did not take the whole message. -/
def failing (message : Bytes) (sendings : List (ClientId × Attempt Nat)) : List ClientId :=
  (sendings.filter fun sending => !tookAll message sending.2).map (·.1)

/-- What a router does, its calls in order, and what it knows before and afterwards. -/
inductive Move (fixed : Fixtures) : Standing → Trace → Standing → Prop
  | aside {standing : Standing} {trace : Trace}
    (quiet : ∀ exchange ∈ trace, exchange.Quiet fixed) :
    Move fixed standing trace standing
  | pauses {standing : Standing} (listening : standing.paused = false) :
    Move fixed standing [⟨.unwatch fixed.poller fixed.listener, .ok ()⟩]
      { standing with paused := true }
  | resumes {standing : Standing} (paused : standing.paused = true) :
    Move fixed standing [⟨.watch fixed.poller fixed.listener readable, .ok ()⟩]
      { standing with paused := false }
  | turnsAway {standing : Standing} (client : ClientId) (errno : Errno) :
    Move fixed standing
      (⟨.accept fixed.listener, .ok client⟩ :: refusal fixed client errno) standing
  | admits {standing : Standing} (client : ClientId) :
    Move fixed standing
      (⟨.accept fixed.listener, .ok client⟩
        :: admission fixed client (standing.registry.contains client))
      { standing with
        registry := (standing.registry.add client ⟨client⟩).2
        accepted := standing.accepted + 1 }
  | retires {standing : Standing} (client : ClientId) {reason : RemovalReason}
    {unwatched : Attempt Unit} (connected : client ∈ standing.registry.ids) :
    Move fixed standing (farewell fixed reason (client, unwatched))
      { standing with
        registry := (standing.registry.remove client).2
        removed := standing.removed + 1 }
  | answers {standing : Standing} (client : ClientId) {received : Received}
    (message : ClientMessage) {outcome : Attempt Nat}
    (connected : client ∈ standing.registry.ids) (other : client ≠ fixed.kernel)
    (understood : Exchange.Faithful ⟨.receive client fixed.clientCapacity, .ok received⟩ →
      Exchange.message? client fixed.clientCapacity
        ⟨.receive client fixed.clientCapacity, .ok received⟩ = some message)
    (taken : tookAll message.reply outcome = true) :
    Move fixed standing
      [⟨.receive client fixed.clientCapacity, .ok received⟩,
        ⟨.log (message.request.notice client), ()⟩, posted message.reply (client, outcome)]
      { standing with registry := standing.registry.grant client message.request }
  | failsToAnswer {standing : Standing} (client : ClientId) {received : Received}
    (message : ClientMessage) (reason : RemovalReason) {outcome : Attempt Nat}
    {unwatched : Attempt Unit}
    (connected : client ∈ standing.registry.ids) (other : client ≠ fixed.kernel)
    (understood : Exchange.Faithful ⟨.receive client fixed.clientCapacity, .ok received⟩ →
      Exchange.message? client fixed.clientCapacity
        ⟨.receive client fixed.clientCapacity, .ok received⟩ = some message)
    (refused : tookAll message.reply outcome = false) :
    Move fixed standing
      (⟨.receive client fixed.clientCapacity, .ok received⟩
        :: ⟨.log (message.request.notice client), ()⟩ :: posted message.reply (client, outcome)
        :: farewell fixed reason (client, unwatched))
      { standing with
        registry := ((standing.registry.grant client message.request).remove client).2
        removed := standing.removed + 1 }
  | withholds {standing : Standing} {received : Received} (notification : Notification)
    {error : ProtocolError}
    (heard : Exchange.Faithful ⟨.receive fixed.kernel fixed.kernelCapacity, .ok received⟩ →
      Exchange.frame? fixed.kernel fixed.kernelCapacity fixed.family
        ⟨.receive fixed.kernel fixed.kernelCapacity, .ok received⟩ = some notification)
    (tooLarge : Delivery.encode ⟨notification.transmitter, notification.frame⟩ = .error error) :
    Move fixed standing [⟨.receive fixed.kernel fixed.kernelCapacity, .ok received⟩] standing
  | forwards {standing : Standing} {received : Received} (notification : Notification)
    (message : Bytes) (sendings : List (ClientId × Attempt Nat))
    (leaving : List (ClientId × Attempt Unit))
    (heard : Exchange.Faithful ⟨.receive fixed.kernel fixed.kernelCapacity, .ok received⟩ →
      Exchange.frame? fixed.kernel fixed.kernelCapacity fixed.family
        ⟨.receive fixed.kernel fixed.kernelCapacity, .ok received⟩ = some notification)
    (encoded : Delivery.encode ⟨notification.transmitter, notification.frame⟩ = .ok message)
    (addressed : sendings.map (·.1) = standing.registry.subscribers notification.transmitter)
    (dropped : leaving.map (·.1) = failing message sendings) :
    Move fixed standing
      (⟨.receive fixed.kernel fixed.kernelCapacity, .ok received⟩
        :: (sendings.map (posted message) ++ leaving.flatMap (farewell fixed .deliveryFailed)))
      { standing with
        registry := (standing.registry.removeAll (failing message sendings)).2
        removed := standing.removed + leaving.length }

/-! ### The registry stays in order -/

namespace Registry

variable {Connection : Type} {registry : Registry Connection}

@[simp]
theorem get?_grant (id other : ClientId) (request : Request) :
    (registry.grant id request).get? other = registry.get? other := by
  cases request <;> simp [grant]

@[simp]
theorem ids_grant (id : ClientId) (request : Request) :
    (registry.grant id request).ids = registry.ids := by
  cases request <;> simp [grant]

theorem remove_grant (id : ClientId) (request : Request) :
    (registry.grant id request).remove id = registry.remove id := by
  cases request with
  | register mac => exact remove_register mac id
  | missingMac => rfl
  | unrecognized => rfl

theorem Sound.grant (sound : registry.Sound) (id : ClientId) (request : Request) :
    (registry.grant id request).Sound := by
  cases request with
  | register mac => exact sound.register mac id
  | missingMac => exact sound
  | unrecognized _ => exact sound

end Registry

/-- The tables of the registry fit together, and every client has the connection it is known by. -/
structure Standing.Consistent (standing : Standing) : Prop where
  sound : standing.registry.Sound
  own : ∀ {client : ClientId} {connection : Connection},
    standing.registry.get? client = some connection → connection = ⟨client⟩

theorem failing_sublist (message : Bytes) (sendings : List (ClientId × Attempt Nat)) :
    (failing message sendings).Sublist (sendings.map (·.1)) :=
  List.filter_sublist.map _

theorem Standing.Consistent.get?_of_mem {standing : Standing} {client : ClientId}
    (consistent : standing.Consistent) (connected : client ∈ standing.registry.ids) :
    standing.registry.get? client = some ⟨client⟩ := by
  rcases Option.isSome_iff_exists.mp (Registry.mem_ids_iff.mp connected) with ⟨connection, found⟩
  rw [found, consistent.own found]

/-- Those who fail to take a frame are different clients that are connected. -/
theorem Standing.Consistent.failing_connected {standing : Standing}
    (consistent : standing.Consistent) (message : Bytes) {mac : MacAddress}
    {sendings : List (ClientId × Attempt Nat)}
    (addressed : sendings.map (·.1) = standing.registry.subscribers mac) :
    (failing message sendings).Nodup
      ∧ ∀ client ∈ failing message sendings, client ∈ standing.registry.ids := by
  have sublist := failing_sublist message sendings
  rw [addressed] at sublist
  constructor
  · exact (consistent.sound.nodup_subscribers mac).sublist sublist
  · intro client failed
    exact consistent.sound.mem_ids_of_mem_subscribers (sublist.subset failed)

theorem Standing.Consistent.descriptor_eq {standing : Standing} (consistent : standing.Consistent)
    {ids : List ClientId} {entry : ClientId × Connection}
    (entryMem : entry ∈ standing.registry.connectionsOf ids) :
    entry.2.descriptor = entry.1 := by
  rcases entry with ⟨client, connection⟩
  rcases consistent.own (Registry.mem_connectionsOf.mp entryMem).2 with rfl
  rfl

namespace Move

variable {fixed : Fixtures} {standing after : Standing} {trace : Trace}

theorem consistent (move : Move fixed standing trace after) (before : standing.Consistent) :
    after.Consistent := by
  cases move with
  | aside | pauses | resumes | turnsAway | withholds => exact ⟨before.sound, before.own⟩
  | admits client =>
    refine ⟨before.sound.add client _, ?_⟩
    intro other connection found
    rw [Registry.get?_add] at found
    split at found
    next new =>
      cases found
      rw [new.1]
    next => exact before.own found
  | retires client =>
    refine ⟨before.sound.remove client, ?_⟩
    intro other connection found
    rw [Registry.get?_remove] at found
    split at found
    · cases found
    · exact before.own found
  | answers client message =>
    refine ⟨before.sound.grant client message.request, ?_⟩
    intro other connection found
    rw [Registry.get?_grant] at found
    exact before.own found
  | failsToAnswer client message _ =>
    refine ⟨(before.sound.grant client message.request).remove client, ?_⟩
    intro other connection found
    rw [Registry.get?_remove, Registry.get?_grant] at found
    split at found
    · cases found
    · exact before.own found
  | forwards =>
    refine ⟨before.sound.removeAll _, ?_⟩
    intro other connection found
    rw [Registry.get?_removeAll] at found
    split at found
    · cases found
    · exact before.own found

end Move

end RadioRelay
