import Mathlib.Data.Set.Insert
import RadioRelay.Proofs.Router.Forwarding

/-!
# What a client has to do with

A client is sent messages, it is subscribed to addresses, and at some point it
is removed. All of this follows from what was reported ready of the client
itself, what it was read, what came of the sends to it, and the frames of the
kernel. Whatever the other clients do, they are served with calls of their own.
-/

namespace RadioRelay

section Agreement

variable {α : Type} {first second : List α} {one another : α}

/-- Two lists agree as far as both of them go. -/
def Agree (first second : List α) : Prop := ∀ pair ∈ first.zip second, pair.1 = pair.2

instance decidableAgree [DecidableEq α] (first second : List α) : Decidable (Agree first second) :=
  inferInstanceAs (Decidable (∀ pair ∈ first.zip second, pair.1 = pair.2))

@[simp]
theorem agree_cons :
    Agree (one :: first) (another :: second) ↔ one = another ∧ Agree first second := by
  simp [Agree]

@[simp]
theorem agree_append {early : List α} :
    Agree (early ++ first) (early ++ second) ↔ Agree first second := by
  induction early with
  | nil => rfl
  | cons one early ih => simp [ih]

end Agreement

/-! ### A client that is served -/

/-- What a client is ready for. -/
inductive Sign
  | readable
  | hungUp
  | idle
  deriving DecidableEq, Repr

def Readiness.sign (readiness : Readiness) : Sign :=
  if readiness.isReadable then .readable else if readiness.isHangUp then .hungUp else .idle

/-- What the router makes of an answer to a receive. -/
inductive Finding
  | nothing
  /-- The client has left, or has to. -/
  | parting
  | message (message : ClientMessage)

def Finding.ofAnswer (capacity : Nat) : Attempt Received → Finding
  | .error errno => if errno.isTransient then .nothing else .parting
  | .ok received =>
    if received.size = 0 ∨ capacity < received.size then .parting
    else
      match ClientMessage.decode received.stored with
      | .ok request => .message request
      | .error _ => .parting

/-- The addresses of a client after a request of it was granted. -/
def Request.added (macs : Set MacAddress) : Request → Set MacAddress
  | .register mac => insert mac macs
  | .missingMac | .unrecognized _ => macs

/-- The addresses that a client is subscribed to, if it is connected. -/
def Registry.seat {Connection : Type} (registry : Registry Connection) (client : ClientId) :
    Option (Set MacAddress) :=
  if client ∈ registry.ids then some {mac | client ∈ registry.subscribers mac} else none

/-- What a router counts that is no client's doing. -/
structure Tally where
  acceptErrors : Nat
  notifications : Nat
  ignored : Nat
  deriving DecidableEq, Repr

def Statistics.tally (statistics : Statistics) : Tally where
  acceptErrors := statistics.acceptErrors
  notifications := statistics.notifications
  ignored := statistics.ignoredNotifications

/-- What a connected client is sent when it was read, and where that leaves it. -/
def Judged (capacity : Nat) (macs : Set MacAddress) (answer : Attempt Received)
    (sends : List (Bytes × Attempt Nat)) (after : Option (Set MacAddress)) : Prop :=
  match Finding.ofAnswer capacity answer with
  | .nothing => sends = [] ∧ after = some macs
  | .parting => sends = [] ∧ after = none
  | .message message => ∃ outcome, sends = [(message.reply, outcome)]
      ∧ after = if tookAll message.reply outcome then some (message.request.added macs) else none

/-- What a client is read and sent as it is served, and where that leaves it. -/
inductive Attended (capacity : Nat) : Option (Set MacAddress) → List Sign →
    List (Attempt Received) → List (Bytes × Attempt Nat) → Option (Set MacAddress) → Prop
  | absent {signs : List Sign} : Attended capacity none signs [] [] none
  | served {macs : Set MacAddress} : Attended capacity (some macs) [] [] [] (some macs)
  | idles {macs : Set MacAddress} {signs : List Sign} {reads : List (Attempt Received)}
    {sends : List (Bytes × Attempt Nat)} {last : Option (Set MacAddress)}
    (later : Attended capacity (some macs) signs reads sends last) :
    Attended capacity (some macs) (.idle :: signs) reads sends last
  | hangsUp {macs : Set MacAddress} {signs : List Sign} :
    Attended capacity (some macs) (.hungUp :: signs) [] [] none
  | isRead {macs : Set MacAddress} {signs : List Sign} {answer : Attempt Received}
    {reads : List (Attempt Received)} {sends more : List (Bytes × Attempt Nat)}
    {after last : Option (Set MacAddress)} (judged : Judged capacity macs answer sends after)
    (later : Attended capacity after signs reads more last) :
    Attended capacity (some macs) (.readable :: signs) (answer :: reads) (sends ++ more) last

section Uniqueness

variable {capacity : Nat} {macs : Set MacAddress} {seat last other : Option (Set MacAddress)}
  {answer : Attempt Received} {signs : List Sign} {reads readsAgain : List (Attempt Received)}
  {sends again : List (Bytes × Attempt Nat)} {rest restAgain : List (Attempt Nat)}

theorem Judged.unique (judged : Judged capacity macs answer sends last)
    (judgedAgain : Judged capacity macs answer again other)
    (outcomes : Agree (sends.map (·.2) ++ rest) (again.map (·.2) ++ restAgain)) :
    sends = again ∧ last = other := by
  unfold Judged at judged judgedAgain
  split at judged
  next found =>
    rw [found] at judgedAgain
    rcases judged with ⟨rfl, rfl⟩
    rcases judgedAgain with ⟨rfl, rfl⟩
    exact ⟨rfl, rfl⟩
  next found =>
    rw [found] at judgedAgain
    rcases judged with ⟨rfl, rfl⟩
    rcases judgedAgain with ⟨rfl, rfl⟩
    exact ⟨rfl, rfl⟩
  next message found =>
    rw [found] at judgedAgain
    rcases judged with ⟨outcome, rfl, rfl⟩
    rcases judgedAgain with ⟨_, rfl, rfl⟩
    rcases (agree_cons.mp outcomes).1 with rfl
    exact ⟨rfl, rfl⟩

/-- A client that shows the same signs, is read the same and takes the same is sent the same. -/
theorem Attended.unique (attended : Attended capacity seat signs reads sends last)
    (attendedAgain : Attended capacity seat signs readsAgain again other)
    (answers : Agree reads readsAgain)
    (outcomes : Agree (sends.map (·.2)) (again.map (·.2))) : sends = again ∧ last = other := by
  induction attended generalizing readsAgain again other with
  | absent | served | hangsUp =>
    cases attendedAgain
    exact ⟨rfl, rfl⟩
  | idles _ ih =>
    cases attendedAgain with
    | idles later => exact ih later answers outcomes
  | isRead judged _ ih =>
    cases attendedAgain with
    | isRead judgedAgain later =>
      rcases agree_cons.mp answers with ⟨rfl, remaining⟩
      rw [List.map_append, List.map_append] at outcomes
      rcases judged.unique judgedAgain outcomes with ⟨rfl, rfl⟩
      rcases ih later remaining (agree_append.mp outcomes) with ⟨rfl, rfl⟩
      exact ⟨rfl, rfl⟩

end Uniqueness

/-! ### The calls of a client -/

namespace Exchange

def brought? (source : Descriptor) : Exchange → Option (Attempt Received)
  | ⟨.receive socket _, answer⟩ => if socket = source then some answer else none
  | _ => none

/-- A call by which a client is sent something or given up. -/
def Tends (client : ClientId) (exchange : Exchange) : Prop :=
  match exchange.call with
  | .send socket _ => socket = client
  | .unwatch _ target => target = client
  | .close number => number = client
  | .log _ => True
  | _ => False

theorem Tends.brought? {client : ClientId} {source : Descriptor} {exchange : Exchange}
    (tends : exchange.Tends client) : exchange.brought? source = none := by
  unfold Exchange.brought?
  split
  · cases tends
  · rfl

/-- A call by which a client is served: it is read, sent something or given up. -/
def Serves (client : ClientId) (exchange : Exchange) : Prop :=
  match exchange.call with
  | .receive socket _ => socket = client
  | _ => exchange.Tends client

theorem Tends.serves {client : ClientId} {exchange : Exchange} (tends : exchange.Tends client) :
    exchange.Serves client := by
  unfold Serves
  split
  next call => simp [Tends, call] at tends
  next => exact tends

theorem Serves.silent {client other : ClientId} {exchange : Exchange}
    (serves : exchange.Serves client) (different : client ≠ other) :
    exchange.brought? other = none ∧ exchange.sentTo? other = none := by
  rcases exchange with ⟨call, answer⟩
  cases call with
  | receive socket capacity =>
    rcases serves with rfl
    exact ⟨if_neg different, rfl⟩
  | send socket message =>
    rcases serves with rfl
    exact ⟨rfl, by simp [Exchange.sentTo?, Exchange.sent?, different]⟩
  | _ => exact ⟨rfl, rfl⟩

end Exchange

namespace Registry

variable {registry before after : Registry Connection} {client other : ClientId}

theorem seat_eq_none (absent : client ∉ registry.ids) : registry.seat client = none :=
  if_neg absent

theorem seat_eq_some (connected : client ∈ registry.ids) :
    registry.seat client = some {mac | client ∈ registry.subscribers mac} :=
  if_pos connected

theorem seat_congr (ids : client ∈ after.ids ↔ client ∈ before.ids)
    (subscribed : ∀ mac, client ∈ after.subscribers mac ↔ client ∈ before.subscribers mac) :
    after.seat client = before.seat client := by
  simp only [seat, ids, subscribed]

theorem AgreeApart.seat (agree : before.AgreeApart client after) (different : other ≠ client) :
    after.seat other = before.seat other := by
  apply seat_congr
  · rw [mem_ids_iff, mem_ids_iff, contains, contains, agree.connections other different]
  · intro mac
    have same := congrArg (other ∈ ·) (agree.subscriptions mac)
    simpa [different] using same

theorem AgreeApart.mem_ids (agree : before.AgreeApart client after)
    (connected : client ∈ before.ids) (stays : other ∈ after.ids) : other ∈ before.ids := by
  by_cases same : other = client
  · exact same ▸ connected
  · rw [mem_ids_iff, contains] at stays ⊢
    rw [← agree.connections other same]
    exact stays

end Registry

namespace Router

open Program

variable {router after : Router} {trace : Trace} {client : ClientId}

theorem unread_of_tends {source : Descriptor} (tends : ∀ exchange ∈ trace, exchange.Tends client) :
    trace.filterMap (Exchange.brought? source) = [] := by
  rw [List.filterMap_eq_nil_iff]
  exact fun exchange exchangeMem => (tends exchange exchangeMem).brought?

theorem tends_removeClient {reason : RemovalReason}
    (runs : (router.removeClient client reason).Runs trace after)
    (own : ∀ connection, router.registry.get? client = some connection → connection = ⟨client⟩) :
    ∀ exchange ∈ trace, exchange.Tends client := by
  rcases runs_removeClient runs with ⟨-, rfl, -⟩ | ⟨connection, _, found, rfl, -⟩
  · simp
  · rcases own connection found with rfl
    simp [retirement, Exchange.Tends]

theorem tends_handleClient {answer : Attempt Received} {rest : Trace}
    (consistent : router.standing.Consistent)
    (found : router.registry.get? client = some ⟨client⟩)
    (runs : (router.handleClient client).Runs
      (⟨.receive client router.clientBuffer.capacity, answer⟩ :: rest) after) :
    ∀ exchange ∈ rest, exchange.Tends client := by
  have own : ∀ connection, router.registry.get? client = some connection → connection = ⟨client⟩ :=
    fun _ found => consistent.own found
  rcases runs_handleClient found runs with
    ⟨_, _, same, ⟨-, rfl, -⟩ | ⟨-, _, removes⟩⟩
      | ⟨received, _, same, ⟨-, _, removes⟩ | ⟨-, -, _, removes⟩ | ⟨-, bytes, -, answers⟩⟩
  all_goals cases same
  · simp
  · exact tends_removeClient removes own
  · exact tends_removeClient removes own
  · exact tends_removeClient removes own
  · have stillFound : (router.withMessage received).registry.get? client = some ⟨client⟩ := found
    rcases runs_answer stillFound answers with
      ⟨_, _, -, removes⟩ | ⟨message, _, _, -, rfl, ⟨-, rfl, -⟩ | ⟨-, _, removes⟩⟩
    · exact tends_removeClient removes own
    · simp [Exchange.Tends]
    · rw [List.forall_mem_cons, List.forall_mem_cons]
      refine ⟨trivial, rfl, tends_removeClient removes ?_⟩
      intro connection foundAfter
      rw [Registry.get?_grant] at foundAfter
      exact own connection foundAfter

theorem finding_of_received {received : Received}
    (faithful : Exchange.Faithful ⟨.receive client router.clientBuffer.capacity, .ok received⟩)
    (more : received.size ≠ 0) :
    Finding.ofAnswer router.clientBuffer.capacity (.ok received) =
      match router.understood? received with
      | some message => .message message
      | none => .parting := by
  rw [Finding.ofAnswer, understood?, withMessage, slice?_store_received faithful]
  by_cases fits : received.size ≤ router.clientBuffer.capacity
  · rw [if_pos fits, if_neg (by omega), Option.bind_some]
    cases ClientMessage.decode received.stored <;> rfl
  · rw [if_neg fits, if_pos (by omega)]
    rfl

theorem Gone.seat {violations : Nat} (gone : Gone client violations router after) :
    after.registry.seat client = none :=
  Registry.seat_eq_none gone.absent

theorem Gone.tally {violations : Nat} (gone : Gone client violations router after) :
    after.statistics.tally = router.statistics.tally := by
  rw [gone.statistics]
  rfl

theorem Answered.tally {message : ClientMessage} {result : Int32} {outcome : Attempt Nat}
    (answered : Answered client message result outcome router after) :
    after.statistics.tally = router.statistics.tally := by
  by_cases taken : outcome = .ok (Acknowledgement.encode result message.header).length
  · rw [(answered.stays taken).2.1]
  · exact (answered.leaves taken).tally

theorem Handled.tally {answer : Attempt Received} {rest : Trace}
    (handled : Handled client router answer rest after) :
    after.statistics.tally = router.statistics.tally := by
  unfold Handled at handled
  split at handled
  · split at handled
    · rw [handled.2]
    · exact handled.2.tally
  · split at handled
    · exact handled.2.tally
    · split at handled
      · exact handled.2.tally
      · rcases handled with ⟨_, _, -, answered⟩
        exact answered.tally

theorem Answered.result_eq {message : ClientMessage} {result : Int32} {outcome : Attempt Nat}
    (answered : Answered client message result outcome router after) :
    result = message.request.verdict := by
  have granted := answered.granted
  have refused := answered.refused
  cases request : message.request with
  | register mac => exact granted.mpr ⟨mac, request⟩
  | missingMac | unrecognized =>
    simp only [request, reduceCtorEq, exists_false, iff_false] at granted
    exact refused granted

/-- The answer to a message leaves the client where it was, with what it asked for, or not at
all. -/
theorem Answered.seat {message : ClientMessage} {result : Int32} {outcome : Attempt Nat}
    (answered : Answered client message result outcome router after)
    (connected : client ∈ router.registry.ids) :
    after.registry.seat client =
      if tookAll (Acknowledgement.encode result message.header) outcome then
        some (message.request.added {mac | client ∈ router.registry.subscribers mac})
      else none := by
  split
  next taken =>
    rcases answered.stays (tookAll_iff.mp taken) with ⟨clients, -, subscribers⟩
    have stays : client ∈ after.registry.ids := by
      rw [Registry.ids, clients]
      exact connected
    rw [Registry.seat_eq_some stays]
    congr 1
    ext mac
    rw [Set.mem_ofPred_eq, subscribers]
    cases message.request with
    | register key =>
      by_cases same : key = mac
      · subst same
        by_cases known : client ∈ router.registry.subscribers key <;> simp [Request.added, known]
      · simp [Request.added, same, Ne.symm same]
    | missingMac | unrecognized => simp [Request.added]
  next untaken =>
    refine (answered.leaves ?_).seat
    intro whole
    exact untaken (tookAll_iff.mpr whole)

/-- A connected client is read once. What it is sent on that, and what it is left with, follows
from what was read. -/
theorem judged_of_handleClient (consistent : router.standing.Consistent)
    (connected : client ∈ router.registry.ids) (faithful : ∀ exchange ∈ trace, exchange.Faithful)
    (runs : (router.handleClient client).Runs trace after) :
    ∃ answer rest, trace = ⟨.receive client router.clientBuffer.capacity, answer⟩ :: rest
      ∧ (∀ exchange ∈ rest, exchange.Tends client)
      ∧ Judged router.clientBuffer.capacity {mac | client ∈ router.registry.subscribers mac} answer
        (rest.filterMap (Exchange.sentTo? client)) (after.registry.seat client)
      ∧ router.registry.AgreeApart client after.registry
      ∧ after.statistics.tally = router.statistics.tally := by
  have found : router.registry.get? client = some ⟨client⟩ := consistent.get?_of_mem connected
  rcases handled_of_runs consistent connected runs with ⟨answer, rest, rfl, handled, agree⟩
  refine ⟨answer, rest, rfl, tends_handleClient consistent found runs, ?_, agree, handled.tally⟩
  unfold Judged
  rcases answer with errno | received
  · by_cases transient : errno.isTransient
    · rw [Handled, if_pos transient] at handled
      rcases handled with ⟨rfl, rfl⟩
      simp [Finding.ofAnswer, transient, Registry.seat_eq_some connected]
    · rw [Handled, if_neg transient] at handled
      simp [Finding.ofAnswer, transient, sentTo_eq_filterMap, handled.1, handled.2.seat]
  by_cases ended : received.size = 0
  · rw [Handled, if_pos ended] at handled
    simp [Finding.ofAnswer, ended, sentTo_eq_filterMap, handled.1, handled.2.seat]
  rw [Handled, if_neg ended] at handled
  rw [finding_of_received (faithful _ (List.mem_cons_self ..)) ended]
  cases understood : router.understood? received with
  | none =>
    rw [understood] at handled
    simp [sentTo_eq_filterMap, handled.1, handled.2.seat]
  | some message =>
    rw [understood] at handled
    rcases handled with ⟨result, outcome, sent, answered⟩
    have seat := answered.seat connected
    rw [answered.result_eq] at sent seat
    refine ⟨outcome, ?_, seat⟩
    rw [sentTo_eq_filterMap, sent]
    simp [ClientMessage.reply]

theorem silent_of_serves {other : ClientId} (serves : ∀ exchange ∈ trace, exchange.Serves client)
    (different : client ≠ other) : trace.filterMap (Exchange.brought? other) = []
      ∧ trace.filterMap (Exchange.sentTo? other) = [] := by
  rw [List.filterMap_eq_nil_iff, List.filterMap_eq_nil_iff]
  exact ⟨fun exchange exchangeMem => ((serves exchange exchangeMem).silent different).1,
    fun exchange exchangeMem => ((serves exchange exchangeMem).silent different).2⟩

theorem attended_self (capacity : Nat) (seat : Option (Set MacAddress)) :
    Attended capacity seat [] [] [] seat := by
  cases seat with
  | none => exact .absent
  | some macs => exact .served

/-- What is done concerns one client, and nothing is done if that client is not connected. -/
structure Confined (client : ClientId) (router : Router) (trace : Trace) (after : Router) :
    Prop where
  serves : ∀ exchange ∈ trace, exchange.Serves client
  others : router.registry.AgreeApart client after.registry
  absent : client ∉ router.registry.ids → trace = [] ∧ after = router

theorem Confined.self (client : ClientId) (router : Router) : Confined client router [] router :=
  ⟨by simp, .refl, fun _ => ⟨rfl, rfl⟩⟩

theorem Confined.of_connected (connected : client ∈ router.registry.ids)
    (serves : ∀ exchange ∈ trace, exchange.Serves client)
    (others : router.registry.AgreeApart client after.registry) :
    Confined client router trace after :=
  ⟨serves, others, fun absent => absurd connected absent⟩

theorem Confined.mem_ids (confined : Confined client router trace after) {other : ClientId}
    (stays : other ∈ after.registry.ids) : other ∈ router.registry.ids := by
  by_cases connected : client ∈ router.registry.ids
  · exact confined.others.mem_ids connected stays
  · rwa [(confined.absent connected).2] at stays

theorem confined_of_serveOne {event : Readiness} (consistent : router.standing.Consistent)
    (runs : (router.serveOne event).Runs trace after) :
    Confined event.descriptor router trace after := by
  have own : ∀ connection, router.registry.get? event.descriptor = some connection →
      connection = ⟨event.descriptor⟩ := fun _ found => consistent.own found
  rcases runs_serveOne runs with
    ⟨connected, -, handles⟩ | ⟨connected, -, -, hangsUp⟩ | ⟨-, rfl, rfl⟩
  · have member := Registry.mem_ids_iff.mpr connected
    rcases Option.isSome_iff_exists.mp connected with ⟨connection, found⟩
    rcases own connection found with rfl
    rcases handled_of_runs consistent member handles with ⟨answer, rest, rfl, -, agree⟩
    refine .of_connected member ?_ agree
    rw [List.forall_mem_cons]
    refine ⟨rfl, ?_⟩
    intro exchange exchangeMem
    exact (tends_handleClient consistent found handles exchange exchangeMem).serves
  · have member := Registry.mem_ids_iff.mpr connected
    refine .of_connected member ?_ ?_
    · intro exchange exchangeMem
      exact (tends_removeClient hangsUp own exchange exchangeMem).serves
    · rw [(gone_of_removeClient 0 hangsUp consistent.sound member rfl rfl).2.2]
      exact consistent.sound.agreeApart_remove
  · exact .self _ _

/-- An event tells what becomes of its client. The frames and failed accepts that were counted stay
as they are. -/
structure Notices (event : Readiness) (router : Router) (trace : Trace) (after : Router) :
    Prop where
  tally : after.statistics.tally = router.statistics.tally
  own : ∀ {signs reads sends last},
    Attended router.clientBuffer.capacity (after.registry.seat event.descriptor) signs reads sends
      last →
    Attended router.clientBuffer.capacity (router.registry.seat event.descriptor)
      (event.sign :: signs) (trace.filterMap (Exchange.brought? event.descriptor) ++ reads)
      (trace.filterMap (Exchange.sentTo? event.descriptor) ++ sends) last

theorem notices_of_handleClient {event : Readiness} (consistent : router.standing.Consistent)
    (faithful : ∀ exchange ∈ trace, exchange.Faithful)
    (connected : event.descriptor ∈ router.registry.ids) (readable : event.isReadable)
    (runs : (router.handleClient event.descriptor).Runs trace after) :
    Notices event router trace after := by
  rcases judged_of_handleClient consistent connected faithful runs with
    ⟨answer, rest, rfl, tends, judged, -, tally⟩
  refine ⟨tally, ?_⟩
  intro signs reads sends last attended
  have brought : Exchange.brought? event.descriptor
      ⟨.receive event.descriptor router.clientBuffer.capacity, answer⟩ = some answer := if_pos rfl
  have sign : event.sign = .readable := if_pos readable
  rw [Registry.seat_eq_some connected, sign, List.filterMap_cons_some brought,
    unread_of_tends tends, List.filterMap_cons_none rfl]
  exact .isRead judged attended

theorem notices_of_removeClient {event : Readiness} (consistent : router.standing.Consistent)
    (connected : event.descriptor ∈ router.registry.ids) (sign : event.sign = .hungUp)
    (runs : (router.removeClient event.descriptor .hangUp).Runs trace after) :
    Notices event router trace after := by
  have tends := tends_removeClient runs fun _ found => consistent.own found
  rcases gone_of_removeClient 0 runs consistent.sound connected rfl rfl with ⟨silent, gone, -⟩
  refine ⟨gone.tally, ?_⟩
  intro signs reads sends last attended
  rw [gone.seat] at attended
  cases attended
  rw [Registry.seat_eq_some connected, sign, unread_of_tends tends, sentTo_eq_filterMap, silent]
  exact .hangsUp

theorem notices_of_serveOne {event : Readiness} (consistent : router.standing.Consistent)
    (faithful : ∀ exchange ∈ trace, exchange.Faithful)
    (runs : (router.serveOne event).Runs trace after) : Notices event router trace after := by
  rcases runs_serveOne runs with
    ⟨connected, readable, handles⟩ | ⟨connected, unready, hungUp, hangsUp⟩ | ⟨idle, rfl, rfl⟩
  · exact notices_of_handleClient consistent faithful (Registry.mem_ids_iff.mpr connected) readable
      handles
  · refine notices_of_removeClient consistent (Registry.mem_ids_iff.mpr connected) ?_ hangsUp
    simp [Readiness.sign, unready, hungUp]
  · refine ⟨rfl, ?_⟩
    intro signs reads sends last attended
    by_cases connected : event.descriptor ∈ after.registry.ids
    · have sign : event.sign = .idle := by
        rcases idle (Registry.mem_ids_iff.mp connected) with ⟨unready, holds⟩
        simp [Readiness.sign, unready, holds]
      rw [Registry.seat_eq_some connected] at attended ⊢
      rw [sign]
      exact .idles attended
    · rw [Registry.seat_eq_none connected] at attended ⊢
      cases attended
      exact .absent

theorem serves_of_serveClients {events : List Readiness} (consistent : router.standing.Consistent)
    (others : ∀ event ∈ events, event.descriptor ≠ router.kernel)
    (runs : (router.serveClients events).Runs trace after) :
    ∀ exchange ∈ trace, ∃ event ∈ events, exchange.Serves event.descriptor := by
  induction events generalizing router trace with
  | nil =>
    rcases runs with ⟨rfl, -⟩
    simp
  | cons event events ih =>
    rcases runs_serveClients_cons consistent others runs with
      ⟨early, late, middle, rfl, serves, later, consistentNow, -, othersNow⟩
    rw [List.forall_mem_append]
    constructor
    · intro exchange exchangeMem
      exact ⟨event, List.mem_cons_self ..,
        (confined_of_serveOne consistent serves).serves exchange exchangeMem⟩
    · intro exchange exchangeMem
      rcases ih consistentNow othersNow later exchange exchangeMem with ⟨one, oneMem, servesOne⟩
      exact ⟨one, List.mem_cons_of_mem _ oneMem, servesOne⟩

/-- Every client is served by calls of its own, according to the signs that it shows. -/
theorem attended_of_serveClients {events : List Readiness} (consistent : router.standing.Consistent)
    (others : ∀ event ∈ events, event.descriptor ≠ router.kernel)
    (faithful : ∀ exchange ∈ trace, exchange.Faithful)
    (runs : (router.serveClients events).Runs trace after) :
    (∀ exchange ∈ trace, ∃ client ∈ router.registry.ids, exchange.Serves client)
      ∧ after.statistics.tally = router.statistics.tally
      ∧ ∀ client, Attended router.clientBuffer.capacity (router.registry.seat client)
        ((events.filter (·.descriptor = client)).map Readiness.sign)
        (trace.filterMap (Exchange.brought? client)) (trace.filterMap (Exchange.sentTo? client))
        (after.registry.seat client) := by
  -- What is filtered for a client only grows by the events of its own descriptor.
  induction events generalizing router trace with
  | nil =>
    rcases runs with ⟨rfl, rfl⟩
    exact ⟨by simp, rfl, fun client => attended_self ..⟩
  | cons event events ih =>
    rcases runs_serveClients_cons consistent others runs with
      ⟨early, late, middle, rfl, serves, later, consistentNow, fixtures, othersNow⟩
    rw [List.forall_mem_append] at faithful
    have capacity : middle.clientBuffer.capacity = router.clientBuffer.capacity :=
      congrArg Fixtures.clientCapacity fixtures
    have confined := confined_of_serveOne consistent serves
    have notices := notices_of_serveOne consistent faithful.1 serves
    rcases ih consistentNow othersNow faithful.2 later with ⟨servesLater, tally, attended⟩
    rw [capacity] at attended
    refine ⟨?_, tally.trans notices.tally, ?_⟩
    · rw [List.forall_mem_append]
      constructor
      · intro exchange exchangeMem
        refine ⟨event.descriptor, ?_, confined.serves exchange exchangeMem⟩
        by_contra absent
        rw [(confined.absent absent).1] at exchangeMem
        cases exchangeMem
      · intro exchange exchangeMem
        rcases servesLater exchange exchangeMem with ⟨client, member, servesNow⟩
        exact ⟨client, confined.mem_ids member, servesNow⟩
    · intro client
      rw [List.filterMap_append, List.filterMap_append]
      by_cases same : event.descriptor = client
      · subst same
        rw [List.filter_cons_of_pos (by simp), List.map_cons]
        exact notices.own (attended event.descriptor)
      · have silent := silent_of_serves confined.serves same
        rw [List.filter_cons_of_neg (by simpa using same), silent.1, silent.2,
          ← confined.others.seat (Ne.symm same)]
        exact attended client

end Router

/-! ### A client that is forwarded a frame -/

/-- The frame in what the kernel handed over, if it is one and fits. -/
def framed? (capacity : Nat) (family : UInt16) : Attempt Received → Option Notification
  | .error _ => none
  | .ok received =>
    if received.size ≤ capacity then Notification.decode? received.stored family else none

/-- What a client is sent of a frame, and where that leaves it. -/
inductive Mailed (frame? : Option Notification) : Option (Set MacAddress) →
    List (Bytes × Attempt Nat) → Option (Set MacAddress) → Prop
  | passes {seat : Option (Set MacAddress)}
    (unconcerned : ∀ notification ∈ frame?, ∀ macs ∈ seat, notification.transmitter ∈ macs →
      ∃ error, Delivery.encode ⟨notification.transmitter, notification.frame⟩ = .error error) :
    Mailed frame? seat [] seat
  | isSent {notification : Notification} {macs : Set MacAddress} {message : Bytes}
    {outcome : Attempt Nat} (heard : frame? = some notification)
    (subscribed : notification.transmitter ∈ macs)
    (encoded : Delivery.encode ⟨notification.transmitter, notification.frame⟩ = .ok message) :
    Mailed frame? (some macs) [(message, outcome)]
      (if tookAll message outcome then some macs else none)

theorem Mailed.of_none {seat : Option (Set MacAddress)} : Mailed none seat [] seat := by
  refine .passes ?_
  intro notification heard
  cases heard

theorem Mailed.of_vacant {frame? : Option Notification} : Mailed frame? none [] none := by
  refine .passes ?_
  intro notification heard macs seat
  cases seat

theorem Mailed.unique {frame? : Option Notification} {seat last other : Option (Set MacAddress)}
    {sends again : List (Bytes × Attempt Nat)} {rest restAgain : List (Attempt Nat)}
    (mailed : Mailed frame? seat sends last) (mailedAgain : Mailed frame? seat again other)
    (outcomes : Agree (sends.map (·.2) ++ rest) (again.map (·.2) ++ restAgain)) :
    sends = again ∧ last = other := by
  cases mailed with
  | passes unconcerned =>
    cases mailedAgain with
    | passes => exact ⟨rfl, rfl⟩
    | isSent heard subscribed encoded =>
      rcases unconcerned _ heard _ rfl subscribed with ⟨error, refused⟩
      rw [refused] at encoded
      cases encoded
  | isSent heard subscribed encoded =>
    cases mailedAgain with
    | passes unconcerned =>
      rcases unconcerned _ heard _ rfl subscribed with ⟨error, refused⟩
      rw [refused] at encoded
      cases encoded
    | isSent heardAgain _ encodedAgain =>
      rw [heard] at heardAgain
      cases heardAgain
      rw [encoded] at encodedAgain
      cases encodedAgain
      rcases (agree_cons.mp outcomes).1 with rfl
      exact ⟨rfl, rfl⟩

namespace Router

open Program

variable {router after : Router} {trace : Trace} {client : ClientId}

theorem tends_forward {notification : Notification} {received : Received}
    (consistent : router.standing.Consistent)
    (runs : ((router.withDatagram received).forward notification).Runs trace after) :
    ∀ exchange ∈ trace, ∃ client ∈ router.registry.ids, exchange.Tends client := by
  rcases runs_forward runs with ⟨sent, closed, report, left, rfl, routes, retires⟩
  rcases runs_retireAll retires with ⟨retired, dropped, rfl, rfl⟩
  rcases runs_route routes with
    ⟨rfl, nobody, -⟩ | ⟨message, sends, -, targets, rfl, -, fallen, -⟩
  · rw [nobody] at dropped
    rcases List.map_eq_nil_iff.mp dropped with rfl
    simp [retirements]
  · rw [fallen] at dropped
    rcases exists_sendings consistent .deliveryFailed targets dropped with
      ⟨sendings, leaving, addressed, left, failed, -, sent, closed⟩
    change ∀ exchange ∈
      mailing message sends ++ retirements router.poller .deliveryFailed retired, _
    rw [sent, closed, forall_mem_forwarding]
    have connected := (consistent.failing_connected message addressed).2
    constructor
    · intro sending sendingMem
      have subscribed : sending.1 ∈ router.registry.subscribers notification.transmitter := by
        rw [← addressed]
        exact List.mem_map_of_mem sendingMem
      exact ⟨sending.1, consistent.sound.mem_ids_of_mem_subscribers subscribed, rfl⟩
    · intro entry entryMem
      have member := connected entry.1 (left ▸ List.mem_map_of_mem entryMem)
      rw [forall_mem_farewell]
      exact ⟨⟨_, member, rfl⟩, ⟨_, member, rfl⟩, ⟨_, member, trivial⟩⟩

theorem heard?_eq_framed? {received : Received}
    (faithful : Exchange.Faithful
      ⟨.receive router.kernel router.kernelBuffer.capacity, .ok received⟩) :
    router.heard? received = framed? router.kernelBuffer.capacity router.family (.ok received) := by
  rw [heard?, slice?_store_received faithful, framed?]
  split <;> rfl

theorem seat_withSent {received : Received} {message : Bytes}
    {sendings : List (ClientId × Attempt Nat)} (sound : router.registry.Sound) :
    ((router.withDatagram received).withSent message sendings).registry.seat client =
      if client ∈ failing message sendings then none else router.registry.seat client := by
  have withDatagram : (router.withDatagram received).registry = router.registry := rfl
  split
  next failed =>
    apply Registry.seat_eq_none
    simp [withSent, withDatagram, Registry.ids_removeAll, failed]
  next took =>
    apply Registry.seat_congr
    · simp [withSent, withDatagram, Registry.ids_removeAll, took]
    · intro mac
      simp [withSent, withDatagram, sound.subscribers_removeAll, took]

theorem mem_failing_iff {message : Bytes} {sendings : List (ClientId × Attempt Nat)}
    {outcome : Attempt Nat} (distinct : (sendings.map (·.1)).Nodup)
    (sendingMem : (client, outcome) ∈ sendings) :
    client ∈ failing message sendings ↔ ¬ tookAll message outcome = true := by
  constructor
  · intro failed
    rcases List.mem_map.mp failed with ⟨⟨_, another⟩, anotherMem, rfl⟩
    rcases List.mem_filter.mp anotherMem with ⟨anotherMem, untaken⟩
    have same : another = outcome := by
      have pairs := List.inj_on_of_nodup_map distinct anotherMem sendingMem rfl
      exact congrArg Prod.snd pairs
    simpa [same] using untaken
  · intro untaken
    exact List.mem_map.mpr ⟨_, List.mem_filter.mpr ⟨sendingMem, by simp [untaken]⟩, rfl⟩

/-- A client is sent a frame of an address that it is subscribed to, and is gone if it does not
take it. -/
theorem mailed_of_forwarded {answer : Attempt Received} {rest : Trace}
    (consistent : router.standing.Consistent)
    (faithful : Exchange.Faithful ⟨.receive router.kernel router.kernelBuffer.capacity, answer⟩)
    (forwarded : Forwarded router answer rest after) :
    Mailed (framed? router.kernelBuffer.capacity router.family answer) (router.registry.seat client)
      (rest.filterMap (Exchange.sentTo? client)) (after.registry.seat client) := by
  have sound : router.registry.Sound := consistent.sound
  rw [sentTo_eq_filterMap]
  rcases answer with errno | received
  · rcases forwarded with ⟨silent, rfl⟩
    rw [silent]
    exact .of_none
  simp only [Forwarded, heard?_eq_framed? faithful] at forwarded
  split at forwarded
  next unheard =>
    rcases forwarded with ⟨silent, rfl⟩
    rw [silent, unheard]
    exact .of_none
  next notification heard =>
    rw [heard]
    split at forwarded
    next error refused =>
      rcases forwarded with ⟨silent, rfl⟩
      rw [silent, seat_withSent sound, if_neg (by simp [failing])]
      refine .passes ?_
      rintro _ same _ _ _
      cases same
      exact ⟨error, refused⟩
    next message encoded =>
      rcases forwarded with ⟨sendings, addressed, sent, rfl⟩
      have distinct : (sendings.map (·.1)).Nodup := by
        rw [addressed]
        exact sound.nodup_subscribers _
      rw [sent, ← sent_posted, ← sentTo_eq_filterMap, seat_withSent sound]
      -- Subscribers are different clients, so the frame goes to this one once or not at all.
      rcases sentTo_sendings distinct with ⟨unaddressed, nothing⟩ | ⟨outcome, sendingMem, only⟩
      · rw [nothing, if_neg (fun failed => unaddressed ((failing_sublist ..).subset failed))]
        refine .passes ?_
        rintro _ same macs seat subscribed
        cases same
        rw [addressed] at unaddressed
        by_cases connected : client ∈ router.registry.ids
        · rw [Registry.seat_eq_some connected] at seat
          cases seat
          exact absurd subscribed unaddressed
        · rw [Registry.seat_eq_none connected] at seat
          cases seat
      · have subscribed : client ∈ router.registry.subscribers notification.transmitter := by
          rw [← addressed]
          exact List.mem_map_of_mem sendingMem
        have connected := sound.mem_ids_of_mem_subscribers subscribed
        have member : notification.transmitter ∈ ({mac | client ∈ router.registry.subscribers mac} :
          Set MacAddress) := subscribed
        rw [only, Registry.seat_eq_some connected,
          if_congr (mem_failing_iff distinct sendingMem) rfl rfl, ite_not]
        exact .isSent rfl member encoded

end Router

end RadioRelay
