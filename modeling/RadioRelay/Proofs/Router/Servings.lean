import Mathlib.Data.List.Perm.Basic
import Mathlib.Data.List.Nodup
import RadioRelay.Proofs.Router.Bookkeeping
import RadioRelay.Proofs.Router.Seats
import RadioRelay.Proofs.Mirroring

/-!
# The order in which clients are served

A client that is ready is dealt with on its own: what it is sent and where that
leaves it depends on what it was subscribed to and on what passed between it and
the router. All the rest that serving does is counting, and giving up those who
leave. Clients can therefore be served in any order.
-/

namespace RadioRelay

/-! ### What passes between the router and a client -/

/-- Something is to be sent to a socket, or received from it. -/
def Call.isOf (socket : Descriptor) : Call → Bool
  | .send target _ => target = socket
  | .receive source _ => source = socket
  | _ => false

namespace Exchange

def isOf (socket : Descriptor) (exchange : Exchange) : Bool := exchange.call.isOf socket

/-- Whom something was received from, and what. -/
def received? : Exchange → Option (Descriptor × Attempt Received)
  | ⟨.receive source _, answer⟩ => some (source, answer)
  | _ => none

theorem Serves.isOf {client other : ClientId} {exchange : Exchange}
    (serves : exchange.Serves client) (different : client ≠ other) :
    exchange.isOf other = false := by
  rcases exchange with ⟨call, answer⟩
  cases call with
  | receive | send =>
    rcases serves with rfl
    exact decide_eq_false different
  | _ => rfl

end Exchange

/-- What passes between the router and a socket if so much is read and then so much is sent. -/
def dealings (socket : Descriptor) (capacity : Nat) (reads : List (Attempt Received))
    (sends : List (Bytes × Attempt Nat)) : Trace :=
  reads.map (fun answer => ⟨.receive socket capacity, answer⟩)
    ++ sends.map (fun sending => ⟨.send socket sending.1, sending.2⟩)

/-- The receives of a trace are told by what was received from every single socket. -/
theorem received_perm {trace again : Trace}
    (each : ∀ socket, trace.filterMap (Exchange.brought? socket)
      = again.filterMap (Exchange.brought? socket)) :
    (trace.filterMap Exchange.received?).Perm (again.filterMap Exchange.received?) := by
  have brought : ∀ (socket : Descriptor) (trace : Trace),
      trace.filterMap (Exchange.brought? socket)
        = ((trace.filterMap Exchange.received?).filter (·.1 = socket)).map (·.2) := by
    intro socket trace
    rw [List.filter_filterMap, List.map_filterMap]
    apply List.filterMap_congr
    rintro ⟨call, answer⟩ -
    cases call with
    | receive source capacity =>
      by_cases same : source = socket <;> simp [Exchange.brought?, Exchange.received?, same]
    | _ => rfl
  have counted : ∀ (socket : Descriptor) (answer : Attempt Received) (trace : Trace),
      (trace.filterMap Exchange.received?).count (socket, answer)
        = (trace.filterMap (Exchange.brought? socket)).count answer := by
    intro socket answer trace
    rw [brought, List.count, List.count, List.countP_map, List.countP_filter]
    apply List.countP_congr
    rintro ⟨source, other⟩ -
    simp [and_comm]
  rw [List.perm_iff_count]
  rintro ⟨socket, answer⟩
  rw [counted, counted, each]

section Once

variable {capacity : Nat} {client : ClientId} {macs : Set MacAddress}
  {seat last other : Option (Set MacAddress)} {answer : Attempt Received} {signs : List Sign}
  {reads readsAgain : List (Attempt Received)} {sends again : List (Bytes × Attempt Nat)}

theorem Judged.unique_of_partAtCalls (judged : Judged capacity macs answer sends last)
    (judgedAgain : Judged capacity macs answer again other)
    (part : PartAtCalls (dealings client capacity [] sends) (dealings client capacity [] again)) :
    sends = again ∧ last = other := by
  apply @Judged.unique capacity macs last other answer sends again [] [] judged judgedAgain
  unfold Judged at judged judgedAgain
  split at judged
  next found =>
    rw [judged.1]
    simp [Agree]
  next found =>
    rw [judged.1]
    simp [Agree]
  next message found =>
    rw [found] at judgedAgain
    rcases judged with ⟨outcome, rfl, -⟩
    rcases judgedAgain with ⟨outcomeAgain, rfl, -⟩
    have same := (part rfl).1
    cases same
    simp [Agree]

theorem Attended.of_nil (attended : Attended capacity seat [] reads sends last) :
    reads = [] ∧ sends = [] ∧ last = seat := by
  cases attended <;> exact ⟨rfl, rfl, rfl⟩

/-- A client that shows a sign once is dealt with according to what passes between it and the
router. -/
theorem Attended.unique_of_once (once : signs.length ≤ 1)
    (attended : Attended capacity seat signs reads sends last)
    (attendedAgain : Attended capacity seat signs readsAgain again other)
    (part : PartAtCalls (dealings client capacity reads sends)
      (dealings client capacity readsAgain again)) :
    reads = readsAgain ∧ sends = again ∧ last = other := by
  cases attended with
  | absent | served | hangsUp =>
    cases attendedAgain
    exact ⟨rfl, rfl, rfl⟩
  | @idles _ signs _ _ _ later =>
    obtain rfl : signs = [] := by simpa using once
    cases attendedAgain with
    | idles laterAgain =>
      rcases later.of_nil with ⟨rfl, rfl, rfl⟩
      rcases laterAgain.of_nil with ⟨rfl, rfl, rfl⟩
      exact ⟨rfl, rfl, rfl⟩
  | @isRead _ signs answer reads sends more _ _ judged later =>
    obtain rfl : signs = [] := by simpa using once
    cases attendedAgain with
    | isRead judgedAgain laterAgain =>
      rcases later.of_nil with ⟨rfl, rfl, rfl⟩
      rcases laterAgain.of_nil with ⟨rfl, rfl, rfl⟩
      rw [List.append_nil, List.append_nil] at part ⊢
      rcases part rfl with ⟨same, partLater⟩
      cases same
      rcases judged.unique_of_partAtCalls judgedAgain partLater with ⟨rfl, rfl⟩
      exact ⟨rfl, rfl, rfl⟩

end Once

namespace Router

open Program

variable {router after : Router} {trace : Trace} {client : ClientId} {events : List Readiness}

/-- What is done for others passes nothing between the router and a client. -/
theorem nothing_of_others (others : ∀ exchange ∈ trace, ∃ other ≠ client, exchange.Serves other) :
    trace.filter (Exchange.isOf client) = []
      ∧ trace.filterMap (Exchange.brought? client) = []
      ∧ trace.filterMap (Exchange.sentTo? client) = [] := by
  rw [List.filter_eq_nil_iff, List.filterMap_eq_nil_iff, List.filterMap_eq_nil_iff]
  refine ⟨?_, ?_, ?_⟩
  all_goals
    intro exchange exchangeMem
    rcases others exchange exchangeMem with ⟨other, different, servesOther⟩
  · simp [servesOther.isOf different]
  · exact (servesOther.silent different).1
  · exact (servesOther.silent different).2

/-- Where nobody is read, a client is at most sent something. -/
theorem own_of_tends (capacity : Nat)
    (tends : ∀ exchange ∈ trace, ∃ other, exchange.Tends other) :
    trace.filter (Exchange.isOf client)
      = dealings client capacity [] (trace.filterMap (Exchange.sentTo? client)) := by
  induction trace with
  | nil => rfl
  | cons exchange trace ih =>
    rw [List.forall_mem_cons] at tends
    rcases exchange with ⟨call, outcome⟩
    rcases tends with ⟨⟨other, now⟩, others⟩
    have later := ih others
    cases call with
    | send socket message =>
      by_cases same : socket = client
      · subst same
        have sent : Exchange.sentTo? socket ⟨.send socket message, outcome⟩
            = some (message, outcome) := if_pos rfl
        have own : Exchange.isOf socket ⟨.send socket message, outcome⟩ = true := decide_eq_true rfl
        rw [List.filterMap_cons_some sent, List.filter_cons_of_pos own, later]
        rfl
      · have sent : Exchange.sentTo? client ⟨.send socket message, outcome⟩ = none := if_neg same
        have own : ¬ Exchange.isOf client ⟨.send socket message, outcome⟩ = true := by
          simp [Exchange.isOf, Call.isOf, same]
        rw [List.filterMap_cons_none sent, List.filter_cons_of_neg own, later]
    | unwatch | close | log => exact later
    | _ => cases now

/-- A client is read before it is sent anything. -/
theorem own_of_serveOne {event : Readiness} (consistent : router.standing.Consistent)
    (runs : (router.serveOne event).Runs trace after) :
    trace.filter (Exchange.isOf event.descriptor)
      = dealings event.descriptor router.clientBuffer.capacity
        (trace.filterMap (Exchange.brought? event.descriptor))
        (trace.filterMap (Exchange.sentTo? event.descriptor)) := by
  rcases runs_serveOne runs with
    ⟨connected, -, handles⟩ | ⟨-, -, -, hangsUp⟩ | ⟨-, rfl, rfl⟩
  · rcases Option.isSome_iff_exists.mp connected with ⟨connection, found⟩
    rcases consistent.own found with rfl
    rcases handled_of_runs consistent (Registry.mem_ids_of_get? found) handles with
      ⟨answer, rest, rfl, -, -⟩
    have tends := tends_handleClient consistent found handles
    have brought : Exchange.brought? event.descriptor
        ⟨.receive event.descriptor router.clientBuffer.capacity, answer⟩ = some answer := if_pos rfl
    have own : Exchange.isOf event.descriptor
        ⟨.receive event.descriptor router.clientBuffer.capacity, answer⟩ = true :=
      decide_eq_true rfl
    rw [List.filterMap_cons_some brought, unread_of_tends tends, List.filterMap_cons_none rfl,
      List.filter_cons_of_pos own, own_of_tends router.clientBuffer.capacity
        fun exchange exchangeMem => ⟨_, tends exchange exchangeMem⟩]
    rfl
  · have tends := tends_removeClient hangsUp fun _ found => consistent.own found
    rw [unread_of_tends tends]
    exact own_of_tends _ fun exchange exchangeMem => ⟨_, tends exchange exchangeMem⟩
  · rfl

theorem own_of_serveClients (consistent : router.standing.Consistent)
    (others : ∀ event ∈ events, event.descriptor ≠ router.kernel)
    (distinct : (events.map Readiness.descriptor).Nodup)
    (runs : (router.serveClients events).Runs trace after) :
    trace.filter (Exchange.isOf client) = dealings client router.clientBuffer.capacity
      (trace.filterMap (Exchange.brought? client)) (trace.filterMap (Exchange.sentTo? client)) := by
  induction events generalizing router trace with
  | nil =>
    rcases runs with ⟨rfl, -⟩
    rfl
  | cons event events ih =>
    rw [List.map_cons, List.nodup_cons] at distinct
    rcases runs_serveClients_cons consistent others runs with
      ⟨early, late, middle, rfl, serves, later, consistentNow, fixtures, othersNow⟩
    have capacity : middle.clientBuffer.capacity = router.clientBuffer.capacity :=
      congrArg Fixtures.clientCapacity fixtures
    rw [List.filter_append, List.filterMap_append, List.filterMap_append]
    -- Each client is reported once: it is served by this event, or by a later one.
    by_cases same : event.descriptor = client
    · subst same
      have apart : ∀ exchange ∈ late, ∃ other ≠ event.descriptor, exchange.Serves other := by
        intro exchange exchangeMem
        rcases serves_of_serveClients consistentNow othersNow later exchange exchangeMem with
          ⟨one, oneMem, servesOne⟩
        refine ⟨one.descriptor, ?_, servesOne⟩
        intro same
        exact distinct.1 (same ▸ List.mem_map_of_mem oneMem)
      have nothing := nothing_of_others apart
      rw [nothing.1, nothing.2.1, nothing.2.2, List.append_nil, List.append_nil, List.append_nil]
      exact own_of_serveOne consistent serves
    · have confined := confined_of_serveOne consistent serves
      have nothing := nothing_of_others fun exchange exchangeMem =>
        ⟨event.descriptor, same, confined.serves exchange exchangeMem⟩
      rw [nothing.1, nothing.2.1, nothing.2.2, List.nil_append, List.nil_append, List.nil_append,
        ih consistentNow othersNow distinct.2 later, capacity]

/-! ### What is counted, and who is watched -/

/-- Something was received that is no message, or too long for one. -/
def breaches (capacity : Nat) : Attempt Received → Bool
  | .ok received => received.size ≠ 0
    ∧ (capacity < received.size ∨ (ClientMessage.decode received.stored).toOption.isNone)
  | .error _ => false

/-- How often something was received that breaks the format. -/
def breachCount (capacity : Nat) (trace : Trace) : Nat :=
  (trace.filterMap Exchange.received?).countP fun entry => breaches capacity entry.2

/-- Whoever left is counted and no longer watched, and so is everything that breaks the format. -/
structure Accounts (router : Router) (trace : Trace) (after : Router) : Prop where
  statistics : after.statistics = { router.statistics with
    removed := after.statistics.removed
    protocolErrors :=
      router.statistics.protocolErrors + breachCount router.clientBuffer.capacity trace }
  balance : after.statistics.removed + after.registry.ids.length
    = router.statistics.removed + router.registry.ids.length
  watched : ∀ watched number, number ∈ watchedAfter router.poller.descriptor watched trace ↔
    number ∈ watched ∧ (number ∈ router.registry.ids → number ∈ after.registry.ids)

theorem breachCount_append {capacity : Nat} {early late : Trace} :
    breachCount capacity (early ++ late) = breachCount capacity early + breachCount capacity late := by
  rw [breachCount, List.filterMap_append, List.countP_append]
  rfl

theorem breachCount_receive {capacity : Nat} {source : Descriptor} {answer : Attempt Received}
    {rest : Trace} (nothing : breachCount capacity rest = 0) :
    breachCount capacity (⟨.receive source router.clientBuffer.capacity, answer⟩ :: rest)
      = if breaches capacity answer then 1 else 0 := by
  have received : Exchange.received? ⟨.receive source router.clientBuffer.capacity, answer⟩
      = some (source, answer) := rfl
  rw [breachCount, List.filterMap_cons_some received, List.countP_cons]
  change breachCount capacity rest + _ = _
  rw [nothing, Nat.zero_add]

theorem accounts_of_staying
    (neutral : ∀ exchange ∈ trace, ∀ watched,
      exchange.nowWatched router.poller.descriptor watched = watched)
    (unbroken : breachCount router.clientBuffer.capacity trace = 0)
    (statistics : after.statistics = router.statistics)
    (ids : after.registry.ids = router.registry.ids) : Accounts router trace after := by
  refine ⟨?_, ?_, ?_⟩
  · rw [unbroken, statistics]
    rfl
  · rw [statistics, ids]
  · intro watched number
    rw [watchedAfter_eq_self neutral, ids]
    simp

theorem accounts_of_removeClient {changed : Router} {reason : RemovalReason} {early rest : Trace}
    (consistent : router.standing.Consistent) (connected : client ∈ router.registry.ids)
    (neutral : ∀ exchange ∈ early, ∀ watched,
      exchange.nowWatched router.poller.descriptor watched = watched)
    (runs : (changed.removeClient client reason).Runs rest after)
    (poller : changed.poller = router.poller)
    (registry : changed.registry.remove client = router.registry.remove client)
    (statistics : changed.statistics = { router.statistics with
      protocolErrors :=
        router.statistics.protocolErrors + breachCount router.clientBuffer.capacity early }) :
    Accounts router (early ++ rest) after := by
  have found : changed.registry.get? client = router.registry.get? client :=
    congrArg Prod.fst registry
  have left := congrArg Prod.snd registry
  rcases runs_removeClient runs with ⟨absent, -, -⟩ | ⟨connection, unwatched, known, rfl, rfl⟩
  · rw [found, Registry.get?_eq_none_iff] at absent
    exact absurd connected absent
  rw [found] at known
  rcases consistent.own known with rfl
  refine ⟨?_, ?_, ?_⟩
  · have silent : breachCount router.clientBuffer.capacity
        (retirement changed.poller client ⟨client⟩ reason unwatched) = 0 := rfl
    rw [breachCount_append, silent, statistics]
    rfl
  · have length := consistent.sound.length_ids_remove connected
    dsimp only
    rw [left, statistics]
    dsimp only [standing] at length ⊢
    omega
  · intro watched number
    have farewells : retirement changed.poller client ⟨client⟩ reason unwatched
        = farewell router.fixtures reason (client, unwatched) := by
      rw [poller]
      rfl
    rw [watchedAfter_append, watchedAfter_eq_self neutral, farewells]
    change number ∈ watchedAfter router.fixtures.poller watched _ ↔ _
    rw [mem_watchedAfter_farewell, left, Registry.mem_ids_remove]
    by_cases same : number = client
    · subst same
      simp [connected]
    · simp [same]

/-- A message breaks nothing. If its answer is not taken, the client leaves. -/
theorem accounts_of_message {received : Received} {message : ClientMessage} {outcome : Attempt Nat}
    {rest : Trace} (consistent : router.standing.Consistent)
    (connected : client ∈ router.registry.ids) (fits : received.size ≤ router.clientBuffer.capacity)
    (decoded : ClientMessage.decode received.stored = .ok message)
    (ends : (tookAll message.reply outcome = true ∧ rest = []
          ∧ after = { router.withMessage received with
            registry := router.registry.grant client message.request })
        ∨ (tookAll message.reply outcome = false
          ∧ ∃ reason, (removeClient { router.withMessage received with
            registry := router.registry.grant client message.request } client reason).Runs
              rest after)) :
    Accounts router (⟨.receive client router.clientBuffer.capacity, .ok received⟩
      :: ⟨.log (message.request.notice client), ()⟩ :: ⟨.send client message.reply, outcome⟩ :: rest)
      after := by
  have unbroken : breachCount router.clientBuffer.capacity
      [⟨.receive client router.clientBuffer.capacity, .ok received⟩,
        ⟨.log (message.request.notice client), ()⟩, ⟨.send client message.reply, outcome⟩] = 0 := by
    rw [breachCount_receive rfl, if_neg]
    simp [breaches, decoded, Except.toOption, fits]
  have neutral : ∀ exchange ∈
      [(⟨.receive client router.clientBuffer.capacity, .ok received⟩ : Exchange),
        ⟨.log (message.request.notice client), ()⟩, ⟨.send client message.reply, outcome⟩],
      ∀ watched, exchange.nowWatched router.poller.descriptor watched = watched := by
    simp [Exchange.nowWatched]
  rcases ends with ⟨-, rfl, rfl⟩ | ⟨-, reason, removes⟩
  · exact accounts_of_staying neutral unbroken rfl (Registry.ids_grant client message.request)
  · refine accounts_of_removeClient consistent connected neutral removes rfl
      (Registry.remove_grant client message.request) ?_
    rw [unbroken]
    rfl

theorem accounts_of_handleClient (consistent : router.standing.Consistent)
    (connected : client ∈ router.registry.ids) (faithful : ∀ exchange ∈ trace, exchange.Faithful)
    (runs : (router.handleClient client).Runs trace after) : Accounts router trace after := by
  have found : router.registry.get? client = some ⟨client⟩ := consistent.get?_of_mem connected
  -- Whatever a client is read, it is watched until it is given up.
  have neutral : ∀ {answer : Attempt Received}, ∀ exchange ∈
      [(⟨.receive client router.clientBuffer.capacity, answer⟩ : Exchange)],
        ∀ watched, exchange.nowWatched router.poller.descriptor watched = watched := by
    simp [Exchange.nowWatched]
  have counted : ∀ answer : Attempt Received, breachCount router.clientBuffer.capacity
      [⟨.receive client router.clientBuffer.capacity, answer⟩]
        = if breaches router.clientBuffer.capacity answer then 1 else 0 :=
    fun _ => breachCount_receive rfl
  rcases runs_handleClient found runs with
    ⟨errno, rest, rfl, ⟨-, rfl, rfl⟩ | ⟨-, _, removes⟩⟩ | ⟨received, rest, rfl, ends⟩
  · exact accounts_of_staying neutral (counted _) rfl rfl
  · refine accounts_of_removeClient consistent connected neutral removes rfl rfl ?_
    rw [counted]
    rfl
  have stored : Exchange.Faithful
    ⟨.receive client router.clientBuffer.capacity, .ok received⟩ := faithful _ (List.mem_cons_self ..)
  rcases ends with ⟨ended, _, removes⟩ | ⟨more, oversized, _, removes⟩ | ⟨more, bytes, whole, answers⟩
  · refine accounts_of_removeClient consistent connected neutral removes rfl rfl ?_
    simp [counted, breaches, ended, withMessage]
  · refine accounts_of_removeClient consistent connected neutral removes rfl rfl ?_
    simp [counted, breaches, more, oversized, withMessage, withProtocolError]
  · have read : received.size ≤ router.clientBuffer.capacity ∧ received.stored = bytes := by
      rw [withMessage, slice?_store_received stored] at whole
      split at whole
      next fits => exact ⟨fits, Option.some.inj whole⟩
      next => cases whole
    rcases read with ⟨fits, rfl⟩
    have stillFound : (router.withMessage received).registry.get? client = some ⟨client⟩ := found
    rcases runs_answer stillFound answers with
      ⟨error, _, undecoded, removes⟩ | ⟨message, outcome, rest, decoded, rfl, ends⟩
    · refine accounts_of_removeClient consistent connected neutral removes rfl rfl ?_
      simp [counted, breaches, more, undecoded, withMessage, withProtocolError, Except.toOption]
    · exact accounts_of_message consistent connected fits decoded ends

theorem accounts_of_serveOne {event : Readiness} (consistent : router.standing.Consistent)
    (faithful : ∀ exchange ∈ trace, exchange.Faithful)
    (runs : (router.serveOne event).Runs trace after) : Accounts router trace after := by
  rcases runs_serveOne runs with
    ⟨connected, -, handles⟩ | ⟨connected, -, -, hangsUp⟩ | ⟨-, rfl, rfl⟩
  · exact accounts_of_handleClient consistent (Registry.mem_ids_iff.mpr connected) faithful handles
  · exact accounts_of_removeClient consistent (Registry.mem_ids_iff.mpr connected)
      (fun _ nothing => absurd nothing List.not_mem_nil) hangsUp rfl rfl rfl
  · exact accounts_of_staying (by simp) rfl rfl rfl

/-- All that serving does to the books is done to them in any order. -/
theorem accounts_of_serveClients (consistent : router.standing.Consistent)
    (others : ∀ event ∈ events, event.descriptor ≠ router.kernel)
    (faithful : ∀ exchange ∈ trace, exchange.Faithful)
    (runs : (router.serveClients events).Runs trace after) :
    Accounts router trace after ∧ ∀ number ∈ after.registry.ids, number ∈ router.registry.ids := by
  induction events generalizing router trace with
  | nil =>
    rcases runs with ⟨rfl, rfl⟩
    exact ⟨accounts_of_staying (by simp) rfl rfl rfl, fun _ connected => connected⟩
  | cons event events ih =>
    rcases runs_serveClients_cons consistent others runs with
      ⟨early, late, middle, rfl, serves, later, consistentNow, fixtures, othersNow⟩
    rw [List.forall_mem_append] at faithful
    have poller : middle.poller.descriptor = router.poller.descriptor :=
      congrArg Fixtures.poller fixtures
    have capacity : middle.clientBuffer.capacity = router.clientBuffer.capacity :=
      congrArg Fixtures.clientCapacity fixtures
    have subset := fun number => @Confined.mem_ids _ _ _ _ (confined_of_serveOne consistent serves) number
    have now := accounts_of_serveOne consistent faithful.1 serves
    rcases ih consistentNow othersNow faithful.2 later with ⟨rest, subsetLater⟩
    refine ⟨⟨?_, rest.balance.trans now.balance, ?_⟩, fun number stays =>
      subset number (subsetLater number stays)⟩
    · rw [rest.statistics, now.statistics, breachCount_append, capacity, ← Nat.add_assoc]
    · intro watched number
      rw [watchedAfter_append, ← poller, rest.watched, poller, now.watched, and_assoc]
      have kept := subset number
      have keptLater := subsetLater number
      tauto

end Router

end RadioRelay
