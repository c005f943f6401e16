import RadioRelay.Proofs.Router.Phases
import RadioRelay.Proofs.Wire.RoundTrip

/-!
# One answer for every message

A client that is served is answered once if it sent a message, and not at all
if it did not. A client that does not take its answer, or sends something that
is no message, is gone afterwards with all its subscriptions, as if it had never
been there. Nobody else notices anything of this.
-/

namespace RadioRelay

open Program

namespace Exchange

/-- The message that was sent to a client, and what became of it. -/
def sentTo? (client : ClientId) (exchange : Exchange) : Option (Bytes × Attempt Nat) :=
  exchange.sent?.bind fun (socket, sending) => if socket = client then some sending else none

def acknowledged? (client : ClientId) (exchange : Exchange) : Option Bytes :=
  (exchange.sentTo? client).bind fun (message, _) =>
    if (Acknowledgement.decode? message).isSome then some message else none

end Exchange

namespace Registry

variable {Connection : Type} {before after : Registry Connection} {client : ClientId}

/-- Two registries differ in one client at most. -/
structure AgreeApart (client : ClientId) (before after : Registry Connection) : Prop where
  connections : ∀ other, other ≠ client → after.get? other = before.get? other
  subscriptions : ∀ mac, (after.subscribers mac).filter (· ≠ client)
    = (before.subscribers mac).filter (· ≠ client)

theorem AgreeApart.refl : before.AgreeApart client before :=
  ⟨fun _ _ => rfl, fun _ => rfl⟩

theorem Sound.agreeApart_remove (sound : before.Sound) :
    before.AgreeApart client (before.remove client).2 := by
  constructor
  · intro other different
    rw [get?_remove, if_neg different]
  · intro mac
    rw [sound.subscribers_remove, List.filter_filter]
    simp

theorem agreeApart_grant {request : Request} :
    before.AgreeApart client (before.grant client request) := by
  constructor
  · intro other _
    exact get?_grant client other request
  · intro mac
    cases request with
    | register key =>
      simp only [grant, subscribers_register]
      split
      next added =>
        rcases added with ⟨-, rfl, -⟩
        simp
      next => rfl
    | missingMac => rfl
    | unrecognized => rfl

/-- Only a registration of an address adds a subscriber, and only under that address. -/
theorem subscribers_grant (connected : client ∈ before.ids) (request : Request)
    (key : MacAddress) :
    (before.grant client request).subscribers key =
      if request = .register key ∧ client ∉ before.subscribers key then
        before.subscribers key ++ [client]
      else before.subscribers key := by
  have known : before.contains client = true := mem_ids_iff.mp connected
  cases request with
  | register mac =>
    simp only [grant, subscribers_register, known, true_and, Request.register.injEq]
    by_cases same : key = mac
    · subst same
      simp
    · simp [same, Ne.symm same]
  | missingMac => simp [grant]
  | unrecognized => simp [grant]

end Registry

namespace Router

variable {router after start : Router} {trace history : Trace} {client : ClientId}

/-- The message in what a router just received from a client, if there is one. -/
def understood? (router : Router) (received : Received) : Option ClientMessage :=
  ((router.withMessage received).clientBuffer.slice? received.size).bind
    fun bytes => (ClientMessage.decode bytes).toOption

/-- The client is no longer there, nor any subscription of it. -/
structure Gone (client : ClientId) (violations : Nat) (before after : Router) : Prop where
  absent : client ∉ after.registry.ids
  unsubscribed : ∀ mac, client ∉ after.registry.subscribers mac
  statistics : after.statistics = { before.statistics with
    removed := before.statistics.removed + 1
    protocolErrors := before.statistics.protocolErrors + violations }

/-- A message is answered with a result. The answer is taken, or the client is gone. -/
structure Answered (client : ClientId) (message : ClientMessage) (result : Int32)
    (outcome : Attempt Nat) (before after : Router) : Prop where
  granted : result = 0 ↔ ∃ mac, message.request = .register mac
  refused : result ≠ 0 → result = -22
  stays : outcome = .ok (Acknowledgement.encode result message.header).length →
    after.registry.clients = before.registry.clients ∧ after.statistics = before.statistics
      ∧ ∀ mac, after.registry.subscribers mac =
        if message.request = .register mac ∧ client ∉ before.registry.subscribers mac then
          before.registry.subscribers mac ++ [client]
        else before.registry.subscribers mac
  leaves : outcome ≠ .ok (Acknowledgement.encode result message.header).length →
    Gone client 0 before after

/-- What follows on what a client's receive brought. -/
def Handled (client : ClientId) (before : Router) (answer : Attempt Received) (rest : Trace)
    (after : Router) : Prop :=
  match answer with
  | .error errno =>
    if errno.isTransient then rest = [] ∧ after = before
    else rest.filterMap Exchange.sent? = [] ∧ Gone client 0 before after
  | .ok received =>
    if received.size = 0 then rest.filterMap Exchange.sent? = [] ∧ Gone client 0 before after
    else
      match before.understood? received with
      | none => rest.filterMap Exchange.sent? = [] ∧ Gone client 1 before after
      | some message => ∃ result outcome,
        rest.filterMap Exchange.sent?
            = [(client, Acknowledgement.encode result message.header, outcome)]
          ∧ Answered client message result outcome before after

/-- Whoever is removed is gone, and nothing is sent. -/
theorem gone_of_removeClient {changed : Router} {reason : RemovalReason} (violations : Nat)
    (runs : (changed.removeClient client reason).Runs trace after)
    (sound : router.registry.Sound) (connected : client ∈ router.registry.ids)
    (registry : changed.registry.remove client = router.registry.remove client)
    (statistics : changed.statistics = { router.statistics with
      protocolErrors := router.statistics.protocolErrors + violations }) :
    trace.filterMap Exchange.sent? = [] ∧ Gone client violations router after
      ∧ after.registry = (router.registry.remove client).2 := by
  have found : changed.registry.get? client = router.registry.get? client :=
    congrArg Prod.fst registry
  have left := congrArg Prod.snd registry
  rcases runs_removeClient runs with ⟨absent, -, -⟩ | ⟨_, _, -, rfl, rfl⟩
  · rw [found, Registry.get?_eq_none_iff] at absent
    exact absurd connected absent
  · refine ⟨rfl, ⟨?_, ?_, ?_⟩, left⟩
    · simp [left, Registry.mem_ids_remove]
    · intro mac
      simp [left, sound.subscribers_remove]
    · simp [statistics]

theorem verdict_eq_zero_iff {request : Request} :
    request.verdict = 0 ↔ ∃ mac, request = .register mac := by
  cases request <;> simp [Request.verdict]

theorem verdict_eq_of_ne_zero {request : Request} (refused : request.verdict ≠ 0) :
    request.verdict = -22 := by
  cases request with
  | register mac => exact absurd rfl refused
  | missingMac => rfl
  | unrecognized => rfl

/-- A message is acknowledged once, and the client stays exactly if it takes the answer. -/
theorem answered_of_ends {received : Received} {message : ClientMessage} {outcome : Attempt Nat}
    (sound : router.registry.Sound) (connected : client ∈ router.registry.ids)
    (ends : (tookAll message.reply outcome = true ∧ trace = []
          ∧ after = { router.withMessage received with
            registry := router.registry.grant client message.request })
        ∨ (tookAll message.reply outcome = false
          ∧ ∃ reason, (removeClient { router.withMessage received with
            registry := router.registry.grant client message.request } client reason).Runs
              trace after)) :
    trace.filterMap Exchange.sent? = []
      ∧ Answered client message message.request.verdict outcome router after
      ∧ router.registry.AgreeApart client after.registry := by
  rcases ends with ⟨taken, rfl, rfl⟩ | ⟨refused, reason, removes⟩
  · refine ⟨rfl, ⟨verdict_eq_zero_iff, verdict_eq_of_ne_zero, ?_, ?_⟩, Registry.agreeApart_grant⟩
    · intro _
      refine ⟨?_, rfl, Registry.subscribers_grant connected message.request⟩
      cases message.request <;> simp [Registry.grant]
    · intro untaken
      exact absurd (tookAll_iff.mp taken) untaken
  · rcases gone_of_removeClient 0 removes sound connected
      (Registry.remove_grant client message.request) rfl with ⟨silent, gone, left⟩
    refine ⟨silent, ⟨verdict_eq_zero_iff, verdict_eq_of_ne_zero, ?_, fun _ => gone⟩, ?_⟩
    · intro taken
      have whole : tookAll message.reply outcome = true := tookAll_iff.mpr taken
      rw [whole] at refused
      cases refused
    · rw [left]
      exact sound.agreeApart_remove

theorem handled_of_runs (consistent : router.standing.Consistent)
    (connected : client ∈ router.registry.ids)
    (runs : (router.handleClient client).Runs trace after) :
    ∃ answer rest, trace = ⟨.receive client router.clientBuffer.capacity, answer⟩ :: rest
      ∧ Handled client router answer rest after
      ∧ router.registry.AgreeApart client after.registry := by
  have sound : router.registry.Sound := consistent.sound
  -- A client is removed in the same way for every reason, but for what is counted.
  have removed : ∀ {changed : Router} {reason : RemovalReason} (violations : Nat) {rest : Trace},
      (changed.removeClient client reason).Runs rest after →
      changed.registry = router.registry →
      changed.statistics = { router.statistics with
        protocolErrors := router.statistics.protocolErrors + violations } →
      (rest.filterMap Exchange.sent? = [] ∧ Gone client violations router after)
        ∧ router.registry.AgreeApart client after.registry := by
    intro changed reason violations rest removes registry statistics
    have same : changed.registry.remove client = router.registry.remove client := by rw [registry]
    rcases gone_of_removeClient violations removes sound connected same statistics with ⟨silent, gone, left⟩
    refine ⟨⟨silent, gone⟩, ?_⟩
    rw [left]
    exact sound.agreeApart_remove
  have found : router.registry.get? client = some ⟨client⟩ := consistent.get?_of_mem connected
  rcases runs_handleClient found runs with
    ⟨errno, rest, rfl, ⟨transient, rfl, rfl⟩ | ⟨lasting, _, removes⟩⟩ | ⟨received, rest, rfl, ends⟩
  · refine ⟨.error errno, [], rfl, ?_, .refl⟩
    simp [Handled, transient]
  · rcases removed 0 removes rfl rfl with ⟨gone, agree⟩
    refine ⟨.error errno, rest, rfl, ?_, agree⟩
    simpa [Handled, lasting] using gone
  refine ⟨.ok received, rest, rfl, ?_⟩
  rcases ends with ⟨ended, _, removes⟩ | ⟨more, oversized, _, removes⟩ | ⟨more, bytes, whole, answers⟩
  · rcases removed 0 removes rfl rfl with ⟨gone, agree⟩
    refine ⟨?_, agree⟩
    simpa [Handled, ended] using gone
  · have nothing : router.understood? received = none := by
      have beyond : (router.withMessage received).clientBuffer.slice? received.size = none :=
        Buffer.slice?_eq_none_iff.mpr oversized
      rw [understood?, beyond]
      rfl
    rcases removed 1 removes rfl rfl with ⟨gone, agree⟩
    refine ⟨?_, agree⟩
    simpa [Handled, more, nothing] using gone
  · have stillFound : (router.withMessage received).registry.get? client = some ⟨client⟩ := found
    rcases runs_answer stillFound answers with
      ⟨error, _, undecoded, removes⟩ | ⟨message, outcome, rest, decoded, rfl, ends⟩
    · have nothing : router.understood? received = none := by
        rw [understood?, whole, Option.bind_some, undecoded]
        rfl
      rcases removed 1 removes rfl rfl with ⟨gone, agree⟩
      refine ⟨?_, agree⟩
      simpa [Handled, more, nothing] using gone
    · have understood : router.understood? received = some message := by
        rw [understood?, whole, Option.bind_some, decoded]
        rfl
      rcases answered_of_ends sound connected ends with ⟨silent, answered, agree⟩
      refine ⟨?_, agree⟩
      simp only [Handled, if_neg more, understood]
      refine ⟨message.request.verdict, outcome, ?_, answered⟩
      simp only [List.filterMap_cons, Exchange.sent?, silent]
      rfl

end Router

section Acknowledgements

variable {fixed : Fixtures} {standing after first last : Standing} {trace history : Trace}
  {client : ClientId}

theorem Exchange.Quiet.sentTo? {exchange : Exchange} (quiet : exchange.Quiet fixed) :
    exchange.sentTo? client = none := by
  unfold Exchange.sentTo? Exchange.sent?
  split
  · cases quiet
  · rfl

theorem Exchange.Quiet.acknowledged? {exchange : Exchange} (quiet : exchange.Quiet fixed) :
    exchange.acknowledged? client = none := by
  rw [Exchange.acknowledged?, quiet.sentTo?]
  rfl

theorem Exchange.Quiet.message? {exchange : Exchange} (quiet : exchange.Quiet fixed)
    (faithful : exchange.Faithful) (other : client ≠ fixed.kernel) :
    exchange.message? client fixed.clientCapacity = none := by
  rcases exchange with ⟨call, answer⟩
  cases call with
  | receive source capacity =>
    cases answer with
    | error errno => rfl
    | ok received =>
      by_cases same : source = client
      · subst same
        have nothing := quiet faithful
        rw [if_neg other] at nothing
        exact nothing
      · simp [Exchange.message?, Exchange.whole?, same]
  | _ => rfl

theorem sentTo?_posted {message : Bytes} {sending : ClientId × Attempt Nat} :
    (posted message sending).sentTo? client =
      if sending.1 = client then some (message, sending.2) else none := rfl

theorem acknowledged?_posted {message : Bytes} {sending : ClientId × Attempt Nat} :
    (posted message sending).acknowledged? client =
      if sending.1 = client ∧ (Acknowledgement.decode? message).isSome then some message
      else none := by
  rw [Exchange.acknowledged?, sentTo?_posted]
  by_cases same : sending.1 = client
  · simp [same]
  · simp [same]

theorem acknowledged_eq_filterMap :
    trace.filterMap (Exchange.acknowledged? client)
      = (trace.filterMap (Exchange.sentTo? client)).filterMap
        fun (message, _) =>
          if (Acknowledgement.decode? message).isSome then some message else none :=
  (List.filterMap_filterMap ..).symm

theorem decode?_reply (message : ClientMessage) :
    (Acknowledgement.decode? message.reply).isSome = true := by
  rw [ClientMessage.reply, Acknowledgement.decode?_encode]
  rfl

theorem message?_of_ne {source : Descriptor} {limit capacity : Nat} {answer : Attempt Received}
    (different : source ≠ client) :
    Exchange.message? client limit ⟨.receive source capacity, answer⟩ = none := by
  cases answer with
  | error errno => rfl
  | ok received => simp [Exchange.message?, Exchange.whole?, different]

theorem messages_of_quiet (quiet : ∀ exchange ∈ trace, exchange.Quiet fixed)
    (faithful : ∀ exchange ∈ trace, exchange.Faithful) (other : client ≠ fixed.kernel) :
    trace.filterMap (Exchange.message? client fixed.clientCapacity) = [] := by
  apply List.filterMap_eq_nil_iff.mpr
  intro exchange exchangeMem
  exact (quiet exchange exchangeMem).message? (faithful exchange exchangeMem) other

theorem messages_of_read {sender : ClientId} {capacity : Nat} {received : Received}
    {message : ClientMessage} {notice : Notice} {reply : Bytes} {outcome : Attempt Nat}
    {rest : Trace}
    (read : Exchange.message? sender capacity ⟨.receive sender capacity, .ok received⟩
      = some message)
    (nothing : rest.filterMap (Exchange.message? client capacity) = []) :
    (⟨.receive sender capacity, .ok received⟩ :: ⟨.log notice, ()⟩
        :: posted reply (sender, outcome) :: rest).filterMap (Exchange.message? client capacity)
      = if sender = client then [message] else [] := by
  split
  next same =>
    subst same
    rw [List.filterMap_cons_some read, List.filterMap_cons_none rfl, List.filterMap_cons_none rfl,
      nothing]
  next different =>
    rw [List.filterMap_cons_none (message?_of_ne different), List.filterMap_cons_none rfl,
      List.filterMap_cons_none rfl, nothing]

theorem messages_of_forwarding {received : Received} {reason : RemovalReason} {message : Bytes}
    {sendings : List (ClientId × Attempt Nat)} {leaving : List (ClientId × Attempt Unit)}
    (other : client ≠ fixed.kernel) :
    (⟨.receive fixed.kernel fixed.kernelCapacity, .ok received⟩
        :: (sendings.map (posted message) ++ leaving.flatMap (farewell fixed reason))).filterMap
          (Exchange.message? client fixed.clientCapacity) = [] := by
  rw [List.filterMap_cons_none (message?_of_ne other.symm), List.filterMap_eq_nil_iff,
    forall_mem_forwarding]
  simp only [forall_mem_farewell]
  exact ⟨fun _ _ => rfl, fun _ _ => ⟨rfl, rfl, rfl⟩⟩

theorem sentTo_of_read {sender : ClientId} {capacity : Nat} {answer : Attempt Received}
    {notice : Notice} {reply : Bytes} {outcome : Attempt Nat} {rest : Trace}
    (silent : rest.filterMap (Exchange.sentTo? client) = []) :
    (⟨.receive sender capacity, answer⟩ :: ⟨.log notice, ()⟩
        :: posted reply (sender, outcome) :: rest).filterMap (Exchange.sentTo? client)
      = if sender = client then [(reply, outcome)] else [] := by
  have unsent : Exchange.sentTo? client ⟨.receive sender capacity, answer⟩ = none := rfl
  rw [List.filterMap_cons_none unsent, List.filterMap_cons_none rfl]
  split
  next same =>
    have sent : (posted reply (sender, outcome)).sentTo? client = some (reply, outcome) := by
      simp [sentTo?_posted, same]
    rw [List.filterMap_cons_some sent, silent]
  next different =>
    have unsent : (posted reply (sender, outcome)).sentTo? client = none := by
      simp [sentTo?_posted, different]
    rw [List.filterMap_cons_none unsent, silent]

theorem acknowledged_of_read {sender : ClientId} {capacity : Nat} {answer : Attempt Received}
    {message : ClientMessage} {notice : Notice} {outcome : Attempt Nat} {rest : Trace}
    (silent : rest.filterMap (Exchange.sentTo? client) = []) :
    (⟨.receive sender capacity, answer⟩ :: ⟨.log notice, ()⟩
        :: posted message.reply (sender, outcome) :: rest).filterMap (Exchange.acknowledged? client)
      = if sender = client then [message.reply] else [] := by
  rw [acknowledged_eq_filterMap, sentTo_of_read silent]
  split <;> simp [decode?_reply]

/-- A move acknowledges just the message of a client that it read. -/
theorem Move.acknowledged_eq (move : Move fixed standing trace after)
    (faithful : ∀ exchange ∈ trace, exchange.Faithful) (other : client ≠ fixed.kernel) :
    trace.filterMap (Exchange.acknowledged? client)
      = (trace.filterMap (Exchange.message? client fixed.clientCapacity)).map
        ClientMessage.reply := by
  cases move with
  | aside quiet =>
    rw [messages_of_quiet quiet faithful other, List.map_nil, List.filterMap_eq_nil_iff]
    exact fun exchange exchangeMem => (quiet exchange exchangeMem).acknowledged?
  | pauses | resumes | turnsAway | retires => rfl
  | admits =>
    unfold admission
    split <;> rfl
  | answers sender message connected _ understood =>
    rw [acknowledged_of_read rfl, messages_of_read (understood (faithful _ (List.mem_cons_self ..))) rfl]
    split <;> rfl
  | failsToAnswer sender message reason connected _ understood =>
    rw [acknowledged_of_read rfl, messages_of_read (understood (faithful _ (List.mem_cons_self ..))) rfl]
    split <;> rfl
  | withholds =>
    rw [List.filterMap_cons_none rfl, List.filterMap_cons_none (message?_of_ne other.symm)]
    rfl
  | forwards notification message sendings leaving heard encoded =>
    have noAcknowledgement := Delivery.acknowledgement_decode?_encode encoded
    rw [messages_of_forwarding other, List.map_nil, List.filterMap_cons_none rfl,
      List.filterMap_eq_nil_iff, forall_mem_forwarding]
    simp only [forall_mem_farewell]
    refine ⟨?_, fun _ _ => ⟨rfl, rfl, rfl⟩⟩
    intro sending _
    simp [acknowledged?_posted, noAcknowledgement]

theorem acknowledged_of_course (course : Course (Move fixed) first history last)
    (faithful : ∀ exchange ∈ history, exchange.Faithful) (other : client ≠ fixed.kernel) :
    history.filterMap (Exchange.acknowledged? client)
      = (history.filterMap (Exchange.message? client fixed.clientCapacity)).map
        ClientMessage.reply := by
  induction course with
  | start => rfl
  | next _ move ih =>
    rw [List.forall_mem_append] at faithful
    rw [List.filterMap_append, List.filterMap_append, List.map_append, ih faithful.1,
      move.acknowledged_eq faithful.2 other]

end Acknowledgements

namespace Router

variable {router after start : Router} {trace history : Trace} {client : ClientId}

theorem straight_removeClient (router : Router) (client : ClientId) (reason : RemovalReason) :
    (router.removeClient client reason).Straight := by
  simp only [removeClient, Registry.remove_fst]
  cases router.registry.get? client with
  | none => trivial
  | some connection => exact fun _ _ _ => trivial

theorem straight_acknowledge (router : Router) (client : ClientId) (result : Int32)
    (request : Header) : (router.acknowledge client result request).Straight := by
  unfold acknowledge
  dsimp only
  split
  · trivial
  · refine Straight.bind (fun _ => trivial) ?_
    rintro (errno | count)
    · exact straight_removeClient ..
    · dsimp only
      split
      · trivial
      · exact straight_removeClient ..

theorem straight_answer (router : Router) (client : ClientId) (bytes : Bytes) :
    (router.answer client bytes).Straight := by
  unfold answer
  split
  · exact straight_removeClient ..
  next message _ =>
    refine Straight.bind ?_ fun _ => straight_acknowledge ..
    cases message.request <;> exact fun _ => trivial

theorem straight_handleClient (router : Router) (client : ClientId) :
    (router.handleClient client).Straight := by
  unfold handleClient
  split
  · trivial
  · refine Straight.bind (fun _ => trivial) ?_
    rintro (errno | received)
    · dsimp only
      split
      · trivial
      · exact straight_removeClient ..
    · dsimp only
      split
      · exact straight_removeClient ..
      · split
        · exact straight_removeClient ..
        · exact straight_answer ..

/-- A connected client is served to the end, whatever its receive brings, and what comes of it
depends on that alone. All other clients stay as they are. The acknowledgements that were sent
so far answer the messages that were read, in order. -/
theorem handleClient_of_reachable {listener : Listener} {kernel : Descriptor}
    {options : RouterOptions} {created : Trace}
    (puts : (create listener kernel options).run.Runs created (.ok start))
    (stages : Course Stage start history router) (connected : client ∈ router.registry.ids) :
    (∀ script limit, ((router.handleClient client).rehearse script limit).1.isSome)
      ∧ (∀ trace after, (router.handleClient client).Runs trace after →
        (∃ answer rest, trace = ⟨.receive client options.maxClientMessage, answer⟩ :: rest
          ∧ Handled client router answer rest after)
        ∧ router.registry.AgreeApart client after.registry)
      ∧ (∀ received : Received,
        Exchange.Faithful ⟨.receive client options.maxClientMessage, .ok received⟩ →
        router.understood? received =
          if received.size ≤ options.maxClientMessage then
            (ClientMessage.decode received.stored).toOption
          else none)
      ∧ ((∀ exchange ∈ history, exchange.Faithful) → ∀ number, number ≠ kernel →
        history.filterMap (Exchange.acknowledged? number)
          = (history.filterMap (Exchange.message? number options.maxClientMessage)).map
            ClientMessage.reply) := by
  rcases runs_create puts with ⟨poller, wake, rfl, rfl⟩
  rcases moves_of_course stages consistent_assembled with ⟨consistent, course⟩
  have capacity : router.clientBuffer.capacity = options.maxClientMessage :=
    congrArg Fixtures.clientCapacity (fixtures_course stages)
  refine ⟨?_, ?_, ?_, ?_⟩
  · intro script limit
    exact (straight_handleClient router client).ends limit
  · intro trace after runs
    rcases handled_of_runs consistent connected runs with ⟨answer, rest, first, handled, agree⟩
    rw [capacity] at first
    exact ⟨⟨answer, rest, first, handled⟩, agree⟩
  · intro received faithful
    rw [← capacity] at faithful ⊢
    rw [understood?, withMessage, slice?_store_received faithful]
    split <;> rfl
  · intro faithful number other
    exact acknowledged_of_course course faithful other

/-- A client is accepted if somebody waits. It registers an address whenever it is served, and
takes all that it is sent. The kernel hands over frames of that address. -/
def chatting (ready : List Readiness) (past : Trace) : (call : Call) → call.Answer
  | .wait _ _ _ => .ok ⟨ready.length, ready⟩
  | .accept _ => if past.length = 1 then .ok ⟨7⟩ else .error .wouldBlock
  | .watch _ _ _ => .ok ()
  | .receive socket _ =>
    .ok ⟨32, if socket = ⟨7⟩ then Request.encodeRegister ⟨1, 2, 3, 4, 5, 6⟩ 1 9 else
      [32, 0, 0, 0, 28, 0, 0, 0, 0, 0, 0, 0, 0, 0, 0, 0, 2, 1, 0, 0, 10, 0, 2, 0, 1, 2, 3, 4, 5, 6,
        0, 0]⟩
  | .send _ message => .ok message.length
  | call => call.refusal

theorem vacant_ends : ((vacant.pollOnce (-1)).rehearse (chatting [⟨⟨3⟩, readable⟩]) 8).1.isSome := by
  decide +kernel

/-- The router after that client was accepted. -/
def greeted : Router :=
  (((vacant.pollOnce (-1)).rehearse (chatting [⟨⟨3⟩, readable⟩]) 8).1.get vacant_ends).2

theorem greeted_handles : ((greeted.handleClient ⟨7⟩).rehearse (chatting []) 0).1.isSome :=
  (straight_handleClient greeted ⟨7⟩).ends 0

theorem connected_greeted : (⟨7⟩ : ClientId) ∈ greeted.registry.ids := by decide +kernel

theorem handled_of_chatting : ∃ trace after, (greeted.handleClient ⟨7⟩).Runs trace after
    ∧ (∃ answer rest, trace = ⟨.receive ⟨7⟩ 4096, answer⟩ :: rest
      ∧ Handled ⟨7⟩ greeted answer rest after)
    ∧ after.registry.ids = [⟨7⟩] ∧ after.registry.subscribers ⟨1, 2, 3, 4, 5, 6⟩ = [⟨7⟩] := by
  have stages := course_of_turns (Course.single (turn_rehearse vacant_ends))
  have served := handleClient_of_reachable runs_create_assembled stages connected_greeted
  have runs := runs_rehearse greeted_handles
  exact ⟨_, _, runs, (served.2.1 _ _ runs).1, by decide +kernel, by decide +kernel⟩

end Router

end RadioRelay
