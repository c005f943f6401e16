import RadioRelay.Proofs.Router.Answering
import RadioRelay.Proofs.Router.Tenure

/-!
# What a client is sent

From what a client asked for and what the kernel handed over, one can tell which
frames a client is owed. The router sends it these frames, in this order, each
of them once, and nothing more once a send was not taken in full.
-/

namespace RadioRelay

namespace Exchange

def framed? (client : ClientId) (exchange : Exchange) : Option Bytes :=
  (exchange.sentTo? client).bind fun (message, _) =>
    if (Delivery.decode message).isOk then some message else none

/-- The addresses that a client registered. There are none any more when it is closed. -/
def account (fixed : Fixtures) (client : ClientId) (before : Option (List MacAddress))
    (exchange : Exchange) : Option (List MacAddress) :=
  if exchange.closes client then none
  else
    match exchange.message? client fixed.clientCapacity with
    | some ⟨_, .register mac⟩ => before.map (mac :: ·)
    | _ => before

/-- What a client with these addresses is owed for a datagram of the kernel. -/
def owes (fixed : Fixtures) (account : Option (List MacAddress)) (exchange : Exchange) :
    List Delivery :=
  match account, exchange.frame? fixed.kernel fixed.kernelCapacity fixed.family with
  | some macs, some ⟨transmitter, frame⟩ =>
    if frame.length ≤ Attribute.maxPayload ∧ transmitter ∈ macs then [⟨transmitter, frame⟩] else []
  | _, _ => []

end Exchange

/-- The addresses that a client registered after all that happened. -/
def accountAfter (fixed : Fixtures) (client : ClientId) (before : Option (List MacAddress))
    (trace : Trace) : Option (List MacAddress) :=
  trace.foldl (Exchange.account fixed client) before

/-- All that a client is owed, in order. -/
def owed (fixed : Fixtures) (client : ClientId) :
    Option (List MacAddress) → Trace → List Delivery
  | _, [] => []
  | before, exchange :: later =>
    exchange.owes fixed before ++ owed fixed client (exchange.account fixed client before) later

section Accounts

variable {fixed : Fixtures} {client : ClientId} {before : Option (List MacAddress)}
  {early late trace : Trace} {exchange : Exchange}

theorem accountAfter_append :
    accountAfter fixed client before (early ++ late)
      = accountAfter fixed client (accountAfter fixed client before early) late :=
  List.foldl_append

theorem owed_append :
    owed fixed client before (early ++ late)
      = owed fixed client before early
        ++ owed fixed client (accountAfter fixed client before early) late := by
  induction early generalizing before with
  | nil => rfl
  | cons exchange early ih =>
    rw [List.cons_append, owed, ih, ← List.append_assoc]
    rfl

theorem owed_of_unheard
    (unheard : ∀ exchange ∈ trace,
      exchange.frame? fixed.kernel fixed.kernelCapacity fixed.family = none) :
    owed fixed client before trace = [] := by
  induction trace generalizing before with
  | nil => rfl
  | cons exchange trace ih =>
    rw [List.forall_mem_cons] at unheard
    have nothing : exchange.owes fixed before = [] := by
      unfold Exchange.owes
      rw [unheard.1]
      cases before <;> rfl
    rw [owed, nothing, ih unheard.2]
    rfl

theorem owes_of_heard {notification : Notification}
    (heard : exchange.frame? fixed.kernel fixed.kernelCapacity fixed.family = some notification)
    (account : Option (List MacAddress)) :
    exchange.owes fixed account =
      if notification.frame.length ≤ Attribute.maxPayload
          ∧ ∃ macs, account = some macs ∧ notification.transmitter ∈ macs then
        [⟨notification.transmitter, notification.frame⟩]
      else [] := by
  unfold Exchange.owes
  rw [heard]
  cases account <;> simp

theorem account_none : exchange.account fixed client none = none := by
  unfold Exchange.account
  split
  · rfl
  · split <;> rfl

theorem accountAfter_none : accountAfter fixed client none trace = none := by
  induction trace with
  | nil => rfl
  | cons exchange trace ih =>
    change accountAfter fixed client (exchange.account fixed client none) trace = none
    rw [account_none, ih]

theorem accountAfter_of_closes (closes : ∃ exchange ∈ trace, exchange.closes client = true) :
    accountAfter fixed client before trace = none := by
  rcases closes with ⟨exchange, exchangeMem, closes⟩
  rcases List.append_of_mem exchangeMem with ⟨early, late, rfl⟩
  rw [accountAfter_append]
  change accountAfter fixed client (exchange.account fixed client _) late = none
  rw [Exchange.account, if_pos closes, accountAfter_none]

/-- A client that is not closed has the addresses it had and those it registered. -/
theorem mem_accountAfter {macs : List MacAddress}
    (kept : ∀ exchange ∈ trace, exchange.closes client = false) :
    ∃ registered, accountAfter fixed client (some macs) trace = some registered
      ∧ ∀ mac, mac ∈ registered ↔ mac ∈ macs ∨ ∃ header : Header,
        ⟨header, .register mac⟩ ∈ trace.filterMap (Exchange.message? client fixed.clientCapacity) := by
  induction trace generalizing macs with
  | nil => exact ⟨macs, rfl, by simp⟩
  | cons exchange trace ih =>
    rw [List.forall_mem_cons] at kept
    have now : exchange.account fixed client (some macs)
        = match exchange.message? client fixed.clientCapacity with
          | some ⟨_, .register mac⟩ => some (mac :: macs)
          | _ => some macs := by
      rw [Exchange.account, if_neg (by simp [kept.1])]
      rfl
    change ∃ registered, accountAfter fixed client (exchange.account fixed client (some macs)) trace
      = some registered ∧ _
    rw [now]
    cases read : exchange.message? client fixed.clientCapacity with
    | none =>
      rw [List.filterMap_cons_none read]
      exact ih kept.2
    | some message =>
      rw [List.filterMap_cons_some read]
      rcases message with ⟨header, request⟩
      cases request with
      | register mac =>
        rcases @ih (mac :: macs) kept.2 with ⟨registered, after, mem_registered⟩
        refine ⟨registered, after, ?_⟩
        intro other
        rw [mem_registered]
        simp only [List.mem_cons, ClientMessage.mk.injEq, Request.register.injEq, exists_or, or_assoc]
        simp [or_left_comm, eq_comm]
      | missingMac => simpa using ih kept.2
      | unrecognized => simpa using ih kept.2

end Accounts

section Sending

variable {fixed : Fixtures} {standing after : Standing} {trace : Trace} {client : ClientId}

theorem Exchange.Quiet.frame? {exchange : Exchange} (quiet : exchange.Quiet fixed)
    (faithful : exchange.Faithful) :
    exchange.frame? fixed.kernel fixed.kernelCapacity fixed.family = none := by
  rcases exchange with ⟨call, answer⟩
  cases call with
  | receive source capacity =>
    cases answer with
    | error errno => rfl
    | ok received =>
      by_cases same : source = fixed.kernel
      · have nothing := quiet faithful
        rw [if_pos same, same] at nothing
        rw [same]
        exact nothing
      · simp [Exchange.frame?, Exchange.whole?, same]
  | _ => rfl

theorem frame?_of_ne {source kernel : Descriptor} {limit capacity : Nat} {family : UInt16}
    {answer : Attempt Received} (different : source ≠ kernel) :
    Exchange.frame? kernel limit family ⟨.receive source capacity, answer⟩ = none := by
  cases answer with
  | error errno => rfl
  | ok received => simp [Exchange.frame?, Exchange.whole?, different]

theorem Exchange.Quiet.sent? {exchange : Exchange} (quiet : exchange.Quiet fixed) :
    exchange.sent? = none := by
  unfold Exchange.sent?
  split
  · cases quiet
  · rfl

theorem sentTo_eq_filterMap : trace.filterMap (Exchange.sentTo? client)
    = (trace.filterMap Exchange.sent?).filterMap
      fun (socket, sending) => if socket = client then some sending else none :=
  (List.filterMap_filterMap ..).symm

theorem framed_eq_filterMap :
    trace.filterMap (Exchange.framed? client)
      = (trace.filterMap (Exchange.sentTo? client)).filterMap
        fun (message, _) => if (Delivery.decode message).isOk then some message else none :=
  (List.filterMap_filterMap ..).symm

theorem decode_reply (message : ClientMessage) :
    (Delivery.decode message.reply).isOk = false := by
  have judged : message.request.verdict = 0 ∨ message.request.verdict = -22 := by
    cases message.request <;> simp [Request.verdict]
  rw [ClientMessage.reply, Acknowledgement.delivery_decode_encode judged]
  rfl

/-- Of the sends to different clients at most one goes to a given client. -/
theorem sentTo_sendings {message : Bytes} {sendings : List (ClientId × Attempt Nat)}
    (distinct : (sendings.map (·.1)).Nodup) :
    (client ∉ sendings.map (·.1)
        ∧ (sendings.map (posted message)).filterMap (Exchange.sentTo? client) = [])
      ∨ ∃ outcome, (client, outcome) ∈ sendings
        ∧ (sendings.map (posted message)).filterMap (Exchange.sentTo? client)
          = [(message, outcome)] := by
  induction sendings with
  | nil => exact Or.inl ⟨List.not_mem_nil, rfl⟩
  | cons sending sendings ih =>
    rcases sending with ⟨receiver, outcome⟩
    rw [List.map_cons, List.nodup_cons] at distinct
    rw [List.map_cons, List.map_cons]
    by_cases same : receiver = client
    · subst same
      have sent : (posted message (receiver, outcome)).sentTo? receiver
          = some (message, outcome) := by
        rw [sentTo?_posted, if_pos rfl]
      rcases ih distinct.2 with ⟨-, nothing⟩ | ⟨again, againMem, -⟩
      · refine Or.inr ⟨outcome, List.mem_cons_self .., ?_⟩
        rw [List.filterMap_cons_some sent, nothing]
      · exact absurd (List.mem_map_of_mem againMem) distinct.1
    · have unsent : (posted message (receiver, outcome)).sentTo? client = none := by
        rw [sentTo?_posted, if_neg same]
      rw [List.filterMap_cons_none unsent]
      rcases ih distinct.2 with ⟨absent, nothing⟩ | ⟨outcome, sendingMem, sent⟩
      · refine Or.inl ⟨?_, nothing⟩
        simpa [Ne.symm same] using absent
      · exact Or.inr ⟨outcome, List.mem_cons_of_mem _ sendingMem, sent⟩

theorem silent_refusal {fixed : Fixtures} {number : ClientId} {errno : Errno} :
    (refusal fixed number errno).filterMap (Exchange.sentTo? client) = [] := rfl

theorem silent_admission {fixed : Fixtures} {number : ClientId} {known : Bool} :
    (admission fixed number known).filterMap (Exchange.sentTo? client) = [] := by
  cases known <;> rfl

theorem sentTo_farewells {reason : RemovalReason} {leaving : List (ClientId × Attempt Unit)} :
    (leaving.flatMap (farewell fixed reason)).filterMap (Exchange.sentTo? client) = [] := by
  rw [List.filterMap_eq_nil_iff, List.forall_mem_flatMap]
  simp only [forall_mem_farewell]
  exact fun _ _ => ⟨rfl, rfl, rfl⟩

theorem frame?_of_forwarding {reason : RemovalReason} {message : Bytes}
    {sendings : List (ClientId × Attempt Nat)} {leaving : List (ClientId × Attempt Unit)} :
    ∀ exchange ∈ sendings.map (posted message) ++ leaving.flatMap (farewell fixed reason),
      exchange.frame? fixed.kernel fixed.kernelCapacity fixed.family = none := by
  rw [forall_mem_forwarding]
  simp only [forall_mem_farewell]
  exact ⟨fun _ _ => rfl, fun _ _ => ⟨rfl, rfl, rfl⟩⟩

end Sending

/-- What a client asked for is what it is subscribed to, as long as it is connected. -/
def Standing.Tallies (client : ClientId) (account : Option (List MacAddress))
    (standing : Standing) : Prop :=
  (client ∈ standing.registry.ids ∧ ∃ macs, account = some macs
      ∧ ∀ mac, client ∈ standing.registry.subscribers mac ↔ mac ∈ macs)
    ∨ (client ∉ standing.registry.ids ∧ account = none)

namespace Move

variable {fixed : Fixtures} {standing after : Standing} {trace : Trace} {client : ClientId}
  {account : Option (List MacAddress)} {opened : List Descriptor}

/-- A client that stays is subscribed to what it was subscribed to and to what it registered. -/
theorem mem_subscribers (move : Move fixed standing trace after) (consistent : standing.Consistent)
    (faithful : ∀ exchange ∈ trace, exchange.Faithful) (other : client ≠ fixed.kernel)
    (stays : client ∈ after.registry.ids) (mac : MacAddress) :
    client ∈ after.registry.subscribers mac ↔ client ∈ standing.registry.subscribers mac
      ∨ ∃ header : Header, ⟨header, .register mac⟩
        ∈ trace.filterMap (Exchange.message? client fixed.clientCapacity) := by
  cases move with
  | aside quiet => simp [messages_of_quiet quiet faithful other]
  | pauses | resumes | turnsAway => simp [refusal, Exchange.message?, Exchange.whole?]
  | admits => simp [admission, Exchange.message?, Exchange.whole?]
  | retires leaving =>
    have different : client ≠ leaving := (Registry.mem_ids_remove.mp stays).2
    simp [consistent.sound.subscribers_remove, different, farewell, Exchange.message?,
      Exchange.whole?]
  | answers sender message connected _ understood =>
    rw [messages_of_read (understood (faithful _ (List.mem_cons_self ..))) rfl,
      Registry.subscribers_grant connected]
    rcases message with ⟨header, request⟩
    by_cases same : sender = client
    · subst same
      by_cases asked : request = .register mac
      · by_cases known : sender ∈ standing.registry.subscribers mac <;> simp [asked, known]
      · simp [asked, Ne.symm asked]
    · rw [if_neg same]
      split <;> simp [Ne.symm same]
  | failsToAnswer sender message reason connected _ understood =>
    have different : client ≠ sender := (Registry.mem_ids_remove.mp stays).2
    rw [messages_of_read (understood (faithful _ (List.mem_cons_self ..))) rfl,
      Registry.remove_grant, consistent.sound.subscribers_remove, if_neg (Ne.symm different)]
    simp [different]
  | withholds => simp [List.filterMap_cons_none (message?_of_ne other.symm)]
  | forwards notification message sendings leaving heard encoded addressed dropped =>
    rw [messages_of_forwarding other]
    have stayed : client ∉ failing message sendings := by
      rw [Registry.ids_removeAll] at stays
      simpa using (List.mem_filter.mp stays).2
    simp [consistent.sound.subscribers_removeAll, stayed]

/-- A move sends a client one message at most, and none if it is not connected. -/
theorem sentTo_or (move : Move fixed standing trace after) (consistent : standing.Consistent)
    (client : ClientId) :
    trace.filterMap (Exchange.sentTo? client) = []
      ∨ client ∈ standing.registry.ids ∧ ∃ message outcome,
        trace.filterMap (Exchange.sentTo? client) = [(message, outcome)]
          ∧ (client ∈ after.registry.ids → tookAll message outcome = true) := by
  cases move with
  | aside quiet =>
    left
    rw [List.filterMap_eq_nil_iff]
    exact fun exchange exchangeMem => (quiet exchange exchangeMem).sentTo?
  | pauses | resumes | turnsAway | retires | withholds => exact Or.inl rfl
  | admits =>
    left
    unfold admission
    split <;> rfl
  | answers sender message connected _ _ taken =>
    rw [sentTo_of_read rfl]
    split
    next same =>
      subst same
      exact Or.inr ⟨connected, _, _, rfl, fun _ => taken⟩
    next => exact Or.inl rfl
  | failsToAnswer sender message reason connected =>
    rw [sentTo_of_read rfl]
    split
    next same =>
      subst same
      refine Or.inr ⟨connected, _, _, rfl, ?_⟩
      intro stays
      exact absurd rfl (Registry.mem_ids_remove.mp stays).2
    next => exact Or.inl rfl
  | forwards notification message sendings leaving heard encoded addressed dropped =>
    have distinct : (sendings.map (·.1)).Nodup := by
      rw [addressed]
      exact consistent.sound.nodup_subscribers _
    rw [List.filterMap_cons_none rfl, List.filterMap_append, sentTo_farewells, List.append_nil]
    rcases sentTo_sendings distinct with ⟨-, nothing⟩ | ⟨outcome, sendingMem, sent⟩
    · exact Or.inl nothing
    · have subscribed : client ∈ standing.registry.subscribers notification.transmitter := by
        rw [← addressed]
        exact List.mem_map_of_mem sendingMem
      refine Or.inr ⟨consistent.sound.mem_ids_of_mem_subscribers subscribed, _, _, sent, ?_⟩
      intro stays
      rw [Registry.ids_removeAll] at stays
      have stayed : client ∉ failing message sendings := by simpa using (List.mem_filter.mp stays).2
      by_contra refused
      apply stayed
      refine List.mem_map.mpr ⟨(client, outcome), ?_, rfl⟩
      simp [sendingMem, Bool.eq_false_iff.mpr refused]

theorem tallies (move : Move fixed standing trace after) (secure : standing.Secure fixed opened)
    (fresh : AcceptsFresh opened trace) (faithful : ∀ exchange ∈ trace, exchange.Faithful)
    (others : ∀ exchange ∈ trace, exchange.accepts client = false)
    (before : standing.Tallies client account) :
    after.Tallies client (accountAfter fixed client account trace) := by
  have closed := move.count_closes_of_others secure fresh others
  rcases before with ⟨connected, macs, rfl, subscribed⟩ | ⟨absent, rfl⟩
  · have other : client ≠ fixed.kernel := (secure.apart client connected).2.1
    by_cases stays : client ∈ after.registry.ids
    · have kept : ∀ exchange ∈ trace, exchange.closes client = false := by
        have none := closed.1
        rw [if_neg (fun left => left.2 stays), List.countP_eq_zero] at none
        simpa using none
      rcases mem_accountAfter kept with ⟨registered, sum, mem_registered⟩
      refine Or.inl ⟨stays, registered, sum, ?_⟩
      intro mac
      rw [mem_registered, ← subscribed]
      exact move.mem_subscribers secure.consistent faithful other stays mac
    · have once := closed.1
      rw [if_pos ⟨connected, stays⟩] at once
      have closes : 0 < trace.countP (·.closes client) := by omega
      exact Or.inr ⟨stays, accountAfter_of_closes (List.countP_pos_iff.mp closes)⟩
  · exact Or.inr ⟨fun connected => absent (closed.2 connected), accountAfter_none⟩

/-- A move hears a frame in its first call or not at all. If it hears none it sends one reply at
most. A frame that it hears is sent to all subscribers, unless it cannot be encoded. -/
theorem hears_or (move : Move fixed standing trace after)
    (faithful : ∀ exchange ∈ trace, exchange.Faithful) :
    ((∀ exchange ∈ trace,
          exchange.frame? fixed.kernel fixed.kernelCapacity fixed.family = none)
        ∧ (trace.filterMap Exchange.sent? = [] ∨ ∃ sender message outcome,
          trace.filterMap Exchange.sent? = [(sender, ClientMessage.reply message, outcome)]))
      ∨ ∃ received rest notification,
        trace = ⟨.receive fixed.kernel fixed.kernelCapacity, .ok received⟩ :: rest
        ∧ Exchange.frame? fixed.kernel fixed.kernelCapacity fixed.family
          ⟨.receive fixed.kernel fixed.kernelCapacity, .ok received⟩ = some notification
        ∧ (∀ exchange ∈ rest,
          exchange.frame? fixed.kernel fixed.kernelCapacity fixed.family = none)
        ∧ ((rest = [] ∧ ∃ error,
            Delivery.encode ⟨notification.transmitter, notification.frame⟩ = .error error)
          ∨ ∃ (message : Bytes) (sendings : List (ClientId × Attempt Nat))
              (leaving : List (ClientId × Attempt Unit)),
            Delivery.encode ⟨notification.transmitter, notification.frame⟩ = .ok message
            ∧ sendings.map (·.1) = standing.registry.subscribers notification.transmitter
            ∧ rest = sendings.map (posted message)
              ++ leaving.flatMap (farewell fixed .deliveryFailed)) := by
  cases move with
  | aside quiet =>
    refine Or.inl ⟨fun exchange exchangeMem =>
      (quiet exchange exchangeMem).frame? (faithful exchange exchangeMem), Or.inl ?_⟩
    rw [List.filterMap_eq_nil_iff]
    exact fun exchange exchangeMem => (quiet exchange exchangeMem).sent?
  | pauses | resumes | turnsAway | retires =>
    refine Or.inl ⟨?_, Or.inl rfl⟩
    simp [refusal, farewell, Exchange.frame?, Exchange.whole?]
  | admits =>
    left
    unfold admission
    split
    all_goals exact ⟨by simp [Exchange.frame?, Exchange.whole?], Or.inl rfl⟩
  | answers sender message _ other =>
    refine Or.inl ⟨?_, Or.inr ⟨sender, message, _, rfl⟩⟩
    simp only [List.forall_mem_cons, frame?_of_ne other]
    simp [posted, Exchange.frame?, Exchange.whole?]
  | failsToAnswer sender message _ _ other =>
    refine Or.inl ⟨?_, Or.inr ⟨sender, message, _, rfl⟩⟩
    simp only [List.forall_mem_cons, frame?_of_ne other, forall_mem_farewell]
    simp [posted, Exchange.frame?, Exchange.whole?]
  | withholds notification heard tooLarge =>
    exact Or.inr ⟨_, [], notification, rfl, heard (faithful _ (List.mem_cons_self ..)),
      List.forall_mem_nil _, Or.inl ⟨rfl, _, tooLarge⟩⟩
  | forwards notification message sendings leaving heard encoded addressed _ =>
    exact Or.inr ⟨_, _, notification, rfl, heard (faithful _ (List.mem_cons_self ..)),
      frame?_of_forwarding, Or.inr ⟨message, sendings, leaving, encoded, addressed, rfl⟩⟩

/-- The frames that a move sends a client are those that the client is owed. -/
theorem framed_eq (move : Move fixed standing trace after) (consistent : standing.Consistent)
    (faithful : ∀ exchange ∈ trace, exchange.Faithful)
    (before : standing.Tallies client account) :
    (trace.filterMap (Exchange.framed? client)).map .ok
      = (owed fixed client account trace).map Delivery.encode := by
  rcases move.hears_or faithful with
    ⟨unheard, sent⟩ | ⟨received, rest, notification, rfl, heard, unheard, sent⟩
  · have unframed : trace.filterMap (Exchange.framed? client) = [] := by
      rw [framed_eq_filterMap, sentTo_eq_filterMap]
      rcases sent with nothing | ⟨sender, message, outcome, replied⟩
      · rw [nothing]
        rfl
      · rw [replied]
        by_cases same : sender = client <;> simp [same, decode_reply]
    rw [unframed, owed_of_unheard unheard]
    rfl
  rw [owed, owes_of_heard heard, owed_of_unheard unheard, List.append_nil, framed_eq_filterMap,
    List.filterMap_cons_none rfl]
  rcases sent with ⟨rfl, error, tooLarge⟩ | ⟨message, sendings, leaving, encoded, addressed, rfl⟩
  · have unfit := Nat.not_le.mpr (Delivery.unfit_of_encode tooLarge)
    rw [if_neg (fun deserved => unfit deserved.1)]
    rfl
  · have fits := Delivery.fits_of_encode encoded
    have distinct : (sendings.map (·.1)).Nodup := by
      rw [addressed]
      exact consistent.sound.nodup_subscribers _
    have subscribed : client ∈ sendings.map (·.1) ↔ ∃ macs, account = some macs
        ∧ notification.transmitter ∈ macs := by
      rw [addressed]
      rcases before with ⟨-, macs, rfl, iff⟩ | ⟨absent, rfl⟩
      · simp [iff]
      · simp only [reduceCtorEq, false_and, exists_false, iff_false]
        exact fun known => absent (consistent.sound.mem_ids_of_mem_subscribers known)
    rw [List.filterMap_append, sentTo_farewells, List.append_nil]
    rcases sentTo_sendings distinct with ⟨unaddressed, nothing⟩ | ⟨outcome, sendingMem, sent⟩
    · rw [nothing, if_neg (fun deserved => unaddressed (subscribed.mpr deserved.2))]
      rfl
    · have decoded := Delivery.decode_of_encode encoded
      rw [sent, if_pos ⟨fits, subscribed.mp (List.mem_map_of_mem sendingMem)⟩]
      simp [decoded, encoded, Except.isOk, Except.toBool]

end Move

/-- A client was sent what it is owed, and took all of it while it is connected. -/
structure Served (fixed : Fixtures) (client : ClientId) (standing : Standing) (since : Trace) :
    Prop where
  tallies : standing.Tallies client (accountAfter fixed client (some []) since)
  exact : (since.filterMap (Exchange.framed? client)).map .ok
    = (owed fixed client (some []) since).map Delivery.encode
  taken : client ∈ standing.registry.ids →
    ∀ sending ∈ since.filterMap (Exchange.sentTo? client), tookAll sending.1 sending.2 = true
  taken_but_last : ∀ sending ∈ (since.filterMap (Exchange.sentTo? client)).dropLast,
    tookAll sending.1 sending.2 = true

section Serving

variable {fixed : Fixtures} {standing after first last : Standing} {trace since history : Trace}
  {client : ClientId} {opened : List Descriptor}

theorem served_of_accept
    (move : Move fixed standing (⟨.accept fixed.listener, .ok client⟩ :: since) after)
    (secure : standing.Secure fixed opened)
    (fresh : AcceptsFresh opened (⟨.accept fixed.listener, .ok client⟩ :: since)) :
    Served fixed client after since := by
  have absent := secure.absent fresh.not_mem
  have unknown := secure.unknown fresh.not_mem
  rcases move.opens_or with nothing | ⟨number, errno, head, rfl⟩ | ⟨number, head, rfl⟩
  · simp [Exchange.opens] at nothing
  · cases head
    have unheard : ∀ exchange ∈ refusal fixed client errno,
        exchange.frame? fixed.kernel fixed.kernelCapacity fixed.family = none := by
      simp [refusal, Exchange.frame?, Exchange.whole?]
    refine ⟨Or.inr ⟨absent, ?_⟩, ?_, fun _ => by simp [silent_refusal], by simp [silent_refusal]⟩
    · exact accountAfter_of_closes ⟨⟨.close client, ()⟩, by simp [refusal], by simp [Exchange.closes]⟩
    · rw [framed_eq_filterMap, silent_refusal, owed_of_unheard unheard]
      rfl
  · cases head
    rw [unknown]
    have unsubscribed : ∀ mac, client ∉ standing.registry.subscribers mac := by
      intro mac known
      exact absent (secure.consistent.sound.mem_ids_of_mem_subscribers known)
    have unheard : ∀ exchange ∈ admission fixed client false,
        exchange.frame? fixed.kernel fixed.kernelCapacity fixed.family = none := by
      simp [admission, Exchange.frame?, Exchange.whole?]
    refine ⟨Or.inl ⟨?_, [], rfl, ?_⟩, ?_, fun _ => by simp [silent_admission],
      by simp [silent_admission]⟩
    · simp [Registry.ids_add, absent]
    · simpa using unsubscribed
    · rw [framed_eq_filterMap, silent_admission, owed_of_unheard unheard]
      rfl

theorem Served.append (move : Move fixed standing trace after)
    (secure : standing.Secure fixed opened) (fresh : AcceptsFresh opened trace)
    (faithful : ∀ exchange ∈ trace, exchange.Faithful)
    (others : ∀ exchange ∈ trace, exchange.accepts client = false)
    (served : Served fixed client standing since) : Served fixed client after (since ++ trace) := by
  have stays := (move.count_closes_of_others secure fresh others).2
  refine ⟨?_, ?_, ?_, ?_⟩
  · rw [accountAfter_append]
    exact move.tallies secure fresh faithful others served.tallies
  · rw [List.filterMap_append, List.map_append, owed_append, List.map_append, served.exact,
      move.framed_eq secure.consistent faithful served.tallies]
  · intro connected
    rw [List.filterMap_append, List.forall_mem_append]
    refine ⟨served.taken (stays connected), ?_⟩
    rcases move.sentTo_or secure.consistent client with
      nothing | ⟨-, message, outcome, sent, taken⟩
    · simp [nothing]
    · simp [sent, taken connected]
  · rw [List.filterMap_append]
    rcases move.sentTo_or secure.consistent client with
      nothing | ⟨connected, message, outcome, sent, -⟩
    · rw [nothing, List.append_nil]
      exact served.taken_but_last
    · rw [sent, List.dropLast_concat]
      exact served.taken connected

theorem served_of_course (course : Course (Move fixed) first history last)
    (secure : first.Secure fixed opened) (fresh : AcceptsFresh opened history)
    (faithful : ∀ exchange ∈ history, exchange.Faithful) (accepted : Since client history since) :
    Served fixed client last since := by
  induction course generalizing since with
  | start =>
    rcases accepted with ⟨before, _, split, -⟩
    simp at split
  | next earlier move ih =>
    rw [acceptsFresh_append] at fresh
    rw [List.forall_mem_append] at faithful
    have secureNow := secure_of_course earlier secure fresh.1
    rcases Since.of_append move accepted with ⟨old, acceptedBefore, rfl, others⟩ | rfl
    · exact (ih fresh.1 faithful.1 acceptedBefore).append move secureNow fresh.2 faithful.2 others
    · exact served_of_accept move secureNow fresh.2

/-- Whoever does not take a message is gone when nobody was accepted meanwhile. -/
theorem absent_of_untaken {message : Bytes} {outcome : Attempt Nat}
    (course : Course (Move fixed) first trace last) (consistent : first.Consistent)
    (nothing : ∀ exchange ∈ trace, exchange.opens = [])
    (sent : ⟨.send client message, outcome⟩ ∈ trace) (refused : tookAll message outcome = false) :
    client ∉ last.registry.ids := by
  induction course with
  | start => cases sent
  | @next past trace state after earlier move ih =>
    rw [List.forall_mem_append] at nothing
    rcases List.mem_append.mp sent with sentBefore | sentNow
    · intro connected
      exact ih nothing.1 sentBefore (move.ids_subset nothing.2 client connected)
    · have consistentNow : state.Consistent :=
        earlier.preserves (fun _ _ _ before move => move.consistent before) consistent
      have sendingMem : (message, outcome) ∈ trace.filterMap (Exchange.sentTo? client) :=
        List.mem_filterMap.mpr ⟨_, sentNow, by simp [Exchange.sentTo?, Exchange.sent?]⟩
      intro connected
      rcases move.sentTo_or consistentNow client with silent | ⟨-, _, _, only, taken⟩
      · rw [silent] at sendingMem
        cases sendingMem
      · rw [only, List.mem_singleton] at sendingMem
        cases sendingMem
        rw [taken connected] at refused
        cases refused

end Serving

namespace Router

variable {start router middle : Router} {history earlier turn : Trace}

/-- Every client that is ever accepted is sent the frames it is owed, in the order in which the
kernel handed them over, and takes all messages but perhaps the last one. A client that does not
take a message is gone when the turn is over. -/
theorem deliveries_of_turns {listener : Listener} {kernel : Descriptor} {options : RouterOptions}
    {created : Trace} (puts : (create listener kernel options).run.Runs created (.ok start))
    (turns : Course Turn start history router)
    (fresh : AcceptsFresh [listener.descriptor, kernel] (created ++ history))
    (faithful : ∀ exchange ∈ history, exchange.Faithful) :
    (∀ client before accepting later, history = before ++ accepting :: later →
        accepting.accepts client = true →
        ((tenure client later).filterMap (Exchange.framed? client)).map .ok
            = (owed start.fixtures client (some []) (tenure client later)).map Delivery.encode
          ∧ ∀ sending ∈ ((tenure client later).filterMap (Exchange.sentTo? client)).dropLast,
            tookAll sending.1 sending.2 = true)
      ∧ ∀ middle earlier turn, Course Turn start earlier middle → Turn middle turn router →
        ∀ client message outcome, ⟨.send client message, outcome⟩ ∈ turn →
          tookAll message outcome = false → client ∉ router.registry.ids := by
  have secureFirst := secure_create puts
  rcases runs_create puts with ⟨poller, wake, rfl, rfl⟩
  have course := (moves_of_course (course_of_turns turns) consistent_assembled).2
  rw [acceptsFresh_append] at fresh
  constructor
  · intro client before accepting later split accepts
    rcases course.exists_since split accepts with ⟨_, since, accepted, parts⟩
    have whole : ∃ rest, history = (before ++ accepting :: tenure client later) ++ rest := by
      rcases parts with ⟨all, -⟩ | ⟨again, rest, parts, -⟩
      · exact ⟨[], by rw [all, List.append_nil, split]⟩
      · exact ⟨again :: rest, by rw [List.append_assoc, List.cons_append, ← parts, split]⟩
    rcases whole with ⟨rest, whole⟩
    rw [whole, acceptsFresh_append] at fresh
    rw [whole, List.forall_mem_append] at faithful
    have served := served_of_course since secureFirst fresh.2.1 faithful.1 accepted
    exact ⟨served.exact, served.taken_but_last⟩
  · intro middle earlier turn earlierTurns lastTurn client message outcome sent refused
    have consistent := (moves_of_course (course_of_turns earlierTurns) consistent_assembled).1
    rcases lastTurn with ⟨_, _, runs⟩
    rcases halved_of_pollOnce runs with ⟨first, last, between, rfl, opening, serving, unsent, nothing⟩
    rcases moves_of_course opening consistent with ⟨consistentBetween, -⟩
    rcases List.mem_append.mp sent with sentEarly | sentLate
    · cases unsent _ sentEarly
    · exact absent_of_untaken (moves_of_course serving consistentBetween).2 consistentBetween
        nothing sentLate refused

theorem greeted_ends :
    ((greeted.pollOnce (-1)).rehearse (chatting [⟨⟨7⟩, readable⟩]) 8).1.isSome := by
  decide +kernel

def subscribed : Router :=
  (((greeted.pollOnce (-1)).rehearse (chatting [⟨⟨7⟩, readable⟩]) 8).1.get greeted_ends).2

theorem subscribed_ends :
    ((subscribed.pollOnce (-1)).rehearse (chatting [⟨⟨4⟩, readable⟩]) 8).1.isSome := by
  decide +kernel

/-- The turns in which a client is accepted, registers an address, and is sent a frame. -/
def chat : Trace :=
  ((vacant.pollOnce (-1)).rehearse (chatting [⟨⟨3⟩, readable⟩]) 8).2
    ++ ((greeted.pollOnce (-1)).rehearse (chatting [⟨⟨7⟩, readable⟩]) 8).2
    ++ ((subscribed.pollOnce (-1)).rehearse (chatting [⟨⟨4⟩, readable⟩]) 8).2

theorem chat_turns : ∃ router, Course Turn vacant chat router :=
  ⟨_, ((Course.single (turn_rehearse vacant_ends)).next (turn_rehearse greeted_ends)).next
    (turn_rehearse subscribed_ends)⟩

theorem deliveries_of_chat : ∃ later,
    ((tenure ⟨7⟩ later).filterMap (Exchange.framed? ⟨7⟩)).map .ok
        = (owed vacant.fixtures ⟨7⟩ (some []) (tenure ⟨7⟩ later)).map Delivery.encode
      ∧ (owed vacant.fixtures ⟨7⟩ (some []) (tenure ⟨7⟩ later)).map (·.mac)
        = [⟨1, 2, 3, 4, 5, 6⟩] := by
  rcases chat_turns with ⟨router, turns⟩
  rcases eq_append_of_accepts ⟨7⟩ chat (by decide +kernel) with
    ⟨accepting, accepts, split⟩
  have delivered := deliveries_of_turns runs_create_assembled turns (by decide +kernel)
    (by decide +kernel)
  exact ⟨_, (delivered.1 _ _ _ _ split accepts).1, by decide +kernel⟩

end Router

end RadioRelay
