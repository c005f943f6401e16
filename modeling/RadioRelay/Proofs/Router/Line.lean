import RadioRelay.Proofs.Router.Delivery
import RadioRelay.Proofs.Router.Settling

/-!
# What passes over one connection

A router at work may be in the middle of a turn. Still, every acknowledgement
that it ever sent answers a message that it read on the same connection, and
every frame that it sent comes from the kernel and was asked for on that
connection. Once an address is registered, no frame of it is left out for as
long as the connection is open.
-/

namespace RadioRelay

/-! ### What is refused changes nothing -/

namespace Exchange.Refused

variable {exchange : Exchange} {client : ClientId} {kernel : Descriptor} {limit : Nat}
  {family : UInt16}

theorem elim {P : Exchange → Prop} (refused : exchange.Refused)
    (each : ∀ call : Call, P ⟨call, call.refusal⟩) : P exchange := by
  rcases exchange with ⟨call, answer⟩
  have same : answer = call.refusal := refused
  rw [same]
  exact each call

theorem faithful (refused : exchange.Refused) : exchange.Faithful := by
  apply refused.elim
  intro call
  cases call <;> trivial

theorem opens (refused : exchange.Refused) : exchange.opens = [] := by
  apply refused.elim
  intro call
  cases call <;> rfl

theorem message? (refused : exchange.Refused) : exchange.message? client limit = none := by
  apply refused.elim
  intro call
  cases call <;> rfl

theorem frame? (refused : exchange.Refused) : exchange.frame? kernel limit family = none := by
  apply refused.elim
  intro call
  cases call <;> rfl

end Exchange.Refused

theorem receive_of_message? {client : ClientId} {limit : Nat} {exchange : Exchange}
    {request : ClientMessage} (understood : exchange.message? client limit = some request) :
    ∃ capacity received, exchange = ⟨.receive client capacity, .ok received⟩
      ∧ received.size ≤ limit ∧ ClientMessage.decode received.stored = .ok request := by
  rcases Option.bind_eq_some_iff.mp understood with ⟨bytes, whole, decoded⟩
  unfold Exchange.whole? at whole
  split at whole
  next =>
    split at whole
    next fits =>
      rcases fits with ⟨rfl, fits⟩
      cases whole
      refine ⟨_, _, rfl, fits, ?_⟩
      rcases result : ClientMessage.decode _ with error | message
      all_goals
        rw [result] at decoded
        cases decoded
      rfl
    next => cases whole
  next => cases whole

/-- What is appended to a trace belongs to a tenure unless the tenure was over before. -/
theorem tenure_append (client : ClientId) (later rest : Trace) :
    ∃ more, tenure client (later ++ rest) = tenure client later ++ more ∧ more ⊆ rest := by
  unfold tenure
  rw [List.takeWhile_append]
  split
  next whole =>
    refine ⟨tenure client rest, ?_, List.takeWhile_subset _⟩
    rw [(List.takeWhile_prefix _).eq_of_length whole]
    rfl
  next => exact ⟨[], (List.append_nil _).symm, List.nil_subset _⟩

section Owing

variable {fixed : Fixtures} {client : ClientId} {before : Option (List MacAddress)}
  {trace : Trace} {delivery : Delivery}

theorem mem_account {exchange : Exchange} {macs : List MacAddress} {mac : MacAddress}
    (after : exchange.account fixed client before = some macs) (macMem : mac ∈ macs) :
    (∃ old, before = some old ∧ mac ∈ old)
      ∨ ∃ header, exchange.message? client fixed.clientCapacity = some ⟨header, .register mac⟩ := by
  unfold Exchange.account at after
  split at after
  · cases after
  · split at after
    next header registered read =>
      rcases Option.map_eq_some_iff.mp after with ⟨old, rfl, rfl⟩
      rcases List.mem_cons.mp macMem with rfl | known
      · exact Or.inr ⟨header, read⟩
      · exact Or.inl ⟨old, rfl, known⟩
    next => exact Or.inl ⟨macs, after, macMem⟩

/-- What a client is owed the kernel handed over, and the client asked for it. -/
theorem mem_owed (deliveryMem : delivery ∈ owed fixed client before trace) :
    (∃ exchange ∈ trace, exchange.frame? fixed.kernel fixed.kernelCapacity fixed.family
        = some ⟨delivery.mac, delivery.packet⟩)
      ∧ ((∃ macs, before = some macs ∧ delivery.mac ∈ macs)
        ∨ ∃ header : Header, ⟨header, .register delivery.mac⟩
          ∈ trace.filterMap (Exchange.message? client fixed.clientCapacity)) := by
  induction trace generalizing before with
  | nil => cases deliveryMem
  | cons exchange trace ih =>
    rcases List.mem_append.mp deliveryMem with now | later
    · unfold Exchange.owes at now
      split at now
      next macs transmitter frame heard =>
        split at now
        next deserved =>
          rcases List.mem_singleton.mp now with rfl
          exact ⟨⟨exchange, List.mem_cons_self .., heard⟩, Or.inl ⟨macs, rfl, deserved.2⟩⟩
        next => cases now
      next => cases now
    · rcases ih later with ⟨⟨heard, heardMem, frame⟩, ⟨macs, after, macMem⟩ | ⟨header, read⟩⟩
      · refine ⟨⟨heard, List.mem_cons_of_mem _ heardMem, frame⟩, ?_⟩
        rcases mem_account after macMem with known | ⟨header, read⟩
        · exact Or.inl known
        · refine Or.inr ⟨header, List.mem_filterMap.mpr ⟨exchange, List.mem_cons_self .., read⟩⟩
      · refine ⟨⟨heard, List.mem_cons_of_mem _ heardMem, frame⟩, Or.inr ⟨header, ?_⟩⟩
        rw [List.mem_filterMap] at read ⊢
        rcases read with ⟨reading, readingMem, read⟩
        exact ⟨reading, List.mem_cons_of_mem _ readingMem, read⟩

end Owing

section Forwarding

variable {fixed : Fixtures} {standing after first last : Standing} {trace history since : Trace}
  {client : ClientId} {opened : List Descriptor}

theorem datagram_of_heard (course : Course (Move fixed) first history last)
    (faithful : ∀ exchange ∈ history, exchange.Faithful) {exchange : Exchange}
    {notification : Notification} (exchangeMem : exchange ∈ history)
    (heard : exchange.frame? fixed.kernel fixed.kernelCapacity fixed.family = some notification) :
    exchange = ⟨.receive fixed.kernel fixed.kernelCapacity,
        .ok ⟨notification.frame.length, notification.frame⟩⟩
      ∧ Notification.decode? notification.frame fixed.family = some notification := by
  induction course with
  | start => cases exchangeMem
  | next _ move ih =>
    rw [List.forall_mem_append] at faithful
    rcases List.mem_append.mp exchangeMem with before | now
    · exact ih faithful.1 before
    · rcases move.hears_or faithful.2 with
        ⟨nothing, -⟩ | ⟨received, rest, other, rfl, -, silent, -⟩
      · rw [nothing exchange now] at heard
        cases heard
      · rcases List.mem_cons.mp now with rfl | later
        · have whole := faithful.2 _ (List.mem_cons_self ..)
          rcases received with ⟨size, stored⟩
          simp only [Exchange.frame?, Exchange.whole?, true_and] at heard
          split at heard
          next fits =>
            have same := Notification.frame_of_decode? heard
            have length : stored.length = min size fixed.kernelCapacity := whole
            rw [Nat.min_eq_left fits] at length
            rw [same, length]
            exact ⟨rfl, heard⟩
          next => cases heard
        · rw [silent exchange later] at heard
          cases heard

theorem Served.sends (served : Served fixed client standing since)
    (move : Move fixed standing trace after) (faithful : ∀ exchange ∈ trace, exchange.Faithful)
    {before later : Trace} {hearing : Exchange} {notification : Notification}
    (split : trace = before ++ hearing :: later)
    (heard : hearing.frame? fixed.kernel fixed.kernelCapacity fixed.family = some notification)
    (fits : notification.frame.length ≤ Attribute.maxPayload)
    (registered : ∃ macs, accountAfter fixed client (some []) (since ++ before) = some macs
      ∧ notification.transmitter ∈ macs) :
    ∃ message outcome, Delivery.encode ⟨notification.transmitter, notification.frame⟩ = .ok message
      ∧ ⟨.send client message, outcome⟩ ∈ later := by
  rcases move.hears_or faithful with
    ⟨nothing, -⟩ | ⟨received, more, other, rfl, heardFirst, silent, sent⟩
  · rw [nothing hearing (by simp [split])] at heard
    cases heard
  cases before with
  | nil =>
    cases split
    cases heardFirst.symm.trans heard
    rcases sent with ⟨-, error, tooLarge⟩ | ⟨message, sendings, leaving, encoded, addressed, rfl⟩
    · exact absurd fits (Nat.not_le.mpr (Delivery.unfit_of_encode tooLarge))
    rcases registered with ⟨macs, account, macMem⟩
    rw [List.append_nil] at account
    rcases served.tallies with ⟨-, known, same, subscribed⟩ | ⟨-, none⟩
    · cases account.symm.trans same
      have member := (subscribed _).mpr macMem
      rw [← addressed] at member
      rcases List.mem_map.mp member with ⟨sending, sendingMem, rfl⟩
      exact ⟨message, sending.2, encoded,
        List.mem_append_left _ (List.mem_map_of_mem sendingMem)⟩
    · cases account.symm.trans none
  | cons head rest =>
    -- Only the first call of a move can hear a frame.
    cases split
    rw [silent hearing (by simp)] at heard
    cases heard

/-- A frame of an address that a client registered is sent to the client when it is heard. -/
theorem sent_of_heard (course : Course (Move fixed) first history last)
    (secure : first.Secure fixed opened) (fresh : AcceptsFresh opened history)
    (faithful : ∀ exchange ∈ history, exchange.Faithful) (accepted : Since client history since)
    {before later : Trace} {hearing : Exchange} {notification : Notification}
    (split : since = before ++ hearing :: later)
    (heard : hearing.frame? fixed.kernel fixed.kernelCapacity fixed.family = some notification)
    (fits : notification.frame.length ≤ Attribute.maxPayload)
    (registered : ∃ macs, accountAfter fixed client (some []) before = some macs
      ∧ notification.transmitter ∈ macs) :
    ∃ message outcome, Delivery.encode ⟨notification.transmitter, notification.frame⟩ = .ok message
      ∧ ⟨.send client message, outcome⟩ ∈ later := by
  induction course generalizing since later with
  | start =>
    rcases accepted with ⟨_, _, nothing, -⟩
    simp at nothing
  | next earlier move ih =>
    rw [acceptsFresh_append] at fresh
    rw [List.forall_mem_append] at faithful
    -- The frame is heard in the last move, in an earlier one, or in the move that accepts the
    -- client. The last is impossible.
    rcases Since.of_append move accepted with ⟨old, acceptedBefore, parts, others⟩ | begins
    · rw [split] at parts
      rcases append_eq_append_cons parts.symm with ⟨rest, rfl, inner⟩ | ⟨rest, rfl, rfl⟩
      · have served := served_of_course earlier secure fresh.1 faithful.1 acceptedBefore
        exact served.sends move faithful.2 inner heard fits registered
      · rcases ih fresh.1 faithful.1 acceptedBefore rfl with ⟨message, outcome, encoded, sendingMem⟩
        exact ⟨message, outcome, encoded, List.mem_append_left _ sendingMem⟩
    · subst begins
      rcases move.hears_or faithful.2 with ⟨nothing, -⟩ | ⟨_, _, _, same, -⟩
      · rw [nothing hearing (by simp [split])] at heard
        cases heard
      · cases same

end Forwarding

section Tenures

variable {fixed : Fixtures} {first last : Standing} {history before later early late trace : Trace}
  {accepting : Exchange} {client : ClientId} {opened : List Descriptor}

theorem accepts_of_kept (fresh : AcceptsFresh opened trace) (isOpen : client ∈ opened)
    (kept : ∀ exchange ∈ trace, exchange.closes client = false) :
    ∀ exchange ∈ trace, exchange.accepts client = false := by
  induction trace generalizing opened with
  | nil => simp
  | cons exchange trace ih =>
    rw [List.forall_mem_cons] at kept ⊢
    refine ⟨fresh.1 client isOpen, ih fresh.2 ?_ kept.2⟩
    simp [Exchange.nowOpen, isOpen, kept.1]

theorem mem_nowOpen_of_accepts (accepts : accepting.accepts client = true) :
    client ∈ accepting.nowOpen opened := by
  unfold Exchange.accepts at accepts
  split at accepts
  · rcases of_decide_eq_true accepts with rfl
    simp [Exchange.nowOpen, Exchange.opens]
  · cases accepts

theorem ne_kernel_of_accepts (course : Course (Move fixed) first history last)
    (secure : first.Secure fixed opened) (fresh : AcceptsFresh opened history)
    (split : history = before ++ accepting :: later) (accepts : accepting.accepts client = true) :
    client ≠ fixed.kernel := by
  rcases course.before_accept split accepts with ⟨middle, earlier⟩
  rw [split, acceptsFresh_append] at fresh
  have secureBefore := secure_of_course earlier secure fresh.1
  rintro rfl
  rw [fresh.2.1 _ secureBefore.own_open.2.1] at accepts
  cases accepts

/-- A client is served from when it is accepted until its number is given to another one. -/
theorem served_of_tenure (course : Course (Move fixed) first history last)
    (secure : first.Secure fixed opened) (fresh : AcceptsFresh opened history)
    (faithful : ∀ exchange ∈ history, exchange.Faithful)
    (split : history = before ++ accepting :: later) (accepts : accepting.accepts client = true) :
    ∃ middle, Course (Move fixed) first (before ++ accepting :: tenure client later) middle
      ∧ Since client (before ++ accepting :: tenure client later) (tenure client later)
      ∧ AcceptsFresh opened (before ++ accepting :: tenure client later)
      ∧ (∀ exchange ∈ before ++ accepting :: tenure client later, exchange.Faithful)
      ∧ Served fixed client middle (tenure client later) := by
  rcases course.exists_since split accepts with ⟨middle, since, accepted, -⟩
  obtain ⟨rest, parts⟩ : tenure client later <+: later := List.takeWhile_prefix _
  have whole : history = (before ++ accepting :: tenure client later) ++ rest := by
    rw [split, List.append_assoc, List.cons_append, parts]
  rw [whole, acceptsFresh_append] at fresh
  rw [whole, List.forall_mem_append] at faithful
  exact ⟨middle, since, accepted, fresh.1, faithful.1,
    served_of_course since secure fresh.1 faithful.1 accepted⟩

/-- What a client is acknowledged is what was read from it, on the same connection. -/
theorem acknowledged_of_tenure (course : Course (Move fixed) first history last)
    (secure : first.Secure fixed opened) (fresh : AcceptsFresh opened history)
    (faithful : ∀ exchange ∈ history, exchange.Faithful)
    (split : history = before ++ accepting :: later) (accepts : accepting.accepts client = true) :
    (tenure client later).filterMap (Exchange.acknowledged? client)
      = ((tenure client later).filterMap (Exchange.message? client fixed.clientCapacity)).map
        ClientMessage.reply := by
  have other := ne_kernel_of_accepts course secure fresh split accepts
  rcases course.before_accept split accepts with ⟨_, earlier⟩
  rcases served_of_tenure course secure fresh faithful split accepts with
    ⟨_, since, -, -, faithfulSince, -⟩
  have whole := acknowledged_of_course since faithfulSince other
  rw [List.forall_mem_append] at faithfulSince
  have unsent : accepting.acknowledged? client = none
      ∧ accepting.message? client fixed.clientCapacity = none := by
    unfold Exchange.accepts at accepts
    split at accepts
    · exact ⟨rfl, rfl⟩
    · cases accepts
  rw [List.filterMap_append, List.filterMap_append, List.map_append,
    acknowledged_of_course earlier faithfulSince.1 other, List.append_cancel_left_eq,
    List.filterMap_cons_none unsent.1, List.filterMap_cons_none unsent.2] at whole
  exact whole

/-- An acknowledgement that a client is sent is the reply to a request of the client. -/
theorem request_of_sent (course : Course (Move fixed) first history last)
    (secure : first.Secure fixed opened) (fresh : AcceptsFresh opened history)
    (faithful : ∀ exchange ∈ history, exchange.Faithful)
    (split : history = before ++ accepting :: later) (accepts : accepting.accepts client = true)
    {message : Bytes} {outcome : Attempt Nat}
    (sent : ⟨.send client message, outcome⟩ ∈ tenure client later)
    (isAcknowledgement : (Acknowledgement.decode? message).isSome) :
    ∃ request : ClientMessage, message = request.reply ∧ request
      ∈ (tenure client later).filterMap (Exchange.message? client fixed.clientCapacity) := by
  have acknowledged := acknowledged_of_tenure course secure fresh faithful split accepts
  have messageMem : message ∈ (tenure client later).filterMap (Exchange.acknowledged? client) :=
    List.mem_filterMap.mpr ⟨_, sent, by
      simp [Exchange.acknowledged?, Exchange.sentTo?, Exchange.sent?, isAcknowledgement]⟩
  rw [acknowledged] at messageMem
  rcases List.mem_map.mp messageMem with ⟨request, requestMem, same⟩
  exact ⟨request, same.symm, requestMem⟩

/-- A frame that a client is sent was heard from the kernel, and the client asked for it. -/
theorem heard_of_sent (course : Course (Move fixed) first history last)
    (secure : first.Secure fixed opened) (fresh : AcceptsFresh opened history)
    (faithful : ∀ exchange ∈ history, exchange.Faithful)
    (split : history = before ++ accepting :: later) (accepts : accepting.accepts client = true)
    {message : Bytes} {outcome : Attempt Nat} {delivery : Delivery}
    (sent : ⟨.send client message, outcome⟩ ∈ tenure client later)
    (decoded : Delivery.decode message = .ok delivery) :
    (∃ hearing ∈ tenure client later,
        hearing.frame? fixed.kernel fixed.kernelCapacity fixed.family
          = some ⟨delivery.mac, delivery.packet⟩)
      ∧ ∃ header : Header, ⟨header, .register delivery.mac⟩
        ∈ (tenure client later).filterMap (Exchange.message? client fixed.clientCapacity) := by
  rcases served_of_tenure course secure fresh faithful split accepts with ⟨_, -, -, -, -, served⟩
  have messageMem : message ∈ (tenure client later).filterMap (Exchange.framed? client) :=
    List.mem_filterMap.mpr ⟨_, sent, by
      simp [Exchange.framed?, Exchange.sentTo?, Exchange.sent?, decoded, Except.isOk,
        Except.toBool]⟩
  have encodedMem := List.mem_map_of_mem (f := Except.ok (ε := ProtocolError)) messageMem
  rw [served.exact] at encodedMem
  rcases List.mem_map.mp encodedMem with ⟨due, dueMem, encoded⟩
  cases (Delivery.decode_of_encode encoded).symm.trans decoded
  rcases mem_owed dueMem with ⟨heard, ⟨macs, none, macMem⟩ | read⟩
  · cases none
    cases macMem
  · exact ⟨heard, read⟩

end Tenures

namespace Router

variable {start router : Router} {listener : Listener} {kernel : Descriptor}
  {options : RouterOptions} {created past history before later : Trace} {accepting : Exchange}
  {client : ClientId}

/-- Whatever a router at work has sent to a client comes from what it has read on the same
connection, and the frames among it come from the kernel. -/
theorem line_of_ongoing (puts : (create listener kernel options).run.Runs created (.ok start))
    (working : Ongoing Turn TurnBegun start past)
    (fresh : AcceptsFresh [listener.descriptor, kernel] (created ++ past))
    (faithful : ∀ exchange ∈ past, exchange.Faithful)
    (split : past = before ++ accepting :: later) (accepts : accepting.accepts client = true)
    {message : Bytes} {outcome : Attempt Nat}
    (sent : ⟨.send client message, outcome⟩ ∈ tenure client later) :
    ((Acknowledgement.decode? message).isSome → ∃ request : ClientMessage, message = request.reply
        ∧ request ∈ (tenure client later).filterMap
          (Exchange.message? client options.maxClientMessage))
      ∧ ∀ delivery, Delivery.decode message = .ok delivery →
        ⟨.receive kernel options.kernelBuffer, .ok ⟨delivery.packet.length, delivery.packet⟩⟩ ∈ past
          ∧ Notification.decode? delivery.packet options.family
            = some ⟨delivery.mac, delivery.packet⟩
          ∧ ∃ header : Header, ⟨header, .register delivery.mac⟩
            ∈ (tenure client later).filterMap
              (Exchange.message? client options.maxClientMessage) := by
  have secure := secure_create puts
  rcases runs_create puts with ⟨poller, wake, rfl, rfl⟩
  -- What is known of whole turns is used on the turns that end with `rest`. As `rest` is refused,
  -- it brings no message and no frame of its own.
  rcases turns_of_ongoing working with ⟨rest, last, turns, refused⟩
  have course := (moves_of_course (course_of_turns turns) consistent_assembled).2
  rw [acceptsFresh_append] at fresh
  have freshAll : AcceptsFresh _ (past ++ rest) :=
    acceptsFresh_append.mpr
      ⟨fresh.2, acceptsFresh_of_opens fun exchange restMem => (refused exchange restMem).opens⟩
  have faithfulAll : ∀ exchange ∈ past ++ rest, exchange.Faithful := by
    rw [List.forall_mem_append]
    exact ⟨faithful, fun exchange restMem => (refused exchange restMem).faithful⟩
  have splitAll : past ++ rest = before ++ accepting :: (later ++ rest) := by
    rw [split, List.append_assoc, List.cons_append]
  rcases tenure_append client later rest with ⟨more, whole, subset⟩
  have sentAll : ⟨.send client message, outcome⟩ ∈ tenure client (later ++ rest) := by
    rw [whole]
    exact List.mem_append_left _ sent
  have messages : (tenure client (later ++ rest)).filterMap
        (Exchange.message? client options.maxClientMessage)
      = (tenure client later).filterMap (Exchange.message? client options.maxClientMessage) := by
    rw [whole, List.filterMap_append, List.append_right_eq_self, List.filterMap_eq_nil_iff]
    exact fun exchange moreMem => (refused exchange (subset moreMem)).message?
  rw [← messages]
  constructor
  · exact request_of_sent course secure freshAll faithfulAll splitAll accepts sentAll
  · intro delivery decoded
    rcases heard_of_sent course secure freshAll faithfulAll splitAll accepts sentAll decoded with
      ⟨⟨hearing, hearingMem, heard⟩, read⟩
    have hearingPast : hearing ∈ past := by
      rw [whole, List.mem_append] at hearingMem
      rcases hearingMem with before | after
      · rw [split]
        exact List.mem_append_right _ (List.mem_cons_of_mem _ (List.takeWhile_subset _ before))
      · rw [(refused _ (subset after)).frame?] at heard
        cases heard
    rcases datagram_of_heard course faithfulAll (List.mem_append_left _ hearingPast) heard with
      ⟨rfl, decodedFrame⟩
    exact ⟨hearingPast, decodedFrame, read⟩

/-- After whole turns, every frame of a registered address that was heard while the client was
connected was sent to the client. -/
theorem sent_of_turns (puts : (create listener kernel options).run.Runs created (.ok start))
    (turns : Course Turn start history router)
    (fresh : AcceptsFresh [listener.descriptor, kernel] (created ++ history))
    (faithful : ∀ exchange ∈ history, exchange.Faithful)
    {early late : Trace} {hearing : Exchange} {notification : Notification}
    (split : history = before ++ accepting :: (early ++ hearing :: late))
    (accepts : accepting.accepts client = true)
    (kept : ∀ exchange ∈ early, exchange.closes client = false)
    (heard : hearing.frame? kernel options.kernelBuffer options.family = some notification)
    (fits : notification.frame.length ≤ Attribute.maxPayload)
    (registered : ∃ header : Header, ⟨header, .register notification.transmitter⟩
      ∈ early.filterMap (Exchange.message? client options.maxClientMessage)) :
    ∃ message outcome, Delivery.encode ⟨notification.transmitter, notification.frame⟩ = .ok message
      ∧ ⟨.send client message, outcome⟩ ∈ late := by
  have secure := secure_create puts
  rcases runs_create puts with ⟨poller, wake, rfl, rfl⟩
  have course := (moves_of_course (course_of_turns turns) consistent_assembled).2
  rw [acceptsFresh_append] at fresh
  have notAccepted : ∀ exchange ∈ early, exchange.accepts client = false := by
    have freshLater := fresh.2
    rw [split, acceptsFresh_append] at freshLater
    exact accepts_of_kept (acceptsFresh_append.mp freshLater.2.2).1
      (mem_nowOpen_of_accepts accepts) kept
  have hearingOther : hearing.accepts client = false := by
    unfold Exchange.accepts
    split
    · cases heard
    · rfl
  have whole : tenure client (early ++ hearing :: late) = early ++ hearing :: tenure client late := by
    unfold tenure
    rw [List.takeWhile_append_of_pos (by simpa using notAccepted), List.takeWhile_cons_of_pos]
    simp [hearingOther]
  rcases served_of_tenure course secure fresh.2 faithful split accepts with
    ⟨_, since, accepted, freshSince, faithfulSince, -⟩
  have asked : ∃ macs, accountAfter (assembled listener kernel options poller wake).fixtures client
      (some []) early = some macs ∧ notification.transmitter ∈ macs := by
    rcases mem_accountAfter kept with ⟨macs, account, mem_macs⟩
    exact ⟨macs, account, (mem_macs _).mpr (Or.inr registered)⟩
  rcases sent_of_heard since secure freshSince faithfulSince accepted whole heard fits asked with
    ⟨message, outcome, encoded, sent⟩
  exact ⟨message, outcome, encoded, List.takeWhile_subset _ sent⟩

end Router

end RadioRelay
