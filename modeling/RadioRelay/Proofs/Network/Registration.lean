import RadioRelay.Proofs.Network.Composition

/-!
# Registration from end to end

When a registration succeeds, the router has read that very request and has
acknowledged it on the client's own connection. From then on every frame of the
address is sent to the client for as long as it is connected. And a client is
handed nothing but what it asked for: datagrams of the kernel, whole, whose
transmitter it registered before.
-/

namespace RadioRelay.Network

theorem fresh_client {ι : Type} (network : Network ι) (name : ι) :
    (network.client name).sequence = 0 ∧ (network.client name).pending = [] := by
  rcases network.connects name with ⟨path, trace, connects⟩
  rcases Client.runs_connect connects with ⟨sequence, pending, -⟩
  exact ⟨sequence, pending⟩

theorem fresh_created {ι : Type} (network : Network ι) :
    AcceptsFresh [network.listener.descriptor, network.kernel] network.created := by
  rcases Router.runs_create network.puts with ⟨poller, wake, made, -⟩
  rw [made]
  simp [Router.assembly, AcceptsFresh, Exchange.accepts]

variable {ι : Type} [DecidableEq ι] {network : Network ι} {name : ι} {events : List (Event ι)}

/-- The router has read the registration on the client's connection and has acknowledged it. -/
structure Granted (network : Network ι) (name : ι) (events : List (Event ι)) (mac : MacAddress)
    (sequence port : UInt32) : Prop where
  read : ∃ capacity, ⟨.receive (network.number name) capacity,
      .ok ⟨(Request.encodeRegister mac sequence port).length,
        Request.encodeRegister mac sequence port⟩⟩ ∈ network.life name events
  fits : (Request.encodeRegister mac sequence port).length ≤ network.options.maxClientMessage
  acknowledged : ⟨.send (network.number name)
        (Acknowledgement.encode 0 (Draft.registration mac sequence port).header),
      .ok (Acknowledgement.encode 0 (Draft.registration mac sequence port).header).length⟩
    ∈ network.life name events

/-- Whatever happens later, all frames of an address that the router hears are sent to the client
for as long as the client's number is not closed. -/
def Forwards (network : Network ι) (name : ι) (events : List (Event ι)) (mac : MacAddress) : Prop :=
  ∀ later router, network.Composed (events ++ later) →
    Course Router.Turn network.router (routerTrace (events ++ later)) router →
    ∀ before packet after,
      routerTrace later = before ++ ⟨.receive network.kernel network.options.kernelBuffer,
        .ok ⟨packet.length, packet⟩⟩ :: after →
      packet.length ≤ network.options.kernelBuffer → packet.length ≤ Attribute.maxPayload →
      Notification.decode? packet network.options.family = some ⟨mac, packet⟩ →
      (∀ exchange ∈ (routerTrace events).drop (network.place name + 1) ++ before,
        exchange.closes (network.number name) = false) →
      ∃ message outcome, Delivery.encode ⟨mac, packet⟩ = .ok message
        ∧ ⟨.send (network.number name) message, outcome⟩ ∈ after

section Messages

variable {trace : Trace} {message : Bytes} {station : Station}

/-- What a client read the router has sent to it. -/
theorem Sound.sent_of_read (sound : network.Sound events)
    (read : (network.client name).Read (clientTrace name events) message) :
    ⟨.send (network.number name) message, .ok message.length⟩ ∈ network.life name events := by
  rcases read with ⟨received, buffer, receivedMem, more, capacity, whole⟩
  have arrived : ((network.client name).buffer.capacity, received)
      ∈ (clientTrace name events).filterMap (Exchange.arrived? (network.own name)) :=
    List.mem_filterMap.mpr ⟨_, receivedMem, by simp [Exchange.arrived?, own, more]⟩
  rcases (sound.toClient name).exists_mailed arrived with ⟨sent, sentMem, brought⟩
  have same : received = ⟨sent.length, sent.take (network.client name).buffer.capacity⟩ := brought
  subst same
  have fits : sent.length ≤ buffer.capacity := by
    by_contra beyond
    rw [Buffer.slice?_eq_none_iff.mpr (by simpa using beyond)] at whole
    cases whole
  rw [← capacity, List.take_of_length_le fits, Buffer.slice?_store_length _ _ fits] at whole
  cases whole
  exact mem_of_mailed sentMem

theorem Sound.split_of_mem (sound : network.Sound events) {exchange : Exchange}
    (exchangeMem : exchange ∈ network.life name events) :
    ∃ accepting, accepting.accepts (network.number name) = true
      ∧ routerTrace events = (routerTrace events).take (network.place name)
        ++ accepting :: (routerTrace events).drop (network.place name + 1) := by
  have reached : network.place name < (routerTrace events).length := by
    by_contra beyond
    have nothing : (routerTrace events).drop (network.place name + 1) = [] :=
      List.drop_of_length_le (by omega)
    unfold life tenure at exchangeMem
    rw [nothing] at exchangeMem
    cases exchangeMem
  refine ⟨(routerTrace events)[network.place name], ?_, ?_⟩
  · exact sound.accepts name _ (List.getElem?_eq_getElem reached)
  · rw [List.getElem_cons_drop, List.take_append_drop]

/-- A message that the router understood was sent by the client; it is one of the client's
requests, as it was sent. -/
theorem Sound.asked_of_message (sound : network.Sound events)
    (grown : station.Grown (network.client name) (clientTrace name events))
    {request : ClientMessage}
    (requestMem : request ∈ (network.life name events).filterMap
      (Exchange.message? (network.number name) network.options.maxClientMessage)) :
    ∃ index mac, station.asked[index]? = some mac
      ∧ request = ⟨(Draft.registration mac (UInt32.ofNat (index + 1))
          (network.client name).port).header, .register mac⟩
      ∧ (Request.encodeRegister mac (UInt32.ofNat (index + 1))
          (network.client name).port).length ≤ network.options.maxClientMessage
      ∧ ∃ capacity, ⟨.receive (network.number name) capacity,
          .ok ⟨(Request.encodeRegister mac (UInt32.ofNat (index + 1))
              (network.client name).port).length,
            Request.encodeRegister mac (UInt32.ofNat (index + 1)) (network.client name).port⟩⟩
        ∈ network.life name events := by
  rcases List.mem_filterMap.mp requestMem with ⟨exchange, exchangeMem, understood⟩
  rcases receive_of_message? understood with ⟨capacity, received, rfl, small, decoded⟩
  have more : received.size ≠ 0 := by
    have stored : received.stored.length = min received.size capacity :=
      sound.faithful _ (List.mem_of_mem_drop (List.takeWhile_subset _ exchangeMem))
    intro none
    rw [none, Nat.zero_min, List.length_eq_zero_iff] at stored
    rw [stored] at decoded
    cases decoded
  have arrived : (capacity, received)
      ∈ (network.life name events).filterMap (Exchange.arrived? (network.number name)) :=
    List.mem_filterMap.mpr ⟨_, exchangeMem, by simp [Exchange.arrived?, more]⟩
  rcases (sound.toRouter name).exists_mailed arrived with ⟨sent, sentMem, brought⟩
  have same : received = ⟨sent.length, sent.take capacity⟩ := brought
  subst same
  rcases grown.sent _ _ _ (mem_of_mailed sentMem) with ⟨index, mac, asked, rfl⟩
  have fits := ClientMessage.length_le_of_decode_take decoded
  rw [List.take_of_length_le fits] at decoded exchangeMem
  rw [ClientMessage.decode_encodeRegister] at decoded
  rcases Except.ok.inj decoded with rfl
  exact ⟨index, mac, asked, rfl, small, capacity, exchangeMem⟩

end Messages

section Calls

variable {done trace : Trace} {station : Station} {after : Client} {mac : MacAddress}

/-- What the router has sent to a client comes from what it has read from the client and from the
kernel. -/
theorem Sound.line_of_sent (sound : network.Sound events) {message : Bytes} {outcome : Attempt Nat}
    (sent : ⟨.send (network.number name) message, outcome⟩ ∈ network.life name events) :
    ((Acknowledgement.decode? message).isSome → ∃ request : ClientMessage, message = request.reply
        ∧ request ∈ (network.life name events).filterMap
          (Exchange.message? (network.number name) network.options.maxClientMessage))
      ∧ ∀ delivery, Delivery.decode message = .ok delivery →
        ⟨.receive network.kernel network.options.kernelBuffer,
            .ok ⟨delivery.packet.length, delivery.packet⟩⟩ ∈ routerTrace events
          ∧ Notification.decode? delivery.packet network.options.family
            = some ⟨delivery.mac, delivery.packet⟩
          ∧ ∃ header : Header, ⟨header, .register delivery.mac⟩
            ∈ (network.life name events).filterMap
              (Exchange.message? (network.number name) network.options.maxClientMessage) := by
  rcases sound.split_of_mem sent with ⟨accepting, accepts, split⟩
  have fresh := acceptsFresh_append.mpr ⟨network.fresh_created, sound.fresh⟩
  exact Router.line_of_ongoing network.puts sound.working fresh sound.faithful split accepts sent

/-- When a registration succeeds, the router has granted it. -/
theorem Sound.granted_of_register (sound : network.Sound events)
    (grown : station.Grown (network.client name) done)
    (few : station.asked.length + 1 < 4294967296) (now : clientTrace name events = done ++ trace)
    (runs : (station.client.register mac).Runs trace (.ok (), after)) :
    network.Granted name events mac (station.client.sequence + 1) station.client.port := by
  have grownNow := grown.of_register runs
  have number := grown.sequence_add_one
  rw [← now] at grownNow
  rcases Client.runs_register runs with ⟨_, _, _, -, -, -, content⟩
  rcases content rfl with ⟨-, message, read, acknowledged⟩
  have readAll : (network.client name).Read (clientTrace name events) message := by
    rw [now]
    exact (grown.alike.read read).mono (List.subset_append_right ..)
  have sent := sound.sent_of_read readAll
  rcases (sound.line_of_sent sent).1 (by simp [acknowledged]) with ⟨request, rfl, requestMem⟩
  rcases sound.asked_of_message grownNow requestMem with
    ⟨index, other, asked, rfl, small, capacity, receivedMem⟩
  have bound := (List.getElem?_eq_some_iff.mp asked).1
  have sequences : UInt32.ofNat (index + 1) = UInt32.ofNat (station.asked.length + 1) := by
    rw [ClientMessage.reply, Acknowledgement.decode?_encode] at acknowledged
    have same : (Draft.registration other (UInt32.ofNat (index + 1))
        (network.client name).port).header.sequence = station.client.sequence + 1 :=
      congrArg Acknowledgement.sequence (Option.some.inj acknowledged)
    rw [(Draft.header_registration ..).1, number] at same
    exact same
  simp only [List.length_append, List.length_singleton] at bound
  rcases eq_of_sequence sequences (by omega) few with rfl
  have last : other = mac := by simpa using asked.symm
  rw [last, ← number, ← grown.alike.port] at receivedMem small sent
  exact ⟨⟨capacity, receivedMem⟩, small, sent⟩

/-- An address that was granted is forwarded from then on. -/
theorem Sound.forwards_of_granted (sound : network.Sound events) {sequence port : UInt32}
    (granted : network.Granted name events mac sequence port) :
    network.Forwards name events mac := by
  intro later router composed turns before packet after split room fits decoded kept
  have soundLater := composed.sound
  have fresh := acceptsFresh_append.mpr ⟨network.fresh_created, soundLater.fresh⟩
  rcases sound.split_of_mem granted.acknowledged with ⟨accepting, accepts, parts⟩
  have whole : routerTrace (events ++ later) = (routerTrace events).take (network.place name)
      ++ accepting :: ((routerTrace events).drop (network.place name + 1) ++ before
        ++ ⟨.receive network.kernel network.options.kernelBuffer, .ok ⟨packet.length, packet⟩⟩
          :: after) := by
    rw [routerTrace_append, split]
    nth_rewrite 1 [parts]
    simp only [List.append_assoc, List.cons_append]
  have heard : Exchange.frame? network.kernel network.options.kernelBuffer network.options.family
      ⟨.receive network.kernel network.options.kernelBuffer, .ok ⟨packet.length, packet⟩⟩
        = some ⟨mac, packet⟩ := by
    simp [Exchange.frame?, Exchange.whole?, room, decoded]
  have registered : ∃ header : Header, ⟨header, .register mac⟩
      ∈ ((routerTrace events).drop (network.place name + 1) ++ before).filterMap
        (Exchange.message? (network.number name) network.options.maxClientMessage) := by
    rcases granted.read with ⟨capacity, receivedMem⟩
    refine ⟨(Draft.registration mac sequence port).header, List.mem_filterMap.mpr
      ⟨_, List.mem_append_left _ (List.takeWhile_subset _ receivedMem), ?_⟩⟩
    simp [Exchange.message?, Exchange.whole?, granted.fits, ClientMessage.decode_encodeRegister,
      Except.toOption]
  have sends := Router.sent_of_turns network.puts turns fresh soundLater.faithful whole accepts kept
    heard fits registered
  exact sends

/-- A client is handed only what the kernel handed out and the client has asked for. -/
theorem Sound.asked_of_read (sound : network.Sound events)
    (grown : station.Grown (network.client name) (clientTrace name events)) {message : Bytes}
    {delivery : Delivery}
    (read : (network.client name).Read (clientTrace name events) message)
    (decoded : Delivery.decode message = .ok delivery) :
    delivery.mac ∈ station.asked
      ∧ ⟨.receive network.kernel network.options.kernelBuffer,
          .ok ⟨delivery.packet.length, delivery.packet⟩⟩ ∈ routerTrace events
      ∧ Notification.decode? delivery.packet network.options.family
        = some ⟨delivery.mac, delivery.packet⟩ := by
  rcases (sound.line_of_sent (sound.sent_of_read read)).2 delivery decoded with
    ⟨heard, notified, header, requestMem⟩
  rcases sound.asked_of_message grown requestMem with ⟨index, mac, asked, same, -⟩
  rcases Request.register.inj (congrArg ClientMessage.request same) with rfl
  exact ⟨List.mem_of_getElem? asked, heard, notified⟩

/-- Registration is sound for every client of a network, whatever else happens. A registration
that succeeds has been granted, by that very request, and the address is forwarded from then on.
A frame that is handed out is a whole datagram of the kernel, and the client has asked for its
transmitter. -/
theorem registration_of_composed (composed : network.Composed events)
    (visits : Course Visit ⟨network.client name, []⟩ done station)
    (now : clientTrace name events = done ++ trace) :
    (∀ mac after, station.asked.length + 1 < 4294967296 →
        (station.client.register mac).Runs trace (.ok (), after) →
        (∀ socket outcome, ⟨.send socket (Request.encodeRegister mac (station.client.sequence + 1)
            station.client.port), outcome⟩ ∉ done)
          ∧ network.Granted name events mac (station.client.sequence + 1) station.client.port
          ∧ network.Forwards name events mac)
      ∧ ∀ delivery after, station.client.receiveFrame.Runs trace (.ok delivery, after) →
        delivery.mac ∈ station.asked
          ∧ ⟨.receive network.kernel network.options.kernelBuffer,
              .ok ⟨delivery.packet.length, delivery.packet⟩⟩ ∈ routerTrace events
          ∧ Notification.decode? delivery.packet network.options.family
            = some ⟨delivery.mac, delivery.packet⟩ := by
  have sound := composed.sound
  have grown := grown_of_course (network.fresh_client name) visits
  constructor
  · intro mac after few runs
    have granted := sound.granted_of_register grown few now runs
    refine ⟨?_, granted, sound.forwards_of_granted granted⟩
    intro socket outcome
    exact grown.unsent few socket outcome
  · intro delivery after runs
    rcases Client.runs_receiveFrame runs with ⟨alike, keeps, unsent, handed⟩
    have grownNow := grown.of_unsent alike keeps unsent
    rw [← now] at grownNow
    rcases handed delivery rfl with kept | ⟨message, read, decoded⟩
    · rcases grown.pending delivery kept with ⟨message, read, decoded⟩
      refine sound.asked_of_read grownNow ?_ decoded
      rw [now]
      exact read.mono (List.subset_append_left ..)
    · refine sound.asked_of_read grownNow ?_ decoded
      rw [now]
      exact (grown.alike.read read).mono (List.subset_append_right ..)

end Calls

section Meeting

def talker : Client := ⟨⟨⟨5⟩⟩, 9, 0, Buffer.zeroed Delivery.maxSize, []⟩

/-- A client's message is taken, and a message comes back. -/
def conversing (message : Bytes) (_ : Trace) : (call : Call) → call.Answer
  | .send _ question => .ok question.length
  | .receive _ _ => .ok ⟨message.length, message⟩
  | call => call.refusal

def consent : Bytes :=
  Acknowledgement.encode 0 (Draft.registration ⟨1, 2, 3, 4, 5, 6⟩ 1 9).header

theorem registers_ends :
    ((talker.register ⟨1, 2, 3, 4, 5, 6⟩).rehearse (conversing consent) 8).1.isSome := by
  decide +kernel

theorem connects_talker :
    ∃ path trace, (Client.connect path).run.Runs trace (.ok talker) :=
  ⟨"radio", Client.connects_radio ⟨5⟩ 9⟩

def content : Client :=
  (((talker.register ⟨1, 2, 3, 4, 5, 6⟩).rehearse (conversing consent) 8).1.get registers_ends).2

def greeting : Bytes :=
  ((Delivery.encode ⟨⟨1, 2, 3, 4, 5, 6⟩, [32, 0, 0, 0, 28, 0, 0, 0, 0, 0, 0, 0, 0, 0, 0, 0, 2, 1, 0, 0,
    10, 0, 2, 0, 1, 2, 3, 4, 5, 6, 0, 0]⟩).toOption).getD []

theorem receives_ends : (content.receiveFrame.rehearse (conversing greeting) 8).1.isSome := by
  decide +kernel

/-- A router with one client, which is accepted in the router's second call. -/
def meeting : Network (Fin 1) where
  listener := ⟨⟨3⟩, "radio"⟩
  kernel := ⟨4⟩
  options := ⟨28, 4096, 4096⟩
  router := Router.vacant
  created := Router.assembly ⟨3⟩ ⟨4⟩ ⟨5⟩ ⟨6⟩
  puts := Router.runs_create_assembled
  client := fun _ => talker
  connects := fun _ => connects_talker
  place := fun _ => 1
  number := fun _ => ⟨7⟩

/-- The turns in which the client is accepted and its registration is read. -/
def turnsBefore : Trace :=
  ((Router.vacant.pollOnce (-1)).rehearse (Router.chatting [⟨⟨3⟩, readable⟩]) 8).2
    ++ ((Router.greeted.pollOnce (-1)).rehearse (Router.chatting [⟨⟨7⟩, readable⟩]) 8).2

def turnAfter : Trace :=
  ((Router.subscribed.pollOnce (-1)).rehearse (Router.chatting [⟨⟨4⟩, readable⟩]) 8).2

def registering : Trace :=
  ((talker.register ⟨1, 2, 3, 4, 5, 6⟩).rehearse (conversing consent) 8).2

def receiving : Trace := (content.receiveFrame.rehearse (conversing greeting) 8).2

def registration : List (Event (Fin 1)) :=
  (registering.take 1).map (.client 0) ++ turnsBefore.map .router
    ++ (registering.drop 1).map (.client 0)

def reception : List (Event (Fin 1)) := turnAfter.map .router ++ receiving.map (.client 0)

theorem allowed : ∀ index (bound : index < (registration ++ reception).length),
    meeting.Allows ((registration ++ reception).take index) (registration ++ reception)[index] := by
  decide +kernel

theorem registration_of_meeting :
    meeting.Granted 0 registration ⟨1, 2, 3, 4, 5, 6⟩ 1 9
      ∧ meeting.Forwards 0 registration ⟨1, 2, 3, 4, 5, 6⟩
      ∧ ∃ delivery : Delivery, delivery.mac ∈ [(⟨1, 2, 3, 4, 5, 6⟩ : MacAddress)]
        ∧ ⟨.receive ⟨4⟩ 4096, .ok ⟨delivery.packet.length, delivery.packet⟩⟩
          ∈ routerTrace (registration ++ reception)
        ∧ Notification.decode? delivery.packet 28 = some ⟨delivery.mac, delivery.packet⟩ := by
  rcases Program.runs_rehearse_isOk registers_ends (by decide +kernel) with ⟨_, registers⟩
  rcases Program.runs_rehearse_isOk receives_ends (by decide +kernel) with ⟨delivery, receives⟩
  have routed : routerTrace (registration ++ reception) = turnsBefore ++ turnAfter := by
    simp only [registration, reception, routerTrace_append, routerTrace_map_router,
      routerTrace_map_client, List.nil_append, List.append_nil]
  have called : clientTrace 0 registration = registering := by
    simp only [registration, clientTrace_append, clientTrace_map_router, clientTrace_map_client,
      List.append_nil, List.take_append_drop]
  have calledAll : clientTrace 0 (registration ++ reception) = registering ++ receiving := by
    simp only [reception, clientTrace_append, called, clientTrace_map_router,
      clientTrace_map_client, List.nil_append]
  have turns : ∃ router, Course Router.Turn Router.vacant (turnsBefore ++ turnAfter) router :=
    ⟨_, ((Course.single (Router.turn_rehearse Router.vacant_ends)).next
      (Router.turn_rehearse Router.greeted_ends)).next (Router.turn_rehearse Router.subscribed_ends)⟩
  have visit : Course Visit ⟨talker, []⟩ registering ⟨content, [⟨1, 2, 3, 4, 5, 6⟩]⟩ :=
    .single (.registers _ registers)
  rcases turns with ⟨router, turns⟩
  rw [← routed] at turns
  have visits : ∀ name : Fin 1, ∃ station,
      Course Visit ⟨talker, []⟩ (clientTrace name (registration ++ reception)) station := by
    intro name
    rw [Subsingleton.elim name 0, calledAll]
    exact ⟨_, visit.next (.receives receives)⟩
  have composed := composed_of_whole meeting turns visits allowed
  have early := composed registration.length (by simp)
  have late := composed (registration ++ reception).length le_rfl
  rw [List.take_left] at early
  rw [List.take_length] at late
  have granted := (registration_of_composed early .start called).1 _ _ (by decide) registers
  have handed := (registration_of_composed late visit calledAll).2 _ _ receives
  exact ⟨granted.2.1, granted.2.2, delivery, handed⟩

end Meeting

end RadioRelay.Network
