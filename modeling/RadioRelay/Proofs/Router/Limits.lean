import RadioRelay.Proofs.Client
import RadioRelay.Proofs.Configuring
import RadioRelay.Proofs.Router.Forwarding
import RadioRelay.Proofs.Router.Settling

/-!
# What the limits of a configuration let through

A configuration is checked before a router is put together from it. The upper
limit of the kernel's buffer is that of an attribute, so a datagram that fits the
buffer can always be forwarded, and every client has room for what it is sent.
The lower limit of the client's buffer is that of a message without attributes,
which is less than a registration: a router with so little room serves nobody.
-/

namespace RadioRelay

section Receiving

namespace Client

open Program

variable {client : Client} {message : Bytes} {delivery : Delivery}

/-- The calls of a client that is interrupted several times before a message arrives. -/
def reception (client : Client) (interruptions : Nat) (received : Received) : Trace :=
  List.replicate interruptions
      ⟨.receive client.connection.descriptor client.buffer.capacity, .error .interrupted⟩
    ++ [⟨.receive client.connection.descriptor client.buffer.capacity, .ok received⟩]

/-- A client that keeps nothing takes the next message for a frame, if there is room for it. -/
theorem receiveFrame_of_reception (nothing : client.pending = []) (nonempty : message ≠ [])
    (fits : message.length ≤ client.buffer.capacity) (interruptions : Nat) :
    client.receiveFrame.Runs (client.reception interruptions ⟨message.length, message⟩)
      ((Delivery.decode message).mapError fun error => .of (.badFrame error),
        { client with buffer := client.buffer.store message }) := by
  have more : ¬ message.length = 0 := by simpa using nonempty
  have whole := Buffer.slice?_store_length client.buffer message fits
  have attempts : client.receiveUninterrupted.Runs
      (client.reception interruptions ⟨message.length, message⟩)
      (.ok ⟨message.length, message⟩) :=
    runs_receiveUninterrupted.mpr ⟨nofun, interruptions, rfl⟩
  have receives : client.receiveMessage.Runs
      (client.reception interruptions ⟨message.length, message⟩)
      (.ok message, { client with buffer := client.buffer.store message }) := by
    refine runs_bind.mpr ⟨_, [], _, (List.append_nil _).symm, attempts, ?_⟩
    simp [more, whole]
  unfold receiveFrame
  rw [nothing]
  refine runs_bind.mpr ⟨_, [], _, (List.append_nil _).symm, receives, ?_⟩
  cases decoded : Delivery.decode message <;> simp [decoded, nothing, Except.mapError]

/-- Whatever a client did before, if it keeps nothing, it hands out the next frame whole. -/
theorem receiveFrame_iff {name : String} {connecting past : Trace} {station : Station}
    (connects : (connect name).run.Runs connecting (.ok client))
    (visits : Course Visit ⟨client, []⟩ past station) (nothing : station.client.pending = [])
    (encoded : delivery.encode = .ok message) {interruptions : Nat}
    {outcome : Except Failure Delivery × Client} :
    station.client.receiveFrame.Runs (station.client.reception interruptions
        ⟨message.length, message.take station.client.buffer.capacity⟩) outcome ↔
      outcome = (.ok delivery,
        { station.client with buffer := station.client.buffer.store message }) := by
  rcases runs_connect connects with ⟨sequence, pending, room⟩
  have capacity : station.client.buffer.capacity = Delivery.maxSize :=
    (grown_of_course ⟨sequence, pending⟩ visits).alike.capacity.trans room
  have fits : message.length ≤ station.client.buffer.capacity := by
    rw [capacity]
    exact Delivery.length_le_of_encode encoded
  have runs := receiveFrame_of_reception nothing (Delivery.ne_nil_of_encode encoded) fits
    interruptions
  rw [Delivery.decode_of_encode encoded] at runs
  rw [List.take_of_length_le fits]
  constructor
  · exact fun again => again.unique runs
  · rintro rfl
    exact runs

end Client

end Receiving

namespace Router

open Program

variable {configuration : Configuration} {family : UInt16} {listener : Listener}
  {kernel : Descriptor} {created history rest : Trace} {start router after : Router}
  {client : ClientId} {mac : MacAddress} {sequence port : UInt32}

theorem capacities_of_stages {options : RouterOptions}
    (puts : (create listener kernel options).run.Runs created (.ok start))
    (stages : Course Stage start history router) :
    router.standing.Consistent ∧ router.kernel = kernel ∧ router.family = options.family
      ∧ router.kernelBuffer.capacity = options.kernelBuffer
      ∧ router.clientBuffer.capacity = options.maxClientMessage := by
  rcases runs_create puts with ⟨poller, wake, -, rfl⟩
  have same := fixtures_course stages
  exact ⟨(moves_of_course stages consistent_assembled).1, congrArg Fixtures.kernel same,
    congrArg Fixtures.family same, congrArg Fixtures.kernelCapacity same,
    congrArg Fixtures.clientCapacity same⟩

/-! ### Frames -/

/-- A frame that is heard and can be encoded is sent to all subscribers of its transmitter, once to
each of them, and to nobody else. -/
theorem sentTo_of_heard (consistent : router.standing.Consistent) {received : Received}
    {notification : Notification} {frame : Bytes}
    (heard : router.heard? received = some notification)
    (encoded : Delivery.encode ⟨notification.transmitter, notification.frame⟩ = .ok frame)
    (runs : router.handleKernel.Runs
      (⟨.receive router.kernel router.kernelBuffer.capacity, .ok received⟩ :: rest) after)
    (client : ClientId) :
    (client ∈ router.registry.subscribers notification.transmitter →
        ∃ outcome, rest.filterMap (Exchange.sentTo? client) = [(frame, outcome)])
      ∧ (client ∉ router.registry.subscribers notification.transmitter →
        rest.filterMap (Exchange.sentTo? client) = []) := by
  rcases forwarded_of_runs consistent runs with ⟨answer, later, same, forwarded⟩
  cases same
  simp only [Forwarded, heard, encoded] at forwarded
  rcases forwarded with ⟨sendings, addressed, sent, -⟩
  have distinct : (sendings.map (·.1)).Nodup := by
    rw [addressed]
    exact consistent.sound.nodup_subscribers _
  rw [← sent_posted] at sent
  rw [← addressed, sentTo_congr sent]
  rcases sentTo_sendings distinct with ⟨unaddressed, nothing⟩ | ⟨outcome, sendingMem, once⟩
  · exact ⟨fun subscribed => absurd subscribed unaddressed, fun _ => nothing⟩
  · have subscribed : client ∈ sendings.map (·.1) := List.mem_map_of_mem sendingMem
    exact ⟨fun _ => ⟨outcome, once⟩, fun stranger => absurd subscribed stranger⟩

/-- Every datagram of the radio that fits the buffer of a router with a checked configuration is
sent to all subscribers of its transmitter, and a client that keeps nothing hands it out whole. -/
theorem forwards_of_validate (valid : configuration.validate = .ok ())
    (puts : (create listener kernel (.ofConfiguration family configuration)).run.Runs created
      (.ok start))
    (stages : Course Stage start history router) {datagram : Bytes} {notification : Notification}
    (fits : datagram.length ≤ configuration.kernelBuffer)
    (decoded : Notification.decode? datagram family = some notification) :
    notification.frame = datagram ∧ ∃ frame,
      Delivery.encode ⟨notification.transmitter, notification.frame⟩ = .ok frame
        ∧ frame.length ≤ Delivery.maxSize
        ∧ (∀ script limit, (router.handleKernel.rehearse script limit).1.isSome)
        ∧ (∀ rest after, router.handleKernel.Runs
            (⟨.receive kernel configuration.kernelBuffer, .ok ⟨datagram.length, datagram⟩⟩ :: rest)
            after →
          ∀ client, (client ∈ router.registry.subscribers notification.transmitter →
              ∃ outcome, rest.filterMap (Exchange.sentTo? client) = [(frame, outcome)])
            ∧ (client ∉ router.registry.subscribers notification.transmitter →
              rest.filterMap (Exchange.sentTo? client) = []))
        ∧ ∀ name connecting client, (Client.connect name).run.Runs connecting (.ok client) →
          ∀ past station, Course Visit ⟨client, []⟩ past station → station.client.pending = [] →
            ∀ interruptions outcome, station.client.receiveFrame.Runs
                (station.client.reception interruptions
                  ⟨frame.length, frame.take station.client.buffer.capacity⟩) outcome ↔
              outcome = (.ok ⟨notification.transmitter, datagram⟩,
                { station.client with buffer := station.client.buffer.store frame }) := by
  have whole := Notification.frame_of_decode? decoded
  have limits := Configuration.validate_eq_ok_iff.mp valid
  -- The upper limit on the kernel's buffer is that of an attribute's payload.
  have short : notification.frame.length ≤ Attribute.maxPayload := by
    rw [whole]
    exact fits.trans limits.kernelBuffer.2
  refine ⟨whole, ?_⟩
  obtain ⟨frame, encoded⟩ : ∃ frame,
      Delivery.encode ⟨notification.transmitter, notification.frame⟩ = .ok frame :=
    Delivery.exists_encode short
  refine ⟨frame, encoded, Delivery.length_le_of_encode encoded, ?_, ?_, ?_⟩
  · exact fun script limit => (straight_handleKernel router).ends limit
  · intro rest after runs client
    rcases capacities_of_stages puts stages with
      ⟨consistent, sameKernel, sameFamily, sameCapacity, -⟩
    have capacity : router.kernelBuffer.capacity = configuration.kernelBuffer := sameCapacity
    have heard : router.heard? ⟨datagram.length, datagram⟩ = some notification := by
      rw [heard?, Buffer.slice?_store_length _ _ (capacity ▸ fits), sameFamily]
      exact decoded
    rw [← sameKernel, ← capacity] at runs
    exact sentTo_of_heard consistent heard encoded runs client
  · intro name connecting client connects past station visits nothing interruptions outcome
    rw [← whole]
    exact Client.receiveFrame_iff connects visits nothing encoded

def roomy : Configuration := ⟨"radio", "MAC80211_HWSIM", 4, 4096, 4096, "info"⟩

/-- A frame of the radio, sent by the address that the client of `chatting` registers. -/
def beacon : Bytes :=
  [32, 0, 0, 0, 28, 0, 0, 0, 0, 0, 0, 0, 0, 0, 0, 0, 2, 1, 0, 0, 10, 0, 2, 0, 1, 2, 3, 4, 5, 6, 0, 0]

theorem subscribed_stages : ∃ history, Course Stage vacant history subscribed :=
  ⟨_, course_of_turns ((Course.single (turn_rehearse vacant_ends)).next (turn_rehearse greeted_ends))⟩

theorem subscribed_hears : (subscribed.handleKernel.rehearse (chatting []) 0).1.isSome :=
  (straight_handleKernel subscribed).ends 0

theorem chatting_beacon {kernel : Descriptor} {capacity : Nat} (sameKernel : kernel = ⟨4⟩)
    (sameCapacity : capacity = 4096) :
    (⟨.receive kernel capacity, chatting [] [] (.receive kernel capacity)⟩ : Exchange)
      = ⟨.receive ⟨4⟩ 4096, .ok ⟨beacon.length, beacon⟩⟩ := by
  subst sameKernel sameCapacity
  rfl

theorem forwards_of_roomy : ∃ frame rest after,
    subscribed.handleKernel.Runs (⟨.receive ⟨4⟩ 4096, .ok ⟨beacon.length, beacon⟩⟩ :: rest) after
      ∧ (∃ outcome, rest.filterMap (Exchange.sentTo? ⟨7⟩) = [(frame, outcome)])
      ∧ frame.length ≤ Delivery.maxSize
      ∧ ∃ (client later : Client) (trace : Trace), client.receiveFrame.Runs trace
        (.ok ⟨⟨1, 2, 3, 4, 5, 6⟩, beacon⟩, later) := by
  rcases subscribed_stages with ⟨history, stages⟩
  have puts := @runs_create_assembled ⟨⟨3⟩, "radio"⟩ ⟨4⟩ ⟨5⟩ ⟨6⟩ (.ofConfiguration 28 roomy)
  have valid : roomy.validate = .ok () := by decide
  have decoded : Notification.decode? beacon 28 = some ⟨⟨1, 2, 3, 4, 5, 6⟩, beacon⟩ := by
    decide +kernel
  rcases forwards_of_validate valid puts stages (by decide) decoded with
    ⟨-, frame, -, small, -, sends, hands⟩
  rcases capacities_of_stages puts stages with ⟨consistent, sameKernel, -, sameCapacity, -⟩
  have runs := runs_rehearse subscribed_hears
  rcases forwarded_of_runs consistent runs with ⟨answer, rest, head, -⟩
  rw [head, answer_of_rehearsal subscribed_hears head, chatting_beacon sameKernel sameCapacity]
    at runs
  have sent := (sends rest _ runs ⟨7⟩).1 (by decide +kernel)
  rcases Client.connects_radio ⟨8⟩ 9 with ⟨connecting, connects⟩
  have handed := (hands _ _ _ connects _ _ .start rfl 0 _).mpr rfl
  exact ⟨frame, rest, _, runs, sent, small, _, _, _, handed⟩

/-! ### Registrations -/

/-- The client is told that its registration was carried out. If it takes the answer, it stays and
is subscribed. -/
def Registers (client : ClientId) (mac : MacAddress) (sequence port : UInt32) (rest : Trace)
    (after : Router) : Prop :=
  ∃ message outcome, rest.filterMap Exchange.sent? = [(client, message, outcome)]
    ∧ Acknowledgement.decode? message = some ⟨sequence, port, 0⟩
    ∧ (outcome = .ok message.length →
      client ∈ after.registry.ids ∧ client ∈ after.registry.subscribers mac)

theorem understood?_of_beyond {stored : Bytes} {size : Nat}
    (beyond : router.clientBuffer.capacity < size) : router.understood? ⟨size, stored⟩ = none := by
  have unread : (router.withMessage ⟨size, stored⟩).clientBuffer.slice? size = none :=
    Buffer.slice?_eq_none_iff.mpr beyond
  rw [understood?, unread]
  rfl

theorem understood?_take (fits : Request.registrationSize ≤ router.clientBuffer.capacity)
    (mac : MacAddress) (sequence port : UInt32) :
    router.understood? ⟨(Request.encodeRegister mac sequence port).length,
        (Request.encodeRegister mac sequence port).take router.clientBuffer.capacity⟩
      = some ⟨(Draft.registration mac sequence port).header, .register mac⟩ := by
  rw [← Request.length_encodeRegister mac sequence port] at fits
  rw [List.take_of_length_le fits, understood?, withMessage, Buffer.slice?_store_length _ _ fits,
    Option.bind_some, ClientMessage.decode_encodeRegister]
  rfl

theorem registers_of_understood {received : Received} (connected : client ∈ router.registry.ids)
    (more : received.size ≠ 0)
    (understood : router.understood? received
      = some ⟨(Draft.registration mac sequence port).header, .register mac⟩)
    (handled : Handled client router (.ok received) rest after) :
    Registers client mac sequence port rest after := by
  simp only [Handled, if_neg more, understood] at handled
  rcases handled with ⟨result, outcome, sent, answered⟩
  have success : result = 0 := answered.granted.mpr ⟨mac, rfl⟩
  subst success
  refine ⟨_, outcome, sent, ?_, ?_⟩
  · have header := Draft.header_registration mac sequence port
    rw [Acknowledgement.decode?_encode, header.1, header.2]
  · intro taken
    rcases answered.stays taken with ⟨clients, -, subscribers⟩
    have stays : client ∈ after.registry.ids := by
      rw [Registry.ids, clients]
      exact connected
    refine ⟨stays, ?_⟩
    rw [subscribers]
    split
    next => simp
    next known => simpa using known

/-- A registration that there is no room for is not answered, and who sent it is removed. -/
theorem gone_of_beyond (beyond : router.clientBuffer.capacity < Request.registrationSize)
    (handled : Handled client router
      (.ok ⟨(Request.encodeRegister mac sequence port).length,
        (Request.encodeRegister mac sequence port).take router.clientBuffer.capacity⟩) rest after) :
    rest.filterMap Exchange.sent? = [] ∧ Gone client 1 router after := by
  have size := Request.length_encodeRegister mac sequence port
  have more : ¬ (Request.encodeRegister mac sequence port).length = 0 := by
    rw [size]
    decide
  rw [← size] at beyond
  simpa only [Handled, if_neg more, understood?_of_beyond beyond] using handled

theorem not_registers_of_unsent (unsent : rest.filterMap Exchange.sent? = []) :
    ¬ Registers client mac sequence port rest after := by
  rintro ⟨message, outcome, sent, -⟩
  rw [unsent] at sent
  cases sent

/-- A router carries registrations out exactly if its buffer has room for one. If not, a client
that registers is removed as if it had broken the format. -/
theorem registers_iff
    (puts : (create listener kernel (.ofConfiguration family configuration)).run.Runs created
      (.ok start))
    (stages : Course Stage start history router) (connected : client ∈ router.registry.ids)
    (mac : MacAddress) (sequence port : UInt32) :
    (∀ script limit, ((router.handleClient client).rehearse script limit).1.isSome)
      ∧ ∀ rest after, (router.handleClient client).Runs
          (⟨.receive client configuration.maxClientMessage,
            .ok ⟨(Request.encodeRegister mac sequence port).length,
              (Request.encodeRegister mac sequence port).take configuration.maxClientMessage⟩⟩
            :: rest) after →
        (Registers client mac sequence port rest after
            ↔ Request.registrationSize ≤ configuration.maxClientMessage)
          ∧ (configuration.maxClientMessage < Request.registrationSize →
            rest.filterMap Exchange.sent? = [] ∧ Gone client 1 router after) := by
  refine ⟨fun script limit => (straight_handleClient router client).ends limit, ?_⟩
  intro rest after runs
  rcases capacities_of_stages puts stages with ⟨consistent, -, -, -, sameCapacity⟩
  have capacity : router.clientBuffer.capacity = configuration.maxClientMessage := sameCapacity
  rw [← capacity] at runs ⊢
  rcases handled_of_runs consistent connected runs with ⟨answer, later, same, handled, -⟩
  cases same
  constructor
  · constructor
    · intro registers
      by_contra beyond
      have unsent := (gone_of_beyond (Nat.lt_of_not_le beyond) handled).1
      exact not_registers_of_unsent unsent registers
    · intro fits
      have more : (Request.encodeRegister mac sequence port).length ≠ 0 := by
        rw [Request.length_encodeRegister]
        decide
      exact registers_of_understood connected more (understood?_take fits mac sequence port) handled
  · exact fun beyond => gone_of_beyond beyond handled

/-- A client registers an address, and what it sends is cut to the room that there is for it. -/
def registering (past : Trace) : (call : Call) → call.Answer
  | .receive _ capacity =>
    .ok ⟨(Request.encodeRegister ⟨1, 2, 3, 4, 5, 6⟩ 1 9).length,
      (Request.encodeRegister ⟨1, 2, 3, 4, 5, 6⟩ 1 9).take capacity⟩
  | call => chatting [] past call

theorem greeted_registers : ((greeted.handleClient ⟨7⟩).rehearse registering 0).1.isSome :=
  (straight_handleClient greeted ⟨7⟩).ends 0

theorem greeted_stages : ∃ history, Course Stage vacant history greeted :=
  ⟨_, course_of_turns (Course.single (turn_rehearse vacant_ends))⟩

theorem registers_of_roomy : ∃ rest after, (greeted.handleClient ⟨7⟩).Runs
      (⟨.receive ⟨7⟩ 4096, .ok ⟨(Request.encodeRegister ⟨1, 2, 3, 4, 5, 6⟩ 1 9).length,
        (Request.encodeRegister ⟨1, 2, 3, 4, 5, 6⟩ 1 9).take 4096⟩⟩ :: rest) after
    ∧ Registers ⟨7⟩ ⟨1, 2, 3, 4, 5, 6⟩ 1 9 rest after := by
  rcases greeted_stages with ⟨history, stages⟩
  have puts := @runs_create_assembled ⟨⟨3⟩, "radio"⟩ ⟨4⟩ ⟨5⟩ ⟨6⟩ (.ofConfiguration 28 roomy)
  rcases capacities_of_stages puts stages with ⟨consistent, -, -, -, sameCapacity⟩
  have capacity : greeted.clientBuffer.capacity = 4096 := sameCapacity
  have runs := runs_rehearse greeted_registers
  rcases handled_of_runs consistent connected_greeted runs with ⟨answer, rest, head, -⟩
  rw [head, answer_of_rehearsal greeted_registers head, capacity] at runs
  have registers := (registers_iff puts stages connected_greeted ⟨1, 2, 3, 4, 5, 6⟩ 1 9).2 rest _ runs
  exact ⟨rest, _, runs, registers.1.mpr (by decide)⟩

/-- A configuration that is accepted although no client can be served with it. -/
def cramped : Configuration := { roomy with maxClientMessage := Message.minSize }

def crampedVacant : Router := assembled ⟨⟨3⟩, "radio"⟩ ⟨4⟩ (.ofConfiguration 28 cramped) ⟨5⟩ ⟨6⟩

theorem cramped_ends :
    ((crampedVacant.pollOnce (-1)).rehearse (chatting [⟨⟨3⟩, readable⟩]) 8).1.isSome := by
  decide +kernel

def crampedGreeted : Router :=
  (((crampedVacant.pollOnce (-1)).rehearse (chatting [⟨⟨3⟩, readable⟩]) 8).1.get cramped_ends).2

theorem cramped_registers :
    ((crampedGreeted.handleClient ⟨7⟩).rehearse registering 0).1.isSome :=
  (straight_handleClient crampedGreeted ⟨7⟩).ends 0

theorem cramped_stages : ∃ history, Course Stage crampedVacant history crampedGreeted :=
  ⟨_, course_of_turns (Course.single (turn_rehearse cramped_ends))⟩

theorem not_registers_of_cramped : cramped.validate = .ok ()
    ∧ ∃ created history rest after,
      (create ⟨⟨3⟩, "radio"⟩ ⟨4⟩ (.ofConfiguration 28 cramped)).run.Runs created
          (.ok crampedVacant)
        ∧ Course Stage crampedVacant history crampedGreeted
        ∧ ⟨7⟩ ∈ crampedGreeted.registry.ids
        ∧ (crampedGreeted.handleClient ⟨7⟩).Runs
          (⟨.receive ⟨7⟩ 20, .ok ⟨(Request.encodeRegister ⟨1, 2, 3, 4, 5, 6⟩ 1 9).length,
            (Request.encodeRegister ⟨1, 2, 3, 4, 5, 6⟩ 1 9).take 20⟩⟩ :: rest) after
        ∧ ¬ Registers ⟨7⟩ ⟨1, 2, 3, 4, 5, 6⟩ 1 9 rest after ∧ ⟨7⟩ ∉ after.registry.ids := by
  refine ⟨by decide, ?_⟩
  rcases cramped_stages with ⟨history, stages⟩
  have puts := @runs_create_assembled ⟨⟨3⟩, "radio"⟩ ⟨4⟩ ⟨5⟩ ⟨6⟩ (.ofConfiguration 28 cramped)
  have connected : (⟨7⟩ : ClientId) ∈ crampedGreeted.registry.ids := by decide +kernel
  rcases capacities_of_stages puts stages with ⟨consistent, -, -, -, sameCapacity⟩
  have capacity : crampedGreeted.clientBuffer.capacity = 20 := sameCapacity
  have runs := runs_rehearse cramped_registers
  rcases handled_of_runs consistent connected runs with ⟨answer, rest, head, handled, -⟩
  have brought := answer_of_rehearsal cramped_registers head
  rw [head, brought, capacity] at runs
  rw [brought] at handled
  have small : crampedGreeted.clientBuffer.capacity < Request.registrationSize := by
    rw [capacity]
    decide
  rcases gone_of_beyond small handled with ⟨unsent, gone⟩
  exact ⟨_, _, rest, _, puts, stages, connected, runs, not_registers_of_unsent unsent, gone.absent⟩

end Router

end RadioRelay
