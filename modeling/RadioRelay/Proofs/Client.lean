import RadioRelay.Client
import RadioRelay.Proofs.Execution
import RadioRelay.Proofs.Router.Moves
import RadioRelay.Proofs.Wire.RoundTrip

/-!
# The calls of a client

What a client does is a course of visits: it registers addresses and asks for
frames. Each registration sends one request, and no two requests of a client
carry the same sequence number before the numbers run out. A frame that is handed
out was read from the connection before, and so was the acknowledgement of a
registration that succeeded.
-/

namespace RadioRelay

namespace Client

open Program

variable {client after : Client} {trace : Trace}

/-- Nothing but the contents of the buffer and the kept frames differ. -/
structure Alike (client after : Client) : Prop where
  connection : after.connection = client.connection
  port : after.port = client.port
  sequence : after.sequence = client.sequence
  capacity : after.buffer.capacity = client.buffer.capacity

theorem Alike.refl : client.Alike client := ⟨rfl, rfl, rfl, rfl⟩

theorem Alike.trans {last : Client} (first : client.Alike after) (second : after.Alike last) :
    client.Alike last :=
  ⟨second.connection.trans first.connection, second.port.trans first.port,
    second.sequence.trans first.sequence, second.capacity.trans first.capacity⟩

def Read (client : Client) (trace : Trace) (message : Bytes) : Prop :=
  ∃ (received : Received) (buffer : Buffer),
    ⟨.receive client.connection.descriptor client.buffer.capacity, .ok received⟩ ∈ trace
      ∧ received.size ≠ 0 ∧ buffer.capacity = client.buffer.capacity
      ∧ (buffer.store received.stored).slice? received.size = some message

theorem Read.mono {late : Trace} {message : Bytes} (read : client.Read trace message)
    (subset : trace ⊆ late) : client.Read late message := by
  rcases read with ⟨received, buffer, receivedMem, rest⟩
  exact ⟨received, buffer, subset receivedMem, rest⟩

theorem Alike.read {message : Bytes} (alike : client.Alike after) (read : after.Read trace message) :
    client.Read trace message := by
  rcases read with ⟨received, buffer, receivedMem, more, capacity, whole⟩
  rw [alike.connection, alike.capacity] at receivedMem
  exact ⟨received, buffer, receivedMem, more, capacity.trans alike.capacity, whole⟩

def interruption (client : Client) : Exchange :=
  ⟨.receive client.connection.descriptor client.buffer.capacity, .error .interrupted⟩

theorem runs_attempt {outcome : Unit ⊕ Attempt Received} :
    (client.connection.receive client.buffer.capacity >>= fun answer =>
      match answer with
      | .error errno => pure (if errno = .interrupted then .inl () else .inr (.error errno))
      | .ok received => pure (.inr (.ok received))).Runs trace outcome ↔
    (trace = [client.interruption] ∧ outcome = .inl ())
      ∨ ∃ answer, trace = [⟨.receive client.connection.descriptor client.buffer.capacity, answer⟩]
        ∧ answer ≠ .error .interrupted ∧ outcome = .inr answer := by
  constructor
  · intro runs
    rcases runs_call_bind.mp runs with ⟨errno | received, rest, rfl, rfl, rfl⟩
    · by_cases interrupted : errno = .interrupted
      · subst interrupted
        exact Or.inl ⟨rfl, rfl⟩
      · exact Or.inr ⟨.error errno, rfl, by simp [interrupted], by simp [interrupted]⟩
    · exact Or.inr ⟨.ok received, rfl, nofun, rfl⟩
  · rintro (⟨rfl, rfl⟩ | ⟨errno | received, rfl, goesOn, rfl⟩)
    · exact ⟨_, [], rfl, rfl, by simp⟩
    · have other : errno ≠ .interrupted := by
        rintro rfl
        exact goesOn rfl
      exact ⟨_, [], rfl, rfl, by simp [other]⟩
    · exact ⟨_, [], rfl, rfl, rfl⟩

/-- Attempts are interrupted any number of times, and then one is answered. -/
theorem runs_receiveUninterrupted {outcome : Attempt Received} :
    client.receiveUninterrupted.Runs trace outcome ↔
      outcome ≠ .error .interrupted ∧ ∃ interruptions,
        trace = List.replicate interruptions client.interruption
          ++ [⟨.receive client.connection.descriptor client.buffer.capacity, outcome⟩] := by
  rw [receiveUninterrupted, runs_repeatUntil]
  constructor
  · intro rounds
    generalize () = state at rounds
    induction rounds with
    | last ends =>
      rcases runs_attempt.mp ends with ⟨-, goesOn⟩ | ⟨answer, rfl, goesOn, same⟩
      · cases goesOn
      · cases same
        exact ⟨goesOn, 0, rfl⟩
    | again goesOn _ ih =>
      rcases runs_attempt.mp goesOn with ⟨rfl, -⟩ | ⟨_, -, -, ends⟩
      · rcases ih with ⟨ends, interruptions, rfl⟩
        exact ⟨ends, interruptions + 1, rfl⟩
      · cases ends
  · rintro ⟨ends, interruptions, rfl⟩
    induction interruptions with
    | zero => exact .last (runs_attempt.mpr (Or.inr ⟨outcome, rfl, ends, rfl⟩))
    | succ interruptions ih =>
      rw [List.replicate_succ, List.cons_append, ← List.singleton_append]
      exact .again (runs_attempt.mpr (Or.inl ⟨rfl, rfl⟩)) ih

theorem unsent_interruptions (client : Client) (interruptions : Nat) :
    ∀ exchange ∈ List.replicate interruptions client.interruption, exchange.sent? = none := by
  intro exchange exchangeMem
  rw [List.eq_of_mem_replicate exchangeMem]
  rfl

theorem runs_receiveMessage {outcome : Except Failure Bytes}
    (runs : client.receiveMessage.Runs trace (outcome, after)) :
    client.Alike after ∧ after.pending = client.pending
      ∧ (∀ exchange ∈ trace, exchange.sent? = none)
      ∧ ∀ message, outcome = .ok message → client.Read trace message := by
  rcases runs_bind.mp runs with ⟨early, late, received, rfl, receives, meant⟩
  rcases runs_receiveUninterrupted.mp receives with ⟨-, interruptions, rfl⟩
  have unsent : ∀ exchange ∈ List.replicate interruptions client.interruption
      ++ [⟨.receive client.connection.descriptor client.buffer.capacity, received⟩],
      exchange.sent? = none := by
    rw [List.forall_mem_append, List.forall_mem_singleton]
    exact ⟨client.unsent_interruptions interruptions, rfl⟩
  rcases received with errno | received
  · rcases meant with ⟨rfl, same⟩
    cases same
    rw [List.append_nil]
    exact ⟨.refl, rfl, unsent, by simp⟩
  · have alike : client.Alike { client with buffer := client.buffer.store received.stored } :=
      ⟨rfl, rfl, rfl, rfl⟩
    dsimp only at meant
    split at meant
    next =>
      rcases meant with ⟨rfl, same⟩
      cases same
      rw [List.append_nil]
      exact ⟨alike, rfl, unsent, by simp⟩
    next more =>
      split at meant
      next =>
        rcases meant with ⟨rfl, same⟩
        cases same
        rw [List.append_nil]
        exact ⟨alike, rfl, unsent, by simp⟩
      next message whole =>
        rcases meant with ⟨rfl, same⟩
        cases same
        rw [List.append_nil]
        refine ⟨alike, rfl, unsent, ?_⟩
        intro message same
        cases same
        exact ⟨received, client.buffer, List.mem_append_right _ (List.mem_singleton_self _), more,
          rfl, whole⟩

/-- The frames that are kept were kept before or were read meanwhile. -/
def Keeps (client : Client) (trace : Trace) (after : Client) : Prop :=
  ∀ delivery ∈ after.pending, delivery ∈ client.pending
    ∨ ∃ message, client.Read trace message ∧ Delivery.decode message = .ok delivery

theorem Keeps.of_pending (same : after.pending = client.pending) : client.Keeps trace after := by
  intro delivery kept
  rw [same] at kept
  exact Or.inl kept

theorem Keeps.append {middle : Client} {early late : Trace} (alike : client.Alike middle)
    (first : client.Keeps early middle) (second : middle.Keeps late after) :
    client.Keeps (early ++ late) after := by
  intro delivery kept
  rcases second delivery kept with keptBefore | ⟨message, read, decoded⟩
  · rcases first delivery keptBefore with keptFirst | ⟨message, read, decoded⟩
    · exact Or.inl keptFirst
    · exact Or.inr ⟨message, read.mono (List.subset_append_left ..), decoded⟩
  · exact Or.inr ⟨message, (alike.read read).mono (List.subset_append_right ..), decoded⟩

theorem Alike.interpret (alike : client.Alike after) (message : Bytes) :
    after.interpret message = client.interpret message := by
  simp only [Client.interpret, alike.sequence, alike.port]

/-- A client is content with an acknowledgement of success of its latest request, and with
nothing else. -/
theorem interpret_eq_accepted {message : Bytes} (accepted : client.interpret message = .accepted) :
    Acknowledgement.decode? message = some ⟨client.sequence, client.port, 0⟩ := by
  unfold interpret at accepted
  split at accepted
  next acknowledgement decoded =>
    rcases acknowledgement with ⟨sequence, port, result⟩
    split at accepted
    · cases accepted
    · split at accepted
      · cases accepted
      · simp_all
  next => split at accepted <;> cases accepted

theorem interpret_eq_frame {message : Bytes} {delivery : Delivery}
    (framed : client.interpret message = .frame delivery) :
    Delivery.decode message = .ok delivery := by
  unfold interpret at framed
  split at framed
  · split at framed
    · cases framed
    · split at framed <;> cases framed
  · split at framed <;> cases framed
    assumption

/-- One round of waiting for an acknowledgement. -/
def awaitOnce (mac : MacAddress) (client : Client) :
    Program (Client ⊕ (Except Failure Unit × Client)) := do
  match ← client.receiveMessage with
  | (.error failure, client) => return .inr (.error failure, client)
  | (.ok message, client) =>
    match client.interpret message with
    | .stale => return .inl client
    | .frame delivery => return .inl { client with pending := client.pending ++ [delivery] }
    | .accepted => return .inr (.ok (), client)
    | .refused errno =>
      return .inr (.error ((Failure.system errno).during (.registering mac)), client)
    | .garbage error => return .inr (.error (.of (.unexpectedMessage error)), client)

theorem awaitAcknowledgement_eq (client : Client) (mac : MacAddress) :
    client.awaitAcknowledgement mac = repeatUntil client (awaitOnce mac) := rfl

/-- What one round of waiting leaves behind: the client waits on, or it is content, or the
registration failed. -/
theorem runs_awaitOnce {mac : MacAddress} {outcome : Client ⊕ (Except Failure Unit × Client)}
    (runs : (awaitOnce mac client).Runs trace outcome) :
    (∀ exchange ∈ trace, exchange.sent? = none)
      ∧ ∃ after, client.Alike after ∧ client.Keeps trace after
        ∧ (outcome = .inl after ∨ (∃ failure, outcome = .inr (.error failure, after))
          ∨ ∃ message, client.Read trace message ∧ client.interpret message = .accepted
            ∧ outcome = .inr (.ok (), after)) := by
  rcases runs_bind.mp runs with ⟨early, late, ⟨received, middle⟩, rfl, receives, meant⟩
  rcases runs_receiveMessage receives with ⟨alike, pending, unsent, read⟩
  rcases received with failure | message
  · rcases meant with ⟨rfl, rfl⟩
    rw [List.append_nil]
    exact ⟨unsent, middle, alike, .of_pending pending, Or.inr (Or.inl ⟨failure, rfl⟩)⟩
  · have readNow := read message rfl
    dsimp only at meant
    rw [alike.interpret] at meant
    split at meant
    next =>
      rcases meant with ⟨rfl, rfl⟩
      rw [List.append_nil]
      exact ⟨unsent, middle, alike, .of_pending pending, Or.inl rfl⟩
    next delivery framed =>
      rcases meant with ⟨rfl, rfl⟩
      rw [List.append_nil]
      refine ⟨unsent, { middle with pending := middle.pending ++ [delivery] },
        ⟨alike.connection, alike.port, alike.sequence, alike.capacity⟩, ?_, Or.inl rfl⟩
      intro other kept
      rcases List.mem_append.mp kept with keptBefore | last
      · rw [pending] at keptBefore
        exact Or.inl keptBefore
      · rw [List.mem_singleton.mp last]
        exact Or.inr ⟨message, readNow, interpret_eq_frame framed⟩
    next accepted =>
      rcases meant with ⟨rfl, rfl⟩
      rw [List.append_nil]
      exact ⟨unsent, middle, alike, .of_pending pending,
        Or.inr (Or.inr ⟨message, readNow, accepted, rfl⟩)⟩
    all_goals
      rcases meant with ⟨rfl, rfl⟩
      rw [List.append_nil]
      exact ⟨unsent, middle, alike, .of_pending pending, Or.inr (Or.inl ⟨_, rfl⟩)⟩

theorem runs_awaitAcknowledgement {mac : MacAddress} {outcome : Except Failure Unit}
    (runs : (client.awaitAcknowledgement mac).Runs trace (outcome, after)) :
    client.Alike after ∧ client.Keeps trace after ∧ (∀ exchange ∈ trace, exchange.sent? = none)
      ∧ (outcome = .ok () →
        ∃ message, client.Read trace message ∧ client.interpret message = .accepted) := by
  rw [awaitAcknowledgement_eq, runs_repeatUntil] at runs
  generalize final : (outcome, after) = result at runs
  induction runs with
  | last ends =>
    subst final
    rcases runs_awaitOnce ends with
      ⟨unsent, middle, alike, keeps, goesOn | ⟨failure, same⟩ | ⟨message, read, accepted, same⟩⟩
    · cases goesOn
    · cases same
      exact ⟨alike, keeps, unsent, nofun⟩
    · cases same
      exact ⟨alike, keeps, unsent, fun _ => ⟨message, read, accepted⟩⟩
  | again goesOn _ ih =>
    rcases runs_awaitOnce goesOn with
      ⟨unsent, middle, alike, keeps, same | ⟨failure, ends⟩ | ⟨message, read, accepted, ends⟩⟩
    · cases same
      rcases ih final with ⟨alikeLater, keepsLater, unsentLater, content⟩
      refine ⟨alike.trans alikeLater, keeps.append alike keepsLater, ?_, ?_⟩
      · rw [List.forall_mem_append]
        exact ⟨unsent, unsentLater⟩
      · intro success
        rcases content success with ⟨message, read, accepted⟩
        refine ⟨message, (alike.read read).mono (List.subset_append_right ..), ?_⟩
        rw [← alike.interpret]
        exact accepted
    · cases ends
    · cases ends

/-- A registration sends its request, and succeeds only if its acknowledgement was read. -/
theorem runs_register {mac : MacAddress} {outcome : Except Failure Unit}
    (runs : (client.register mac).Runs trace (outcome, after)) :
    ∃ answer rest,
      trace = ⟨.send client.connection.descriptor
          (Request.encodeRegister mac (client.sequence + 1) client.port), answer⟩ :: rest
        ∧ { client with sequence := client.sequence + 1 }.Alike after
        ∧ client.Keeps trace after ∧ (∀ exchange ∈ rest, exchange.sent? = none)
        ∧ (outcome = .ok () →
          answer = .ok (Request.encodeRegister mac (client.sequence + 1) client.port).length
            ∧ ∃ message, client.Read trace message
              ∧ Acknowledgement.decode? message = some ⟨client.sequence + 1, client.port, 0⟩) := by
  rcases runs_call_bind.mp runs with ⟨errno | count, rest, rfl, answered⟩
  · rcases answered with ⟨rfl, same⟩
    cases same
    exact ⟨_, [], rfl, .refl, .of_pending rfl, by simp, nofun⟩
  · refine ⟨.ok count, rest, rfl, ?_⟩
    dsimp only at answered
    split at answered
    next whole =>
      rcases runs_awaitAcknowledgement answered with ⟨alike, keeps, unsent, content⟩
      refine ⟨alike, ?_, unsent, ?_⟩
      · intro delivery kept
        rcases keeps delivery kept with keptBefore | ⟨message, read, decoded⟩
        · exact Or.inl keptBefore
        · exact Or.inr ⟨message, read.mono (List.subset_cons_self ..), decoded⟩
      · intro success
        rcases content success with ⟨message, read, accepted⟩
        rw [← whole]
        exact ⟨rfl, message, read.mono (List.subset_cons_self ..), interpret_eq_accepted accepted⟩
    next =>
      rcases answered with ⟨rfl, same⟩
      cases same
      exact ⟨.refl, .of_pending rfl, by simp, nofun⟩

/-- A frame that is handed out was kept or is read now. -/
theorem runs_receiveFrame {outcome : Except Failure Delivery}
    (runs : client.receiveFrame.Runs trace (outcome, after)) :
    client.Alike after ∧ client.Keeps trace after ∧ (∀ exchange ∈ trace, exchange.sent? = none)
      ∧ ∀ delivery, outcome = .ok delivery → delivery ∈ client.pending
        ∨ ∃ message, client.Read trace message ∧ Delivery.decode message = .ok delivery := by
  unfold receiveFrame at runs
  split at runs
  next delivery rest kept =>
    rcases runs with ⟨rfl, same⟩
    cases same
    refine ⟨⟨rfl, rfl, rfl, rfl⟩, ?_, by simp, ?_⟩
    · intro other keptLater
      rw [kept]
      exact Or.inl (List.mem_cons_of_mem _ keptLater)
    · intro other same
      cases same
      rw [kept]
      exact Or.inl (List.mem_cons_self ..)
  next none =>
    rcases runs_bind.mp runs with ⟨early, late, ⟨received, middle⟩, rfl, receives, meant⟩
    rcases runs_receiveMessage receives with ⟨alike, pending, unsent, read⟩
    rcases received with failure | message
    · rcases meant with ⟨rfl, same⟩
      cases same
      rw [List.append_nil]
      exact ⟨alike, .of_pending pending, unsent, nofun⟩
    · dsimp only at meant
      split at meant
      next delivery decoded =>
        rcases meant with ⟨rfl, same⟩
        cases same
        rw [List.append_nil]
        refine ⟨alike, .of_pending pending, unsent, ?_⟩
        intro other same
        cases same
        exact Or.inr ⟨message, read message rfl, decoded⟩
      next =>
        rcases meant with ⟨rfl, same⟩
        cases same
        rw [List.append_nil]
        exact ⟨alike, .of_pending pending, unsent, nofun⟩

theorem runs_setReceiveTimeout {limit : Option Nat} {outcome : Except Failure Unit}
    (runs : (client.setReceiveTimeout limit).run.Runs trace outcome) :
    ∀ exchange ∈ trace, exchange.sent? = none := by
  rcases runs with ⟨_ | _, _, rfl, rfl, -⟩
  all_goals simp [Exchange.sent?]

/-- A client that has just connected has not asked for anything and keeps nothing. -/
theorem runs_connect {name : String} (runs : (connect name).run.Runs trace (.ok client)) :
    client.sequence = 0 ∧ client.pending = [] ∧ client.buffer.capacity = Delivery.maxSize := by
  rcases runs_bind.mp runs with ⟨_, _, failure | connection, rfl, _, made⟩
  · cases made.2
  · rcases made with ⟨port, _, rfl, rfl, same⟩
    cases same
    exact ⟨rfl, rfl, rfl⟩

/-- A client is connected when the system lets it. -/
theorem runs_connect_mk {name : String} {address : LocalAddress} (socket : Descriptor) (port : UInt32)
    (named : LocalAddress.ofName name = .ok address) :
    (connect name).run.Runs [⟨.openSocket .process true, .ok socket⟩,
        ⟨.connect socket address, .ok ()⟩, ⟨.processId, port⟩]
      (.ok ⟨⟨socket⟩, port, 0, Buffer.zeroed Delivery.maxSize, []⟩) := by
  have connects : (Connection.connect name).run.Runs [⟨.openSocket .process true, .ok socket⟩,
      ⟨.connect socket address, .ok ()⟩] (.ok ⟨socket⟩) := by
    unfold Connection.connect
    rw [named]
    exact ⟨.ok socket, _, rfl, .ok (), _, rfl, rfl, rfl⟩
  exact Program.runs_bind.mpr ⟨_, _, _, rfl, connects, port, _, rfl, rfl, rfl⟩

theorem connects_radio (socket : Descriptor) (port : UInt32) : ∃ trace,
    (connect "radio").run.Runs trace (.ok ⟨⟨socket⟩, port, 0, Buffer.zeroed Delivery.maxSize, []⟩) := by
  have named : (LocalAddress.ofName "radio").toOption.isSome := by decide +kernel
  cases address : LocalAddress.ofName "radio" with
  | error failure =>
    rw [address] at named
    cases named
  | ok address' => exact ⟨_, runs_connect_mk socket port address⟩

end Client

/-- A client and the addresses that it asked for, one after the other. -/
structure Station where
  client : Client
  asked : List MacAddress

/-- One call of a client from its beginning to its end, whatever comes of it. -/
inductive Visit : Station → Trace → Station → Prop
  | registers {client after : Client} {asked : List MacAddress} {trace : Trace}
    {outcome : Except Failure Unit} (mac : MacAddress)
    (runs : (client.register mac).Runs trace (outcome, after)) :
    Visit ⟨client, asked⟩ trace ⟨after, asked ++ [mac]⟩
  | receives {client after : Client} {asked : List MacAddress} {trace : Trace}
    {outcome : Except Failure Delivery} (runs : client.receiveFrame.Runs trace (outcome, after)) :
    Visit ⟨client, asked⟩ trace ⟨after, asked⟩
  | limits {client : Client} {asked : List MacAddress} {trace : Trace} {limit : Option Nat}
    {outcome : Except Failure Unit} (runs : (client.setReceiveTimeout limit).run.Runs trace outcome) :
    Visit ⟨client, asked⟩ trace ⟨client, asked⟩

/-- What a client is and keeps comes from what it asked for and what it read. -/
structure Station.Grown (first : Client) (past : Trace) (station : Station) : Prop where
  alike : { first with sequence := UInt32.ofNat station.asked.length }.Alike station.client
  pending : ∀ delivery ∈ station.client.pending,
    ∃ message, first.Read past message ∧ Delivery.decode message = .ok delivery
  sent : ∀ socket message outcome, ⟨.send socket message, outcome⟩ ∈ past →
    ∃ index mac, station.asked[index]? = some mac
      ∧ message = Request.encodeRegister mac (UInt32.ofNat (index + 1)) first.port

/-- Two numbers of requests are different before the numbers run out. -/
theorem eq_of_sequence {first second : Nat}
    (same : UInt32.ofNat (first + 1) = UInt32.ofNat (second + 1))
    (firstFew : first + 1 < 4294967296) (secondFew : second + 1 < 4294967296) :
    first = second := by
  have numbers := congrArg UInt32.toNat same
  rw [UInt32.toNat_ofNat', UInt32.toNat_ofNat'] at numbers
  omega

namespace Station.Grown

variable {first : Client} {past trace : Trace} {station : Station} {after : Client}

theorem keeps (grown : station.Grown first past) (keeps : station.client.Keeps trace after) :
    ∀ delivery ∈ after.pending,
      ∃ message, first.Read (past ++ trace) message ∧ Delivery.decode message = .ok delivery := by
  intro delivery kept
  rcases keeps delivery kept with keptBefore | ⟨message, read, decoded⟩
  · rcases grown.pending delivery keptBefore with ⟨message, read, decoded⟩
    exact ⟨message, read.mono (List.subset_append_left ..), decoded⟩
  · exact ⟨message, (grown.alike.read read).mono (List.subset_append_right ..), decoded⟩

/-- The number of the next request. -/
theorem sequence_add_one (grown : station.Grown first past) :
    station.client.sequence + 1 = UInt32.ofNat (station.asked.length + 1) := by
  rw [grown.alike.sequence, UInt32.ofNat_add]
  rfl

theorem of_unsent (grown : station.Grown first past)
    (alike : station.client.Alike after) (keeps : station.client.Keeps trace after)
    (unsent : ∀ exchange ∈ trace, exchange.sent? = none) :
    Grown first (past ++ trace) ⟨after, station.asked⟩ := by
  refine ⟨grown.alike.trans alike, grown.keeps keeps, ?_⟩
  intro socket message outcome sent
  rcases List.mem_append.mp sent with sentBefore | sentNow
  · exact grown.sent socket message outcome sentBefore
  · cases unsent _ sentNow

theorem of_register (grown : station.Grown first past) {mac : MacAddress}
    {outcome : Except Failure Unit}
    (runs : (station.client.register mac).Runs trace (outcome, after)) :
    Grown first (past ++ trace) ⟨after, station.asked ++ [mac]⟩ := by
  have number := grown.sequence_add_one
  have port := grown.alike.port
  rcases Client.runs_register runs with ⟨answer, rest, rfl, alike, keeps, unsent, -⟩
  refine ⟨⟨alike.connection.trans grown.alike.connection, alike.port.trans port, ?_,
    alike.capacity.trans grown.alike.capacity⟩, grown.keeps keeps, ?_⟩
  · rw [alike.sequence, List.length_append]
    exact number
  · intro socket message outcome sent
    rcases List.mem_append.mp sent with sentBefore | sentNow
    · rcases grown.sent socket message outcome sentBefore with ⟨index, other, asked, same⟩
      refine ⟨index, other, ?_, same⟩
      rw [List.getElem?_append_left (List.getElem?_eq_some_iff.mp asked).1]
      exact asked
    · rcases List.mem_cons.mp sentNow with request | sentLater
      · cases request
        refine ⟨station.asked.length, mac, by simp, ?_⟩
        rw [number, port]
      · cases unsent _ sentLater

theorem of_visit {later : Station} (grown : station.Grown first past)
    (visit : Visit station trace later) : later.Grown first (past ++ trace) := by
  cases visit with
  | registers mac runs => exact grown.of_register runs
  | receives runs =>
    rcases Client.runs_receiveFrame runs with ⟨alike, keeps, unsent, -⟩
    exact grown.of_unsent alike keeps unsent
  | limits runs => exact grown.of_unsent .refl (.of_pending rfl) (Client.runs_setReceiveTimeout runs)

/-- No request is sent twice. -/
theorem unsent {mac : MacAddress} (grown : station.Grown first past)
    (few : station.asked.length + 1 < 4294967296) (socket : Descriptor) (outcome : Attempt Nat) :
    ⟨.send socket (Request.encodeRegister mac (station.client.sequence + 1) station.client.port),
      outcome⟩ ∉ past := by
  intro sent
  rcases grown.sent _ _ _ sent with ⟨index, other, asked, same⟩
  have bound := (List.getElem?_eq_some_iff.mp asked).1
  rw [grown.sequence_add_one] at same
  have sequence := Request.sequence_of_encodeRegister same
  have equal := eq_of_sequence sequence few (by omega)
  omega

end Station.Grown

/-- Whatever calls a client made, what it is and keeps comes from what it asked for and read. -/
theorem grown_of_course {first : Client} {past : Trace} {station : Station}
    (fresh : first.sequence = 0 ∧ first.pending = [])
    (visits : Course Visit ⟨first, []⟩ past station) : station.Grown first past := by
  induction visits with
  | start =>
    refine ⟨⟨rfl, rfl, fresh.1, rfl⟩, ?_, by simp⟩
    intro delivery kept
    rw [fresh.2] at kept
    cases kept
  | next _ visit ih => exact ih.of_visit visit

end RadioRelay
