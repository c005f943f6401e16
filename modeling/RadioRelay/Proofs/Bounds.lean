import RadioRelay.Proofs.Failing
import RadioRelay.Proofs.Registering
import RadioRelay.Proofs.Wire.Indexing

/-!
# Nobody leaves a buffer

Those who receive into a buffer are given here a second time, with the buffer as the bytes it
consists of, with slices and indices that are partial, and with the byte strings that they hand to
a decoder noted down. An access out of range would leave them without a result; there is none
(`accesses_in_range`).
-/

namespace RadioRelay

open Program

namespace Buffer

def content (buffer : Buffer) : Bytes :=
  (buffer.written ++ List.replicate (buffer.capacity - buffer.written.length) 0).take
    buffer.capacity

theorem length_content (buffer : Buffer) : buffer.content.length = buffer.capacity := by
  simp only [content, List.length_take, List.length_append, List.length_replicate]
  omega

theorem slice?_eq_range? (buffer : Buffer) (count : Nat) :
    buffer.slice? count = buffer.content.range? 0 count := by
  rw [slice?, Bytes.range?, length_content]
  by_cases inside : count ≤ buffer.capacity
  · rw [if_pos inside, if_pos ⟨Nat.zero_le _, inside⟩, List.drop_zero, content, List.take_take,
      Nat.min_eq_left inside, List.take_append, List.take_replicate]
    congr 3
    omega
  · rw [if_neg inside, if_neg fun both => inside both.2]

/-- More than a buffer holds is not read; all that it holds can be. -/
theorem slice?_cases (buffer : Buffer) (count : Nat) :
    (buffer.capacity < count ∧ buffer.slice? count = none)
      ∨ (¬ buffer.capacity < count ∧ ∃ bytes, buffer.slice? count = some bytes
        ∧ buffer.content.range? 0 count = some bytes) := by
  rw [← slice?_eq_range?]
  cases sliced : buffer.slice? count with
  | none => exact Or.inl ⟨slice?_eq_none_iff.mp sliced, rfl⟩
  | some bytes =>
    refine Or.inr ⟨fun long => ?_, bytes, rfl, rfl⟩
    rw [slice?_eq_none_iff.mpr long] at sliced
    cases sliced

/-- What was just received is what is read, and nothing that was in the buffer before. -/
theorem range?_seen {buffer : Buffer} {message : Bytes}
    (fits : message.length ≤ buffer.capacity) :
    (buffer.store (seen buffer.capacity message).stored).content.range? 0 message.length
      = some message := by
  rw [← slice?_eq_range?, seen, List.take_of_length_le fits]
  exact slice?_store_length buffer message fits

end Buffer

namespace Router

def handleKernelIndexed (router : Router) : Program (Option (Router × List Bytes)) := do
  match ← Program.call (.receive router.kernel router.kernelBuffer.capacity) with
  | .error errno =>
    if errno.isTransient then return some (router, [])
    Program.call (.log (if errno = .noBuffers then .datagramsLost else .kernelUnreadable errno))
    return some (router, [])
  | .ok received =>
    let router := { router with kernelBuffer := router.kernelBuffer.store received.stored }
    if router.kernelBuffer.capacity < received.size then
      Program.call (.log (.oversizedDatagram received.size router.kernelBuffer.capacity))
      return some (router.ignoreDatagram, [])
    else
      match router.kernelBuffer.content.range? 0 received.size with
      | none => return none
      | some datagram =>
        match Notification.decodeIndexed datagram router.family with
        | none => return none
        | some none => return some (router.ignoreDatagram, [datagram])
        | some (some notification) => return some (← router.forward notification, [datagram])

theorem handleKernelIndexed_eq (router : Router) :
    Option.map Prod.fst <$> router.handleKernelIndexed = some <$> router.handleKernel := by
  rw [handleKernelIndexed, handleKernel, map_bind, map_bind]
  congr 1
  funext answer
  cases answer with
  | error errno =>
    dsimp only
    split <;> rfl
  | ok received =>
    dsimp only
    rcases (router.kernelBuffer.store received.stored).slice?_cases received.size with
      ⟨long, none⟩ | ⟨fits, datagram, sliced, indexed⟩
    · rw [if_pos long, none]
      rfl
    · rw [if_neg fits, sliced, indexed]
      dsimp only
      rw [Notification.decodeIndexed_eq]
      cases Notification.decode? datagram router.family with
      | none => rfl
      | some notification => simp

theorem decoded_of_handleKernelIndexed {router : Router} {message : Bytes} {rest : Trace}
    {result : Option (Router × List Bytes)}
    (runs : router.handleKernelIndexed.Runs
      (⟨.receive router.kernel router.kernelBuffer.capacity,
        .ok (seen router.kernelBuffer.capacity message)⟩ :: rest) result) :
    ∃ after, result
      = some (after, if message.length ≤ router.kernelBuffer.capacity then [message] else []) := by
  rcases runs_call_bind.mp runs with ⟨answer, later, same, answered⟩
  cases same
  change (if router.kernelBuffer.capacity < message.length then _
    else _ : Program _).Runs rest result at answered
  by_cases long : router.kernelBuffer.capacity < message.length
  · rw [if_pos long] at answered
    rcases answered with ⟨_, _, rfl, rfl, rfl⟩
    rw [if_neg (Nat.not_le.mpr long)]
    exact ⟨_, rfl⟩
  · have fits : message.length ≤ router.kernelBuffer.capacity := Nat.not_lt.mp long
    have read : (router.kernelBuffer.store
        (seen router.kernelBuffer.capacity message).stored).content.range? 0
          (seen router.kernelBuffer.capacity message).size = some message := Buffer.range?_seen fits
    rw [if_neg long, read] at answered
    dsimp only at answered
    rw [Notification.decodeIndexed_eq] at answered
    rw [if_pos fits]
    cases decoded : Notification.decode? message router.family with
    | none =>
      simp only [decoded] at answered
      rcases answered with ⟨rfl, rfl⟩
      exact ⟨_, rfl⟩
    | some notification =>
      simp only [decoded] at answered
      rcases runs_bind.mp answered with ⟨_, _, after, rfl, -, rfl, rfl⟩
      exact ⟨after, rfl⟩

def handleClientIndexed (router : Router) (id : ClientId) :
    Program (Option (Router × List Bytes)) := do
  match router.registry.get? id with
  | none => return some (router, [])
  | some connection =>
    match ← connection.receive router.clientBuffer.capacity with
    | .error errno =>
      if errno.isTransient then return some (router, [])
      return some (← router.removeClient id (.receiveFailed errno), [])
    | .ok received =>
      let router := { router with clientBuffer := router.clientBuffer.store received.stored }
      if received.size = 0 then return some (← router.removeClient id .endOfStream, [])
      else if router.clientBuffer.capacity < received.size then
        let reason := .oversizedMessage received.size router.clientBuffer.capacity
        return some (← router.reject id reason, [])
      else
        match router.clientBuffer.content.range? 0 received.size with
        | none => return none
        | some bytes =>
          match ClientMessage.decodeIndexed bytes with
          | none => return none
          | some (.error error) =>
            return some (← router.reject id (.protocolViolation error), [bytes])
          | some (.ok message) =>
            let (result, router) ← router.perform id message.request
            return some (← router.acknowledge id result message.header, [bytes])

theorem handleClientIndexed_eq (router : Router) (id : ClientId) :
    Option.map Prod.fst <$> router.handleClientIndexed id = some <$> router.handleClient id := by
  rw [handleClientIndexed, handleClient]
  cases router.registry.get? id with
  | none => rfl
  | some connection =>
    dsimp only
    rw [map_bind, map_bind]
    congr 1
    funext answer
    cases answer with
    | error errno =>
      dsimp only
      split
      · rfl
      · simp
    | ok received =>
      dsimp only
      split
      next => simp
      next =>
        rcases (router.clientBuffer.store received.stored).slice?_cases received.size with
          ⟨long, none⟩ | ⟨fits, bytes, sliced, indexed⟩
        · rw [if_pos long, none]
          simp
        · rw [if_neg fits, sliced, indexed]
          dsimp only
          rw [ClientMessage.decodeIndexed_eq, answer]
          cases ClientMessage.decode bytes with
          | error error => simp
          | ok message => simp

theorem decoded_of_handleClientIndexed {router : Router} {id : ClientId}
    {connection : Connection} {message : Bytes} {rest : Trace}
    {result : Option (Router × List Bytes)} (connected : router.registry.get? id = some connection)
    (runs : (router.handleClientIndexed id).Runs
      (⟨.receive connection.descriptor router.clientBuffer.capacity,
        .ok (seen router.clientBuffer.capacity message)⟩ :: rest) result) :
    ∃ after, result = some (after,
      if message ≠ [] ∧ message.length ≤ router.clientBuffer.capacity then [message] else []) := by
  rw [handleClientIndexed, connected] at runs
  rcases runs_call_bind.mp runs with ⟨answer, later, same, answered⟩
  cases same
  change (if message.length = 0 then _ else if router.clientBuffer.capacity < message.length then _
    else _ : Program _).Runs rest result at answered
  by_cases empty : message.length = 0
  · rw [if_pos empty] at answered
    rcases runs_bind.mp answered with ⟨_, _, after, rfl, -, rfl, rfl⟩
    rw [if_neg fun both => both.1 (List.length_eq_zero_iff.mp empty)]
    exact ⟨after, rfl⟩
  rw [if_neg empty] at answered
  by_cases long : router.clientBuffer.capacity < message.length
  · rw [if_pos long] at answered
    rcases runs_bind.mp answered with ⟨_, _, after, rfl, -, rfl, rfl⟩
    rw [if_neg fun both => Nat.not_le.mpr long both.2]
    exact ⟨after, rfl⟩
  · have fits : message.length ≤ router.clientBuffer.capacity := Nat.not_lt.mp long
    have read : (router.clientBuffer.store
        (seen router.clientBuffer.capacity message).stored).content.range? 0
          (seen router.clientBuffer.capacity message).size = some message := Buffer.range?_seen fits
    rw [if_neg long, read] at answered
    dsimp only at answered
    rw [ClientMessage.decodeIndexed_eq] at answered
    rw [if_pos ⟨fun nothing => empty (List.length_eq_zero_iff.mpr nothing), fits⟩]
    cases decoded : ClientMessage.decode message with
    | error error =>
      simp only [decoded] at answered
      rcases runs_bind.mp answered with ⟨_, _, after, rfl, -, rfl, rfl⟩
      exact ⟨after, rfl⟩
    | ok judged =>
      simp only [decoded] at answered
      rcases runs_bind.mp answered with ⟨_, _, ⟨_, middle⟩, rfl, -, answered⟩
      rcases runs_bind.mp answered with ⟨_, _, after, rfl, -, rfl, rfl⟩
      exact ⟨after, rfl⟩

end Router

namespace Client

def receiveMessageIndexed (client : Client) :
    Program (Option (Except Failure Bytes × Client)) := do
  match ← client.receiveUninterrupted with
  | .error errno =>
    return some (.error ((Failure.system errno).during .receivingFromRouter), client)
  | .ok received =>
    let client := { client with buffer := client.buffer.store received.stored }
    if received.size = 0 then return some (.error (.of .closedByRouter), client)
    else if client.buffer.capacity < received.size then
      return some (.error (.of (.messageTooLarge received.size)), client)
    else
      match client.buffer.content.range? 0 received.size with
      | none => return none
      | some message => return some (.ok message, client)

theorem receiveMessageIndexed_eq (client : Client) :
    client.receiveMessageIndexed = some <$> client.receiveMessage := by
  rw [receiveMessageIndexed, receiveMessage, map_bind]
  congr 1
  funext answer
  cases answer with
  | error errno => rfl
  | ok received =>
    dsimp only
    split
    next => rfl
    next =>
      rcases (client.buffer.store received.stored).slice?_cases received.size with
        ⟨long, none⟩ | ⟨fits, bytes, sliced, indexed⟩
      · rw [if_pos long, none]
        rfl
      · rw [if_neg fits, sliced, indexed]
        rfl

theorem read_of_receiveMessageIndexed {client : Client} {interruptions : Nat} {message : Bytes}
    {result : Option (Except Failure Bytes × Client)}
    (runs : client.receiveMessageIndexed.Runs
      (List.replicate interruptions client.interruption ++ [client.receipt (.ok message)]) result) :
    ∃ after, result = some (
      if message = [] then .error (.of .closedByRouter)
      else if message.length ≤ client.buffer.capacity then .ok message
      else .error (.of (.messageTooLarge message.length)), after) := by
  rw [receiveMessageIndexed_eq, receiveMessage_eq, map_bind] at runs
  rcases runs_bind.mp runs with ⟨_, _, answer, same, receives, rfl, rfl⟩
  rcases runs_receiveUninterrupted.mp receives with ⟨-, again, rfl⟩
  rw [List.append_nil] at same
  have last := (List.append_inj' same rfl).2
  cases last
  change ∃ after, some (client.takeIn (.ok (seen client.buffer.capacity message))) = _
  by_cases empty : message = []
  · subst empty
    exact ⟨_, rfl⟩
  rw [if_neg empty]
  by_cases fits : message.length ≤ client.buffer.capacity
  · rw [if_pos fits, takeIn_of_fits empty fits]
    exact ⟨_, rfl⟩
  · rw [if_neg fits, takeIn_of_long (Nat.lt_of_not_le fits)]
    exact ⟨_, rfl⟩

end Client

/-- Whatever the bytes are, no reader and no writer of messages accesses them out of range, and the
handlers never leave their buffers, whatever these hold and whatever count they are told. A message
that fits is what they decode, as it was received; of one that does not fit they decode nothing. -/
theorem accesses_in_range :
    (∀ bytes, Attribute.parseIndexed bytes = some (Attribute.parseAll bytes))
    ∧ (∀ bytes family,
      Notification.decodeIndexed bytes family = some (Notification.decode? bytes family))
    ∧ (∀ bytes, ClientMessage.decodeIndexed bytes = some (ClientMessage.decode bytes))
    ∧ (∀ bytes, Delivery.decodeIndexed bytes = some (Delivery.decode bytes))
    ∧ (∀ bytes, Acknowledgement.decodeIndexed bytes = some (Acknowledgement.decode? bytes))
    ∧ (∀ draft : Draft, draft.finishIndexed = some draft.finish)
    ∧ (∀ router : Router,
      Option.map Prod.fst <$> router.handleKernelIndexed = some <$> router.handleKernel
      ∧ ∀ message rest result,
        router.handleKernelIndexed.Runs
          (⟨.receive router.kernel router.kernelBuffer.capacity,
            .ok (seen router.kernelBuffer.capacity message)⟩ :: rest) result →
        ∃ after, result = some (after,
          if message.length ≤ router.kernelBuffer.capacity then [message] else []))
    ∧ (∀ (router : Router) (id : ClientId),
      Option.map Prod.fst <$> router.handleClientIndexed id = some <$> router.handleClient id
      ∧ ∀ connection message rest result, router.registry.get? id = some connection →
        (router.handleClientIndexed id).Runs
          (⟨.receive connection.descriptor router.clientBuffer.capacity,
            .ok (seen router.clientBuffer.capacity message)⟩ :: rest) result →
        ∃ after, result = some (after,
          if message ≠ [] ∧ message.length ≤ router.clientBuffer.capacity then [message] else []))
    ∧ ∀ client : Client, client.receiveMessageIndexed = some <$> client.receiveMessage
      ∧ ∀ interruptions message result,
        client.receiveMessageIndexed.Runs (List.replicate interruptions client.interruption
          ++ [client.receipt (.ok message)]) result →
        ∃ after, result = some (
          if message = [] then .error (.of .closedByRouter)
          else if message.length ≤ client.buffer.capacity then .ok message
          else .error (.of (.messageTooLarge message.length)), after) :=
  ⟨Attribute.parseIndexed_eq, Notification.decodeIndexed_eq, ClientMessage.decodeIndexed_eq,
    Delivery.decodeIndexed_eq, Acknowledgement.decodeIndexed_eq, Draft.finishIndexed_eq,
    fun router => ⟨router.handleKernelIndexed_eq,
      fun _ _ _ => Router.decoded_of_handleKernelIndexed⟩,
    fun router id => ⟨router.handleClientIndexed_eq id,
      fun _ _ _ _ => Router.decoded_of_handleClientIndexed⟩,
    fun client => ⟨client.receiveMessageIndexed_eq,
      fun _ _ _ => Client.read_of_receiveMessageIndexed⟩⟩

/-- A router with no room for datagrams, and with an earlier message in its other buffer. -/
def Router.roomless : Router :=
  { vacant with
    registry := (vacant.registry.add ⟨7⟩ ⟨⟨7⟩⟩).2
    kernelBuffer := Buffer.zeroed 0
    clientBuffer := ⟨4, [9, 9, 9, 9]⟩ }

theorem accesses_in_range_of_roomless :
    (∃ rest after, Router.roomless.handleKernelIndexed.Runs
      (⟨.receive ⟨4⟩ 0, .ok (seen 0 [1, 2, 3])⟩ :: rest) (some (after, [])))
    ∧ (∃ rest after, (Router.roomless.handleClientIndexed ⟨7⟩).Runs
      (⟨.receive ⟨7⟩ 4, .ok (seen 4 [1])⟩ :: rest) (some (after, [[1]])))
    ∧ ∃ after, visitor.receiveMessageIndexed.Runs [visitor.receipt (.ok [1])]
      (some (.ok [1], after)) := by
  rcases accesses_in_range with ⟨-, -, -, -, -, -, kernel, client, read⟩
  refine ⟨?_, ?_, ?_⟩
  · have runs : ∃ rest result, Router.roomless.handleKernelIndexed.Runs
        (⟨.receive ⟨4⟩ 0, .ok (seen 0 [1, 2, 3])⟩ :: rest) result :=
      ⟨_, _, _, _, rfl, (), [], rfl, rfl, rfl⟩
    rcases runs with ⟨rest, result, runs⟩
    rcases (kernel Router.roomless).2 [1, 2, 3] rest result runs with ⟨after, rfl⟩
    exact ⟨rest, after, runs⟩
  · have runs : ∃ rest result, (Router.roomless.handleClientIndexed ⟨7⟩).Runs
        (⟨.receive ⟨7⟩ 4, .ok (seen 4 [1])⟩ :: rest) result :=
      ⟨_, _, _, _, rfl, .ok (), _, rfl, (), _, rfl, (), [], rfl, rfl, rfl⟩
    rcases runs with ⟨rest, result, runs⟩
    rcases (client Router.roomless ⟨7⟩).2 ⟨⟨7⟩⟩ [1] rest result rfl runs with ⟨after, rfl⟩
    exact ⟨rest, after, runs⟩
  · have runs : ∃ result, visitor.receiveMessageIndexed.Runs
        (List.replicate 0 visitor.interruption ++ [visitor.receipt (.ok [1])]) result := by
      rw [Client.receiveMessageIndexed_eq, Client.receiveMessage_eq, map_bind]
      exact ⟨some (visitor.takeIn (.ok (seen _ [1]))), runs_bind.mpr ⟨_, [], .ok (seen _ [1]),
        (List.append_nil _).symm, Client.runs_receiveUninterrupted.mpr ⟨nofun, 0, rfl⟩, rfl, rfl⟩⟩
    rcases runs with ⟨result, runs⟩
    rcases (read visitor).2 0 [1] result runs with ⟨after, rfl⟩
    exact ⟨after, runs⟩

end RadioRelay
