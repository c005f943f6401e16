import RadioRelay.Proofs.Network.Reading

/-!
# How a registration ends

A client that has sent its request looks at one message after the other. It passes over
interruptions, acknowledgements of other requests, and frames, which it keeps; whatever else comes
first decides, and nothing is received after it. Runs of a registration are described in terms of
what arrives, and of the formats of acknowledgements and frames (`Client.register_of_arrivals`).
-/

namespace RadioRelay

open Program

/-- The buffer after a receive: a message fills its front, as far as there is room. -/
def Buffer.fill (buffer : Buffer) : Attempt Bytes → Buffer
  | .error _ => buffer
  | .ok message => buffer.store (message.take buffer.capacity)

/-- What a receive tells of a message: how long it is, and as much of it as there is room for. -/
def seen (capacity : Nat) (message : Bytes) : Received :=
  ⟨message.length, message.take capacity⟩

namespace Client

variable {client after : Client} {mac : MacAddress} {trace : Trace}

/-- A receive that takes in a whole message, as far as there is room, or fails. -/
def receipt (client : Client) (arrival : Attempt Bytes) : Exchange :=
  ⟨.receive client.connection.descriptor client.buffer.capacity,
    arrival.map (seen client.buffer.capacity)⟩

/-- What a client passes over while it awaits the acknowledgement of its latest request, and the
frames that it keeps of it. An acknowledgement is not taken for a frame. -/
inductive Passes (client : Client) : Attempt Bytes → List Delivery → Prop
  | interrupted : Passes client (.error .interrupted) []
  | stale {message : Bytes} {acknowledgement : Acknowledgement}
    (fits : message.length ≤ Delivery.maxSize)
    (read : Acknowledgement.decode? message = some acknowledgement)
    (foreign : acknowledgement.sequence ≠ client.sequence ∨ acknowledgement.port ≠ client.port) :
    Passes client (.ok message) []
  | frame {message : Bytes} {delivery : Delivery} (fits : message.length ≤ Delivery.maxSize)
    (acknowledges : Acknowledgement.decode? message = none)
    (read : Delivery.decode message = .ok delivery) : Passes client (.ok message) [delivery]

/-- What decides the registration of an address, and how. -/
inductive Decides (client : Client) (mac : MacAddress) :
    Attempt Bytes → Except Failure Unit → Prop
  | accepted {message : Bytes} (fits : message.length ≤ Delivery.maxSize)
    (read : Acknowledgement.decode? message = some ⟨client.sequence, client.port, 0⟩) :
    Decides client mac (.ok message) (.ok ())
  | refused {message : Bytes} {result : Int32} (fits : message.length ≤ Delivery.maxSize)
    (read : Acknowledgement.decode? message = some ⟨client.sequence, client.port, result⟩)
    (fails : result ≠ 0) :
    Decides client mac (.ok message)
      (.error ((Failure.system ⟨-result.toInt⟩).during (.registering mac)))
  | garbage {message : Bytes} {error : ProtocolError} (fits : message.length ≤ Delivery.maxSize)
    (nonempty : message ≠ []) (acknowledges : Acknowledgement.decode? message = none)
    (violates : Delivery.decode message = .error error) :
    Decides client mac (.ok message) (.error (.of (.unexpectedMessage error)))
  | oversized {message : Bytes} (long : Delivery.maxSize < message.length) :
    Decides client mac (.ok message) (.error (.of (.messageTooLarge message.length)))
  | closed : Decides client mac (.ok []) (.error (.of .closedByRouter))
  | failed {errno : Errno} (other : errno ≠ .interrupted) :
    Decides client mac (.error errno)
      (.error ((Failure.system errno).during .receivingFromRouter))

theorem passes_or_decides (client : Client) (mac : MacAddress) (arrival : Attempt Bytes) :
    (∃ frames, client.Passes arrival frames) ∨ ∃ outcome, client.Decides mac arrival outcome := by
  rcases arrival with errno | message
  · by_cases interrupted : errno = .interrupted
    · subst interrupted
      exact Or.inl ⟨[], .interrupted⟩
    · exact Or.inr ⟨_, .failed interrupted⟩
  rcases Nat.lt_or_ge Delivery.maxSize message.length with long | fits
  · exact Or.inr ⟨_, .oversized long⟩
  cases acknowledges : Acknowledgement.decode? message with
  | some acknowledgement =>
    by_cases foreign : acknowledgement.sequence ≠ client.sequence
        ∨ acknowledgement.port ≠ client.port
    · exact Or.inl ⟨[], .stale fits acknowledges foreign⟩
    · rcases acknowledgement with ⟨sequence, port, result⟩
      rcases not_or.mp foreign with ⟨sameSequence, samePort⟩
      obtain rfl : sequence = client.sequence := not_not.mp sameSequence
      obtain rfl : port = client.port := not_not.mp samePort
      by_cases success : result = 0
      · subst success
        exact Or.inr ⟨_, .accepted fits acknowledges⟩
      · exact Or.inr ⟨_, .refused fits acknowledges success⟩
  | none =>
    cases read : Delivery.decode message with
    | ok delivery => exact Or.inl ⟨[delivery], .frame fits acknowledges read⟩
    | error error =>
      by_cases empty : message = []
      · subst empty
        exact Or.inr ⟨_, .closed⟩
      · exact Or.inr ⟨_, .garbage fits empty acknowledges read⟩

/-! ### One receive -/

def takeIn (client : Client) : Attempt Received → Except Failure Bytes × Client
  | .error errno => (.error ((Failure.system errno).during .receivingFromRouter), client)
  | .ok received =>
    let client := { client with buffer := client.buffer.store received.stored }
    if received.size = 0 then (.error (.of .closedByRouter), client)
    else
      match client.buffer.slice? received.size with
      | none => (.error (.of (.messageTooLarge received.size)), client)
      | some message => (.ok message, client)

/-- What a client that awaits an acknowledgement does about it. -/
def react (mac : MacAddress) :
    Except Failure Bytes × Client → Client ⊕ (Except Failure Unit × Client)
  | (.error failure, client) => .inr (.error failure, client)
  | (.ok message, client) =>
    match client.interpret message with
    | .stale => .inl client
    | .frame delivery => .inl { client with pending := client.pending ++ [delivery] }
    | .accepted => .inr (.ok (), client)
    | .refused errno => .inr (.error ((Failure.system errno).during (.registering mac)), client)
    | .garbage error => .inr (.error (.of (.unexpectedMessage error)), client)

theorem receiveMessage_eq :
    client.receiveMessage
      = client.receiveUninterrupted >>= fun answer => pure (client.takeIn answer) := by
  unfold receiveMessage
  congr 1
  funext answer
  cases answer with
  | error errno => rfl
  | ok received =>
    dsimp only [takeIn]
    split
    next => rfl
    next => cases (client.buffer.store received.stored).slice? received.size <;> rfl

theorem awaitOnce_eq :
    awaitOnce mac client = client.receiveMessage >>= fun read => pure (react mac read) := by
  unfold awaitOnce
  congr 1
  funext read
  rcases read with ⟨failure | message, middle⟩
  · rfl
  · dsimp only [react]
    cases middle.interpret message <;> rfl

/-- A client that reacts to a message is interrupted any number of times before it receives one. -/
theorem runs_reaction_iff {α : Type} {reaction : Except Failure Bytes × Client → α} {outcome : α} :
    (client.receiveMessage >>= fun read => pure (reaction read)).Runs trace outcome ↔
      ∃ interruptions answer, trace = List.replicate interruptions client.interruption
          ++ [⟨.receive client.connection.descriptor client.buffer.capacity, answer⟩]
        ∧ answer ≠ .error .interrupted ∧ outcome = reaction (client.takeIn answer) := by
  rw [receiveMessage_eq]
  constructor
  · intro runs
    rcases runs_bind.mp runs with ⟨_, _, read, rfl, reads, rfl, rfl⟩
    rcases runs_bind.mp reads with ⟨_, _, answer, rfl, receives, rfl, rfl⟩
    rcases runs_receiveUninterrupted.mp receives with ⟨answered, interruptions, rfl⟩
    rw [List.append_nil, List.append_nil]
    exact ⟨interruptions, answer, rfl, answered, rfl⟩
  · rintro ⟨interruptions, answer, rfl, answered, rfl⟩
    refine runs_bind.mpr ⟨_, [], client.takeIn answer, (List.append_nil _).symm, ?_, rfl, rfl⟩
    refine runs_bind.mpr ⟨_, [], answer, (List.append_nil _).symm, ?_, rfl, rfl⟩
    exact runs_receiveUninterrupted.mpr ⟨answered, interruptions, rfl⟩

theorem runs_awaitOnce_iff {outcome : Client ⊕ (Except Failure Unit × Client)} :
    (awaitOnce mac client).Runs trace outcome ↔
      ∃ interruptions answer, trace = List.replicate interruptions client.interruption
          ++ [⟨.receive client.connection.descriptor client.buffer.capacity, answer⟩]
        ∧ answer ≠ .error .interrupted ∧ outcome = react mac (client.takeIn answer) := by
  rw [awaitOnce_eq]
  exact runs_reaction_iff

/-- The client after some receives, with the frames that it keeps of them. -/
def keep (client : Client) (arrivals : List (Attempt Bytes)) (frames : List Delivery) : Client :=
  { client with
    buffer := arrivals.foldl Buffer.fill client.buffer
    pending := client.pending ++ frames }

theorem capacity_foldl_fill (buffer : Buffer) (arrivals : List (Attempt Bytes)) :
    (arrivals.foldl Buffer.fill buffer).capacity = buffer.capacity := by
  induction arrivals generalizing buffer with
  | nil => rfl
  | cons arrival arrivals ih =>
    rw [List.foldl_cons, ih]
    cases arrival <;> rfl

theorem alike_keep (client : Client) (arrivals : List (Attempt Bytes))
    (frames : List Delivery) : client.Alike (client.keep arrivals frames) :=
  ⟨rfl, rfl, rfl, capacity_foldl_fill _ _⟩

theorem keep_keep {early late : List (Attempt Bytes)} {frames more : List Delivery} :
    (client.keep early frames).keep late more = client.keep (early ++ late) (frames ++ more) := by
  simp [keep, List.foldl_append]

theorem takeIn_of_fits {message : Bytes} (nonempty : message ≠ [])
    (fits : message.length ≤ client.buffer.capacity) :
    client.takeIn (.ok (seen client.buffer.capacity message))
      = (.ok message, client.keep [.ok message] []) := by
  have whole : message.take client.buffer.capacity = message := List.take_of_length_le fits
  have sliced : (client.buffer.store message).slice? message.length = some message :=
    Buffer.slice?_store_length _ _ fits
  simp [takeIn, seen, nonempty, whole, sliced, keep, Buffer.fill]

theorem takeIn_of_long {message : Bytes} (long : client.buffer.capacity < message.length) :
    client.takeIn (.ok (seen client.buffer.capacity message))
      = (.error (.of (.messageTooLarge message.length)), client.keep [.ok message] []) := by
  have nonempty : message ≠ [] := List.ne_nil_of_length_pos (Nat.zero_lt_of_lt long)
  have sliced : (client.buffer.store (message.take client.buffer.capacity)).slice? message.length
      = none := Buffer.slice?_eq_none_iff.mpr long
  simp [takeIn, seen, nonempty, sliced, keep, Buffer.fill]

theorem ne_nil_of_acknowledges {message : Bytes} {acknowledgement : Acknowledgement}
    (read : Acknowledgement.decode? message = some acknowledgement) : message ≠ [] := by
  rintro rfl
  cases read

theorem ne_nil_of_delivers {message : Bytes} {delivery : Delivery}
    (read : Delivery.decode message = .ok delivery) : message ≠ [] := by
  rintro rfl
  cases read

section Reactions

variable (room : client.buffer.capacity = Delivery.maxSize) {arrival : Attempt Bytes}

include room

theorem react_of_passes {frames : List Delivery} (passes : client.Passes arrival frames)
    (answered : arrival ≠ .error .interrupted) :
    react mac (client.takeIn (arrival.map (seen client.buffer.capacity)))
      = .inl (client.keep [arrival] frames) := by
  cases passes with
  | interrupted => exact absurd rfl answered
  | @stale message _ fits read foreign =>
    have taken := takeIn_of_fits (ne_nil_of_acknowledges read) (room ▸ fits)
    have meant : client.interpret message = .stale := by simp only [interpret, read, if_pos foreign]
    simp only [Except.map, taken, react, (client.alike_keep _ _).interpret, meant]
  | @frame message delivery fits acknowledges read =>
    have taken := takeIn_of_fits (ne_nil_of_delivers read) (room ▸ fits)
    have meant : client.interpret message = .frame delivery := by
      simp only [interpret, acknowledges, read]
    simp only [Except.map, taken, react, (client.alike_keep _ _).interpret, meant]
    simp [keep]

theorem react_of_decides {outcome : Except Failure Unit}
    (decides : client.Decides mac arrival outcome) :
    react mac (client.takeIn (arrival.map (seen client.buffer.capacity)))
      = .inr (outcome, client.keep [arrival] []) := by
  cases decides with
  | @accepted message fits read =>
    have taken := takeIn_of_fits (ne_nil_of_acknowledges read) (room ▸ fits)
    have meant : client.interpret message = .accepted := by simp [interpret, read]
    simp only [Except.map, taken, react, (client.alike_keep _ _).interpret, meant]
  | @refused message result fits read fails =>
    have taken := takeIn_of_fits (ne_nil_of_acknowledges read) (room ▸ fits)
    have meant : client.interpret message = .refused ⟨-result.toInt⟩ := by
      simp [interpret, read, fails]
    simp only [Except.map, taken, react, (client.alike_keep _ _).interpret, meant]
  | @garbage message error fits nonempty acknowledges violates =>
    have taken := takeIn_of_fits nonempty (room ▸ fits)
    have meant : client.interpret message = .garbage error := by
      simp only [interpret, acknowledges, violates]
    simp only [Except.map, taken, react, (client.alike_keep _ _).interpret, meant]
  | oversized long =>
    simp only [Except.map, takeIn_of_long (room ▸ long), react]
  | closed => simp [Except.map, seen, takeIn, react, keep, Buffer.fill]
  | failed other => simp [Except.map, takeIn, react, keep, Buffer.fill]

end Reactions

/-! ### The whole wait -/

theorem Passes.alike {arrival : Attempt Bytes} {frames : List Delivery}
    (passes : client.Passes arrival frames) (alike : client.Alike after) :
    after.Passes arrival frames := by
  cases passes with
  | interrupted => exact .interrupted
  | stale fits read foreign =>
    rw [← alike.sequence, ← alike.port] at foreign
    exact .stale fits read foreign
  | frame fits acknowledges read => exact .frame fits acknowledges read

theorem Decides.alike {arrival : Attempt Bytes} {outcome : Except Failure Unit}
    (decides : client.Decides mac arrival outcome) (alike : client.Alike after) :
    after.Decides mac arrival outcome := by
  cases decides with
  | accepted fits read =>
    rw [← alike.sequence, ← alike.port] at read
    exact .accepted fits read
  | refused fits read fails =>
    rw [← alike.sequence, ← alike.port] at read
    exact .refused fits read fails
  | garbage fits nonempty acknowledges violates =>
    exact .garbage fits nonempty acknowledges violates
  | oversized long => exact .oversized long
  | closed => exact .closed
  | failed other => exact .failed other

theorem Alike.receipt_eq (alike : client.Alike after) : after.receipt = client.receipt :=
  congrArg₂ (fun (connection : Connection) (capacity : Nat) (arrival : Attempt Bytes) =>
      (⟨.receive connection.descriptor capacity, arrival.map (seen capacity)⟩ : Exchange))
    alike.connection alike.capacity

theorem Alike.symm (alike : client.Alike after) : after.Alike client :=
  ⟨alike.connection.symm, alike.port.symm, alike.sequence.symm, alike.capacity.symm⟩

/-- A receive that stores what fits is the receipt of some message. -/
theorem exists_seen {socket : Descriptor} {capacity : Nat} {answer : Attempt Received}
    (faithful : Exchange.Faithful ⟨.receive socket capacity, answer⟩) :
    ∃ arrival : Attempt Bytes, answer = arrival.map (seen capacity) := by
  rcases answer with errno | ⟨size, stored⟩
  · exact ⟨.error errno, rfl⟩
  · have stores : stored.length = min size capacity := faithful
    refine ⟨.ok (stored ++ List.replicate (size - stored.length) 0), ?_⟩
    have whole : (stored ++ List.replicate (size - stored.length) 0).length = size := by
      simp only [List.length_append, List.length_replicate]
      omega
    have part : (stored ++ List.replicate (size - stored.length) 0).take capacity = stored := by
      rcases Nat.le_total size capacity with fits | long
      · rw [stores, Nat.min_eq_left fits, Nat.sub_self, List.replicate_zero, List.append_nil]
        exact List.take_of_length_le (by omega)
      · exact List.take_left' (by omega)
    simp only [Except.map, seen, whole, part]

theorem faithful_receipt (client : Client) (arrival : Attempt Bytes) :
    (client.receipt arrival).Faithful := by
  cases arrival with
  | error errno => trivial
  | ok message => exact (List.length_take ..).trans (Nat.min_comm ..)

theorem foldl_fill_replicate (buffer : Buffer) (interruptions : Nat) :
    (List.replicate interruptions (.error .interrupted : Attempt Bytes)).foldl Buffer.fill buffer
      = buffer := by
  induction interruptions with
  | zero => rfl
  | succ interruptions ih => exact ih

theorem passes_replicate (client : Client) (interruptions : Nat) :
    List.Forall₂ client.Passes (List.replicate interruptions (.error .interrupted))
      (List.replicate interruptions []) := by
  induction interruptions with
  | zero => exact .nil
  | succ interruptions ih => exact .cons .interrupted ih

theorem rounds_of_interrupted {result : Except Failure Unit × Client}
    (rounds : Rounds (fun client trace outcome => (awaitOnce mac client).Runs trace outcome)
      client trace result) :
    Rounds (fun client trace outcome => (awaitOnce mac client).Runs trace outcome) client
      (client.interruption :: trace) result := by
  have longer {first : Trace} {outcome : Client ⊕ (Except Failure Unit × Client)}
      (runs : (awaitOnce mac client).Runs first outcome) :
      (awaitOnce mac client).Runs (client.interruption :: first) outcome := by
    rcases runs_awaitOnce_iff.mp runs with ⟨interruptions, answer, rfl, answered, rfl⟩
    exact runs_awaitOnce_iff.mpr ⟨interruptions + 1, answer, rfl, answered, rfl⟩
  cases rounds with
  | last ends => exact .last (longer ends)
  | again goesOn later => exact .again (longer goesOn) later

theorem runs_awaitOnce_of_receipt {arrival : Attempt Bytes}
    {outcome : Client ⊕ (Except Failure Unit × Client)} (answered : arrival ≠ .error .interrupted)
    (reacts : react mac (client.takeIn (arrival.map (seen client.buffer.capacity))) = outcome) :
    (awaitOnce mac client).Runs [client.receipt arrival] outcome := by
  refine runs_awaitOnce_iff.mpr ⟨0, _, rfl, ?_, reacts.symm⟩
  cases arrival with
  | error errno =>
    intro same
    cases same
    exact answered rfl
  | ok message => nofun

section Waiting

variable (room : client.buffer.capacity = Delivery.maxSize)

include room

/-- A round passes over interruptions, and then over one message or none. -/
theorem arrivals_of_round {outcome : Client ⊕ (Except Failure Unit × Client)}
    (runs : (awaitOnce mac client).Runs trace outcome)
    (faithful : ∀ exchange ∈ trace, exchange.Faithful) :
    ∃ passed kept last, trace = (passed ++ [last]).map client.receipt
      ∧ List.Forall₂ client.Passes passed kept ∧ kept.flatten = []
      ∧ ((∃ frames, client.Passes last frames
          ∧ outcome = .inl (client.keep (passed ++ [last]) frames))
        ∨ ∃ decided, client.Decides mac last decided
          ∧ outcome = .inr (decided, client.keep (passed ++ [last]) [])) := by
  rcases runs_awaitOnce_iff.mp runs with ⟨interruptions, answer, rfl, answered, rfl⟩
  rw [List.forall_mem_append, List.forall_mem_singleton] at faithful
  rcases exists_seen faithful.2 with ⟨last, rfl⟩
  have uninterrupted : last ≠ .error .interrupted := by
    rintro rfl
    exact answered rfl
  have skipped (frames : List Delivery) :
      client.keep (List.replicate interruptions (.error .interrupted) ++ [last]) frames
        = client.keep [last] frames := by
    simp only [keep, List.foldl_append, foldl_fill_replicate]
  refine ⟨_, _, last, ?_, client.passes_replicate interruptions, by simp, ?_⟩
  · rw [List.map_append, List.map_replicate]
    rfl
  · simp only [skipped]
    rcases client.passes_or_decides mac last with ⟨frames, passes⟩ | ⟨decided, decides⟩
    · exact Or.inl ⟨frames, passes, react_of_passes room passes uninterrupted⟩
    · exact Or.inr ⟨decided, decides, react_of_decides room decides⟩

theorem rounds_of_arrivals {passed : List (Attempt Bytes)} {kept : List (List Delivery)}
    {last : Attempt Bytes} {outcome : Except Failure Unit}
    (passes : List.Forall₂ client.Passes passed kept) (decides : client.Decides mac last outcome) :
    Rounds (fun client trace outcome => (awaitOnce mac client).Runs trace outcome) client
      ((passed ++ [last]).map client.receipt)
      (outcome, client.keep (passed ++ [last]) kept.flatten) := by
  induction passed generalizing client kept with
  | nil =>
    cases passes
    refine .last (runs_awaitOnce_of_receipt ?_ (react_of_decides room decides))
    rintro rfl
    cases decides with
    | failed other => exact other rfl
  | cons arrival passed ih =>
    rcases passes with _ | ⟨now, later⟩
    rename_i frames kept
    -- An interruption does not end its round, and any other arrival does.
    by_cases interrupted : arrival = .error .interrupted
    · subst interrupted
      cases now
      have rest := ih room later decides
      exact rounds_of_interrupted rest
    · have alike := client.alike_keep [arrival] frames
      have rest := ih (alike.capacity.trans room)
        (later.imp fun _ _ each => each.alike alike) (decides.alike alike)
      rw [alike.receipt_eq, keep_keep] at rest
      exact .again (runs_awaitOnce_of_receipt interrupted
        (react_of_passes room now interrupted)) rest

/-- The wait for an acknowledgement takes in what arrives up to what decides, and nothing after. -/
theorem runs_awaitAcknowledgement_iff {result : Except Failure Unit × Client} :
    (client.awaitAcknowledgement mac).Runs trace result
        ∧ (∀ exchange ∈ trace, exchange.Faithful) ↔
      ∃ passed kept last outcome, trace = (passed ++ [last]).map client.receipt
        ∧ List.Forall₂ client.Passes passed kept ∧ client.Decides mac last outcome
        ∧ result = (outcome, client.keep (passed ++ [last]) kept.flatten) := by
  rw [awaitAcknowledgement_eq, runs_repeatUntil]
  constructor
  · rintro ⟨rounds, faithful⟩
    -- The arrivals of a wait are those of its rounds, one after the other.
    induction rounds with
    | last ends =>
      rcases arrivals_of_round room ends faithful with
        ⟨passed, kept, last, rfl, passes, nothing, ⟨_, -, same⟩ | ⟨outcome, decides, same⟩⟩
      · cases same
      · cases same
        exact ⟨passed, kept, last, outcome, rfl, passes, decides, by rw [nothing]⟩
    | @again client _ _ _ _ goesOn _ ih =>
      rw [List.forall_mem_append] at faithful
      rcases arrivals_of_round room goesOn faithful.1 with
        ⟨skipped, none, one, rfl, skips, nothing, ⟨frames, passesOne, same⟩ | ⟨_, -, same⟩⟩
      · cases same
        have alike := client.alike_keep (skipped ++ [one]) frames
        rcases ih (alike.capacity.trans room) faithful.2 with
          ⟨passed, kept, last, outcome, rfl, passes, decides, rfl⟩
        refine ⟨skipped ++ one :: passed, none ++ frames :: kept, last, outcome, ?_, ?_,
          decides.alike alike.symm, ?_⟩
        · rw [alike.receipt_eq]
          simp
        · exact List.rel_append skips
            (.cons passesOne (passes.imp fun _ _ each => each.alike alike.symm))
        · rw [keep_keep]
          simp [nothing]
      · cases same
  · rintro ⟨passed, kept, last, outcome, rfl, passes, decides, rfl⟩
    refine ⟨rounds_of_arrivals room passes decides, ?_⟩
    intro exchange exchangeMem
    rcases List.mem_map.mp exchangeMem with ⟨arrival, -, rfl⟩
    exact faithful_receipt client arrival

end Waiting

/-! ### Registrations -/

/-- Every frame that a router sends is kept. -/
theorem passes_encode {delivery : Delivery} {message : Bytes}
    (encoded : delivery.encode = .ok message) : client.Passes (.ok message) [delivery] :=
  .frame (Delivery.length_le_of_encode encoded) (Delivery.acknowledgement_decode?_encode encoded)
    (Delivery.decode_of_encode encoded)

theorem passes_or_decides_first (client : Client) (mac : MacAddress)
    (arrivals : List (Attempt Bytes)) :
    (∃ kept, List.Forall₂ client.Passes arrivals kept)
      ∨ ∃ passed last rest kept outcome, arrivals = passed ++ last :: rest
        ∧ List.Forall₂ client.Passes passed kept ∧ client.Decides mac last outcome := by
  induction arrivals with
  | nil => exact Or.inl ⟨[], .nil⟩
  | cons arrival arrivals ih =>
    rcases client.passes_or_decides mac arrival with ⟨frames, passes⟩ | ⟨outcome, decides⟩
    · rcases ih with ⟨kept, all⟩ | ⟨passed, last, rest, kept, outcome, rfl, all, decides⟩
      · exact Or.inl ⟨frames :: kept, .cons passes all⟩
      · exact Or.inr ⟨arrival :: passed, last, rest, frames :: kept, outcome, rfl,
          .cons passes all, decides⟩
    · exact Or.inr ⟨[], arrival, arrivals, [], outcome, rfl, .nil, decides⟩

def next (client : Client) : Client := { client with sequence := client.sequence + 1 }

/-- A registration whose request was sent in full passes over what arrives until something decides,
and receives nothing after that. However it ends, the frames that it passed over stand behind those
that were kept before, and the sequence number is the next one. There is no other way to end: as
long as nothing has decided, the client waits on. -/
theorem register_of_arrivals (room : client.buffer.capacity = Delivery.maxSize) :
    (∀ rest result,
      (client.register mac).Runs
          (⟨.send client.connection.descriptor
              (Request.encodeRegister mac (client.sequence + 1) client.port),
            .ok (Request.encodeRegister mac (client.sequence + 1) client.port).length⟩ :: rest)
          result
        ∧ (∀ exchange ∈ rest, exchange.Faithful) ↔
      ∃ passed kept last outcome, rest = (passed ++ [last]).map client.receipt
        ∧ List.Forall₂ client.next.Passes passed kept ∧ client.next.Decides mac last outcome
        ∧ result = (outcome, { client with
          sequence := client.sequence + 1
          buffer := (passed ++ [last]).foldl Buffer.fill client.buffer
          pending := client.pending ++ kept.flatten }))
    ∧ ∀ arrivals, (∃ kept, List.Forall₂ client.next.Passes arrivals kept)
      ∨ ∃ passed last rest kept outcome, arrivals = passed ++ last :: rest
        ∧ List.Forall₂ client.next.Passes passed kept ∧ client.next.Decides mac last outcome := by
  refine ⟨fun rest result => ?_, client.next.passes_or_decides_first mac⟩
  have sent : (client.register mac).Runs
      (⟨.send client.connection.descriptor
          (Request.encodeRegister mac (client.sequence + 1) client.port),
        .ok (Request.encodeRegister mac (client.sequence + 1) client.port).length⟩ :: rest) result
      ↔ (client.next.awaitAcknowledgement mac).Runs rest result := by
    constructor
    · intro runs
      rcases runs_call_bind.mp runs with ⟨answer, later, same, answered⟩
      cases same
      dsimp only at answered
      rw [if_pos rfl] at answered
      exact answered
    · intro waits
      refine runs_call_bind.mpr ⟨_, rest, rfl, ?_⟩
      dsimp only
      rw [if_pos rfl]
      exact waits
  rw [sent]
  have waits := @runs_awaitAcknowledgement_iff client.next
  exact waits room

/-- An interruption, an answer to another request and a frame come before the acknowledgement. -/
theorem register_of_distracted :
    visitor.buffer.capacity = Delivery.maxSize
      ∧ ∃ after, (visitor.register ⟨1, 2, 3, 4, 5, 6⟩).Runs
          (⟨.send ⟨5⟩ (Request.encodeRegister ⟨1, 2, 3, 4, 5, 6⟩ 1 9), .ok 32⟩
            :: [.error .interrupted, .ok (Acknowledgement.encode (-22) ⟨32, 0, 1, 7, 9⟩),
              .ok (parcelled 1).bytes,
              .ok (Acknowledgement.encode 0 ⟨32, 0, 1, 1, 9⟩)].map visitor.receipt)
          (.ok (), after) ∧ after.pending = [parcel 1] ∧ after.sequence = 1 := by
  refine ⟨rfl, _, (((register_of_arrivals rfl).1 _ _).mpr
    ⟨[.error .interrupted, .ok (Acknowledgement.encode (-22) ⟨32, 0, 1, 7, 9⟩),
      .ok (parcelled 1).bytes], [[], [], [parcel 1]],
      .ok (Acknowledgement.encode 0 ⟨32, 0, 1, 1, 9⟩), .ok (), rfl, ?_, ?_, rfl⟩).1, rfl, rfl⟩
  · refine .cons .interrupted (.cons ?_ (.cons (passes_encode rfl) .nil))
    exact .stale (by decide) (Acknowledgement.decode?_encode ..) (Or.inl (by decide))
  · exact .accepted (by decide) (Acknowledgement.decode?_encode ..)

end Client

end RadioRelay
