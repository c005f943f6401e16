import RadioRelay.Proofs.Network.Composition

/-!
# No frame is lost between the socket and the caller

Frames and acknowledgements arrive over one connection, and two kinds of calls
read from it. Whatever calls a client makes and however they end, the frames
that it handed out, then those that it keeps, then those that have not arrived
yet are all the frames that were sent to it, in their order.
-/

namespace RadioRelay

def Client.Reply.delivery? : Client.Reply → Option Delivery
  | .frame delivery => some delivery
  | _ => none

/-! ### Messages of the router -/

/-- A message of the router to a client: a frame, or the answer to a request. -/
inductive Letter
  | frame (delivery : Delivery) (message : Bytes) (encoded : delivery.encode = .ok message)
  | answer (result : Int32) (request : Header) (judged : result = 0 ∨ result = -22)

namespace Letter

def bytes : Letter → Bytes
  | frame _ message _ => message
  | answer result request _ => Acknowledgement.encode result request

def delivery? : Letter → Option Delivery
  | frame delivery _ _ => some delivery
  | answer _ _ _ => none

theorem length_le (letter : Letter) : letter.bytes.length ≤ Delivery.maxSize := by
  cases letter with
  | frame delivery message encoded => exact Delivery.length_le_of_encode encoded
  | answer result request =>
    have whole : (Acknowledgement.encode result request).length = 36 := rfl
    rw [bytes, whole]
    decide

theorem decode_toOption (letter : Letter) :
    (Delivery.decode letter.bytes).toOption = letter.delivery? := by
  cases letter with
  | frame delivery message encoded => rw [bytes, Delivery.decode_of_encode encoded]; rfl
  | answer result request judged =>
    rw [bytes, Acknowledgement.delivery_decode_encode judged]
    rfl

theorem delivery?_interpret (letter : Letter) (client : Client) :
    (client.interpret letter.bytes).delivery? = letter.delivery? := by
  cases letter with
  | frame other message encoded =>
    rw [Client.interpret, bytes, Delivery.acknowledgement_decode?_encode encoded,
      Delivery.decode_of_encode encoded]
    rfl
  | answer result request judged =>
    rw [Client.interpret, bytes, Acknowledgement.decode?_encode]
    dsimp only
    split_ifs <;> rfl

end Letter

/-- These messages, and no others, arrived at a socket, one after the other. -/
def Carried (socket : Descriptor) (letters : List Letter) (trace : Trace) : Prop :=
  List.Forall₂ (fun letter => Brought letter.bytes) letters
    (trace.filterMap (Exchange.arrived? socket))

theorem Carried.eq_nil {socket : Descriptor} {letters : List Letter} {trace : Trace}
    (carried : Carried socket letters trace)
    (nothing : trace.filterMap (Exchange.arrived? socket) = []) : letters = [] := by
  unfold Carried at carried
  rw [nothing] at carried
  exact List.forall₂_nil_right_iff.mp carried

namespace Client

open Program

variable {client after : Client} {trace : Trace} {mac : MacAddress}

theorem arrived_interruptions (client : Client) (interruptions : Nat) (socket : Descriptor) :
    (List.replicate interruptions client.interruption).filterMap (Exchange.arrived? socket) = [] := by
  rw [List.filterMap_eq_nil_iff]
  intro exchange exchangeMem
  rw [List.eq_of_mem_replicate exchangeMem]
  rfl

theorem arrived_attempts (client : Client) (interruptions : Nat) (answer : Attempt Received) :
    (List.replicate interruptions client.interruption
      ++ [(⟨.receive client.connection.descriptor client.buffer.capacity, answer⟩ : Exchange)]).filterMap
        (Exchange.arrived? client.connection.descriptor)
      = match answer with
        | .error _ => []
        | .ok received => if received.size = 0 then [] else [(client.buffer.capacity, received)] := by
  rw [List.filterMap_append, arrived_interruptions]
  rcases answer with errno | received
  · rfl
  · by_cases closed : received.size = 0 <;> simp [Exchange.arrived?, closed]

/-- A receive takes one message whole, or fails and takes none. -/
theorem letters_of_receiveMessage {outcome : Except Failure Bytes} {letters : List Letter}
    (room : client.buffer.capacity = Delivery.maxSize)
    (runs : client.receiveMessage.Runs trace (outcome, after))
    (carried : Carried client.connection.descriptor letters trace) :
    (letters = [] ∧ ∃ failure, outcome = .error failure)
      ∨ ∃ letter, letters = [letter] ∧ outcome = .ok letter.bytes := by
  rcases runs_bind.mp runs with ⟨early, late, answer, rfl, receives, meant⟩
  rcases runs_receiveUninterrupted.mp receives with ⟨-, interruptions, rfl⟩
  have arrived := client.arrived_attempts interruptions answer
  rcases answer with errno | received
  · rcases meant with ⟨rfl, same⟩
    cases same
    rw [List.append_nil] at carried
    exact Or.inl ⟨carried.eq_nil arrived, _, rfl⟩
  · dsimp only at meant arrived
    split at meant
    next closed =>
      rcases meant with ⟨rfl, same⟩
      cases same
      rw [if_pos closed] at arrived
      rw [List.append_nil] at carried
      exact Or.inl ⟨carried.eq_nil arrived, _, rfl⟩
    next more =>
      obtain rfl : late = [] := by
        split at meant <;> exact meant.1
      rw [List.append_nil, Carried, arrived, if_neg more, List.forall₂_cons_right_iff] at carried
      rcases carried with ⟨letter, none, brought, nothing, rfl⟩
      rw [List.forall₂_nil_right_iff.mp nothing]
      -- There is room for every message of a router, so it is read whole.
      have fits : letter.bytes.length ≤ client.buffer.capacity := by
        rw [room]
        exact letter.length_le
      have whole : received = ⟨letter.bytes.length, letter.bytes.take client.buffer.capacity⟩ := brought
      rw [List.take_of_length_le fits] at whole
      rw [whole, Buffer.slice?_store_length client.buffer letter.bytes fits] at meant
      cases meant.2
      exact Or.inr ⟨letter, rfl, rfl⟩

/-- What a client kept and what it reads are, in this order, what it hands out and what it keeps
afterwards. -/
def Conserves (client : Client) (trace : Trace) (handed : List Delivery) (after : Client) : Prop :=
  ∀ letters, Carried client.connection.descriptor letters trace →
    handed ++ after.pending = client.pending ++ letters.filterMap Letter.delivery?

namespace Conserves

variable {handed more : List Delivery}

/-- Where nothing arrives, frames only go from those that are kept to the caller. -/
theorem of_silent (kept : client.pending = handed ++ after.pending)
    (silent : trace.filterMap (Exchange.arrived? client.connection.descriptor) = []) :
    client.Conserves trace handed after := by
  intro letters carried
  rw [carried.eq_nil silent, List.filterMap_nil, List.append_nil, kept]

theorem append {middle : Client} {early late : Trace}
    (first : client.Conserves early handed middle) (same : middle.connection = client.connection)
    (second : middle.Conserves late more after) :
    client.Conserves (early ++ late) (handed ++ more) after := by
  intro letters carried
  -- The messages are split where the first part of the trace stops taking them.
  rw [Carried, List.filterMap_append] at carried
  have earlyCarried := List.forall₂_take_append _ _ _ carried
  have lateCarried := List.forall₂_drop_append _ _ _ carried
  rw [← same] at lateCarried
  rw [List.append_assoc, second _ lateCarried, ← List.append_assoc, first _ earlyCarried,
    List.append_assoc, ← List.filterMap_append, same, List.take_append_drop]

end Conserves

theorem conserves_awaitOnce {outcome : Client ⊕ (Except Failure Unit × Client)}
    (room : client.buffer.capacity = Delivery.maxSize)
    (runs : (awaitOnce mac client).Runs trace outcome) :
    ∃ after, client.Alike after ∧ client.Conserves trace [] after
      ∧ (outcome = .inl after ∨ ∃ result, outcome = .inr (result, after)) := by
  rcases runs_bind.mp runs with ⟨early, late, ⟨received, middle⟩, rfl, receives, meant⟩
  rcases runs_receiveMessage receives with ⟨alike, pending, -, -⟩
  have read : ∀ letters, Carried client.connection.descriptor letters early → _ :=
    fun _ carried => letters_of_receiveMessage room receives carried
  rcases received with failure | message
  · rcases meant with ⟨rfl, rfl⟩
    refine ⟨middle, alike, ?_, Or.inr ⟨_, rfl⟩⟩
    intro letters carried
    rw [List.append_nil] at carried
    rcases read letters carried with ⟨rfl, -⟩ | ⟨letter, -, same⟩
    · simp [pending]
    · cases same
  -- A frame that arrived is kept, and nothing else is.
  · have frames : ∀ letters, Carried client.connection.descriptor letters early →
        letters.filterMap Letter.delivery? = (middle.interpret message).delivery?.toList := by
      intro letters carried
      rcases read letters carried with ⟨-, _, same⟩ | ⟨letter, rfl, same⟩
      · cases same
      · cases same
        rw [letter.delivery?_interpret]
        cases frame : letter.delivery? <;> simp [frame]
    dsimp only at meant
    cases reply : middle.interpret message
    all_goals
      rw [reply] at meant frames
      rcases meant with ⟨rfl, rfl⟩
      rw [List.append_nil]
    case frame delivery =>
      refine ⟨{ middle with pending := middle.pending ++ [delivery] },
        ⟨alike.connection, alike.port, alike.sequence, alike.capacity⟩, ?_, Or.inl rfl⟩
      intro letters carried
      rw [frames letters carried, pending]
      rfl
    all_goals
      refine ⟨middle, alike, ?_, ?_⟩
      · intro letters carried
        rw [frames letters carried, pending]
        exact (List.append_nil _).symm
      · first
        | exact Or.inl rfl
        | exact Or.inr ⟨_, rfl⟩

def WaitsOn (mac : MacAddress) (client : Client) (trace : Trace) (next : Client) : Prop :=
  (awaitOnce mac client).Runs trace (.inl next)

theorem conserves_waiting (room : client.buffer.capacity = Delivery.maxSize)
    (course : Course (WaitsOn mac) client trace after) :
    client.Alike after ∧ client.Conserves trace [] after := by
  induction course with
  | start => exact ⟨.refl, .of_silent rfl rfl⟩
  | next _ waits ih =>
    rcases ih with ⟨alike, conserves⟩
    rcases conserves_awaitOnce (alike.capacity.trans room) waits with
      ⟨next, alikeNext, conservesNext, same | ⟨_, same⟩⟩
    · cases same
      exact ⟨alike.trans alikeNext, conserves.append alike.connection conservesNext⟩
    · cases same

theorem conserves_awaitAcknowledgement {outcome : Except Failure Unit}
    (room : client.buffer.capacity = Delivery.maxSize)
    (runs : (client.awaitAcknowledgement mac).Runs trace (outcome, after)) :
    client.Conserves trace [] after := by
  rw [awaitAcknowledgement_eq, runs_repeatUntil] at runs
  rcases runs.exists_course with ⟨past, part, last, rfl, course, ends⟩
  rcases conserves_waiting room course with ⟨alike, conserves⟩
  rcases conserves_awaitOnce (alike.capacity.trans room) ends with
    ⟨next, -, conservesNext, same | ⟨_, same⟩⟩
  · cases same
  · cases same
    exact conserves.append alike.connection conservesNext

theorem conserves_register {outcome : Except Failure Unit}
    (room : client.buffer.capacity = Delivery.maxSize)
    (runs : (client.register mac).Runs trace (outcome, after)) : client.Conserves trace [] after := by
  rcases runs_call_bind.mp runs with ⟨errno | count, rest, rfl, answered⟩
  · rcases answered with ⟨rfl, same⟩
    cases same
    exact .of_silent rfl rfl
  · dsimp only at answered
    split at answered
    · have conserves : Conserves { client with sequence := client.sequence + 1 } rest [] after :=
        conserves_awaitAcknowledgement room answered
      exact conserves
    · rcases answered with ⟨rfl, same⟩
      cases same
      exact .of_silent rfl rfl

theorem conserves_receiveFrame {outcome : Except Failure Delivery}
    (room : client.buffer.capacity = Delivery.maxSize)
    (runs : client.receiveFrame.Runs trace (outcome, after)) :
    client.Conserves trace outcome.toOption.toList after := by
  unfold receiveFrame at runs
  split at runs
  next delivery rest kept =>
    rcases runs with ⟨rfl, same⟩
    cases same
    exact .of_silent kept rfl
  next none =>
    rcases runs_bind.mp runs with ⟨early, late, ⟨received, middle⟩, rfl, receives, meant⟩
    rcases runs_receiveMessage receives with ⟨-, pending, -, -⟩
    intro letters carried
    rcases received with failure | message
    · rcases meant with ⟨rfl, same⟩
      cases same
      rw [List.append_nil] at carried
      rcases letters_of_receiveMessage room receives carried with ⟨rfl, -⟩ | ⟨letter, -, same⟩
      · rw [pending]
        exact (List.append_nil _).symm
      · cases same
    · obtain rfl : late = [] := by
        dsimp only at meant
        split at meant <;> exact meant.1
      rw [List.append_nil] at carried
      rcases letters_of_receiveMessage room receives carried with ⟨-, _, same⟩ | ⟨letter, rfl, same⟩
      · cases same
      · cases same
        have frame := letter.decode_toOption
        dsimp only at meant
        split at meant
        next delivery decoded =>
          rcases meant with ⟨-, same⟩
          cases same
          rw [decoded] at frame
          simp [← frame, pending, none, Except.toOption]
        next error decoded =>
          rcases meant with ⟨-, same⟩
          cases same
          rw [decoded] at frame
          simp [← frame, pending, none, Except.toOption]

theorem conserves_setReceiveTimeout {limit : Option Nat} {outcome : Except Failure Unit}
    (runs : (client.setReceiveTimeout limit).run.Runs trace outcome) :
    client.Conserves trace [] client := by
  rcases runs with ⟨_ | _, _, rfl, rfl, -⟩ <;> exact .of_silent rfl rfl

/-- The client has done nothing but attempt to receive, in vain. -/
def Interrupted (client : Client) (part : Trace) : Prop :=
  ∃ interruptions, part = List.replicate interruptions client.interruption

theorem begins_receiveUninterrupted (begun : client.receiveUninterrupted.Begins trace) :
    client.Interrupted trace ∨ ∃ answer, client.receiveUninterrupted.Runs trace answer := by
  have split := begins_repeatUntil.mp begun
  clear begun
  rcases split with attempts | complete
  · -- The state of the loop is trivial, but induction asks for a variable.
    generalize () = state at attempts
    induction attempts with
    | within begun =>
      rcases begun with rfl | ⟨answer, rest, rfl, done⟩
      · exact Or.inl ⟨0, rfl⟩
      · obtain rfl : rest = [] := by
          rcases answer with errno | received <;> exact done
        by_cases interrupted : answer = .error .interrupted
        · subst interrupted
          exact Or.inl ⟨1, rfl⟩
        · exact Or.inr ⟨answer, runs_receiveUninterrupted.mpr ⟨interrupted, 0, rfl⟩⟩
    | again goesOn _ ih =>
      rcases runs_attempt.mp goesOn with ⟨rfl, -⟩ | ⟨_, -, -, ends⟩
      · rcases ih with ⟨interruptions, rfl⟩ | ⟨answer, runs⟩
        · exact Or.inl ⟨interruptions + 1, rfl⟩
        · rcases runs_receiveUninterrupted.mp runs with ⟨ends, interruptions, rfl⟩
          exact Or.inr ⟨answer, runs_receiveUninterrupted.mpr ⟨ends, interruptions + 1, rfl⟩⟩
      · cases ends
  · exact Or.inr complete

theorem begins_receiveMessage (begun : client.receiveMessage.Begins trace) :
    client.Interrupted trace ∨ ∃ outcome, client.receiveMessage.Runs trace outcome := by
  refine begun.of_bind_pure ?_ begins_receiveUninterrupted
  intro answer
  rcases answer with errno | received
  · exact ⟨_, rfl⟩
  · dsimp only
    split
    · exact ⟨_, rfl⟩
    · split <;> exact ⟨_, rfl⟩

theorem begins_awaitOnce (begun : (awaitOnce mac client).Begins trace) :
    client.Interrupted trace ∨ ∃ outcome, (awaitOnce mac client).Runs trace outcome := by
  refine begun.of_bind_pure ?_ begins_receiveMessage
  rintro ⟨failure | message, middle⟩
  · exact ⟨_, rfl⟩
  · dsimp only
    split <;> exact ⟨_, rfl⟩

theorem begins_receiveFrame (begun : client.receiveFrame.Begins trace) :
    (client.pending = [] ∧ client.Interrupted trace)
      ∨ ∃ outcome, client.receiveFrame.Runs trace outcome := by
  unfold receiveFrame at begun ⊢
  split at begun
  next => exact Or.inr ⟨_, begun, rfl⟩
  next none =>
    have split := begun.of_bind_pure ?_ begins_receiveMessage
    · exact split.imp_left fun interrupted => ⟨none, interrupted⟩
    · rintro ⟨failure | message, middle⟩
      · exact ⟨_, rfl⟩
      · dsimp only
        split <;> exact ⟨_, rfl⟩

theorem begins_awaitAcknowledgement (begun : (client.awaitAcknowledgement mac).Begins trace) :
    (∃ past part now, trace = past ++ part ∧ Course (WaitsOn mac) client past now
        ∧ now.Interrupted part)
      ∨ ∃ outcome, (client.awaitAcknowledgement mac).Runs trace outcome := by
  rcases begins_repeatUntil.mp begun with begun | complete
  · rcases begun.exists_course with ⟨past, part, last, rfl, course, begun⟩
    rcases begins_awaitOnce begun with interrupted | ⟨next | result, runs⟩
    · exact Or.inl ⟨past, part, last, rfl, course, interrupted⟩
    · refine Or.inl ⟨past ++ part, [], next, (List.append_nil _).symm, course.next runs, 0, rfl⟩
    · refine Or.inr ⟨result, ?_⟩
      rw [awaitAcknowledgement_eq, runs_repeatUntil]
      exact course.rounds (.last runs)
  · exact Or.inr complete

/-- What a client has done of the call that it is in, and what it is now. -/
inductive Waiting (client : Client) : Trace → Client → Prop
  | idle : Waiting client [] client
  | receiving {part : Trace} (none : client.pending = []) (interrupted : client.Interrupted part) :
    Waiting client part client
  | registering {mac : MacAddress} {request : Bytes} {past part : Trace} {now : Client}
    (asked : request = Request.encodeRegister mac (client.sequence + 1) client.port)
    (course : Course (WaitsOn mac) { client with sequence := client.sequence + 1 } past now)
    (interrupted : now.Interrupted part) :
    Waiting client (⟨.send client.connection.descriptor request, .ok request.length⟩
      :: (past ++ part)) now

theorem begins_register (begun : (client.register mac).Begins trace) :
    (∃ now, client.Waiting trace now) ∨ ∃ outcome, (client.register mac).Runs trace outcome := by
  rcases begins_call_bind.mp begun with rfl | ⟨errno | count, rest, rfl, answered⟩
  · exact Or.inl ⟨client, .idle⟩
  · rcases answered with rfl
    exact Or.inr ⟨_, .error errno, [], rfl, rfl, rfl⟩
  · dsimp only at answered
    split at answered
    next whole =>
      subst whole
      rcases begins_awaitAcknowledgement answered with
        ⟨past, part, now, rfl, course, interrupted⟩ | ⟨outcome, runs⟩
      · exact Or.inl ⟨now, .registering rfl course interrupted⟩
      · refine Or.inr ⟨outcome, runs_call_bind.mpr ⟨.ok _, rest, rfl, ?_⟩⟩
        dsimp only
        rw [if_pos rfl]
        exact runs
    next part =>
      rcases answered with rfl
      refine Or.inr ⟨(.error (.of (.shortRegistration count
          (Request.encodeRegister mac (client.sequence + 1) client.port).length)),
        { client with sequence := client.sequence + 1 }), runs_call_bind.mpr ⟨.ok count, [], rfl, ?_⟩⟩
      dsimp only
      rw [if_neg part]
      exact ⟨rfl, rfl⟩

theorem begins_setReceiveTimeout {limit : Option Nat}
    (begun : (client.setReceiveTimeout limit).run.Begins trace) :
    trace = [] ∨ ∃ outcome, (client.setReceiveTimeout limit).run.Runs trace outcome := by
  rcases begun with rfl | ⟨errno | _, rest, rfl, rfl⟩
  · exact Or.inl rfl
  · exact Or.inr ⟨_, .error errno, [], rfl, rfl, rfl⟩
  · exact Or.inr ⟨_, .ok (), [], rfl, rfl, rfl⟩

theorem Waiting.conserves {now : Client} (room : client.buffer.capacity = Delivery.maxSize)
    (waiting : client.Waiting trace now) :
    now.connection = client.connection ∧ client.Conserves trace [] now := by
  cases waiting with
  | idle => exact ⟨rfl, .of_silent rfl rfl⟩
  | receiving none interrupted =>
    rcases interrupted with ⟨interruptions, rfl⟩
    exact ⟨rfl, .of_silent rfl (arrived_interruptions ..)⟩
  | registering asked course interrupted =>
    rcases interrupted with ⟨interruptions, rfl⟩
    have waited : Alike { client with sequence := client.sequence + 1 } now ∧ Conserves _ _ _ _ :=
      conserves_waiting room course
    have interrupted : now.Conserves (List.replicate interruptions now.interruption) [] now :=
      .of_silent rfl (arrived_interruptions ..)
    exact ⟨waited.1.connection, waited.2.append waited.1.connection interrupted⟩

end Client

/-! ### Moments -/

/-- A client and the frames that it handed out, one after the other. -/
structure Recipient where
  client : Client
  handed : List Delivery

/-- One call of a client from its beginning to its end, whatever comes of it. -/
inductive Reading : Recipient → Trace → Recipient → Prop
  | registers {client after : Client} {handed : List Delivery} {trace : Trace}
    {outcome : Except Failure Unit} (mac : MacAddress)
    (runs : (client.register mac).Runs trace (outcome, after)) :
    Reading ⟨client, handed⟩ trace ⟨after, handed⟩
  | receives {client after : Client} {handed : List Delivery} {trace : Trace}
    {outcome : Except Failure Delivery} (runs : client.receiveFrame.Runs trace (outcome, after)) :
    Reading ⟨client, handed⟩ trace ⟨after, handed ++ outcome.toOption.toList⟩
  | limits {client : Client} {handed : List Delivery} {trace : Trace} {limit : Option Nat}
    {outcome : Except Failure Unit} (runs : (client.setReceiveTimeout limit).run.Runs trace outcome) :
    Reading ⟨client, handed⟩ trace ⟨client, handed⟩

/-- A call that is going on waits for the system, or it is over. -/
theorem waiting_of_begun {recipient : Recipient} {part : Trace}
    (begun : VisitBegun ⟨recipient.client, []⟩ part) :
    (∃ now, recipient.client.Waiting part now) ∨ ∃ after, Reading recipient part after := by
  rcases begun with ⟨mac, begun⟩ | begun | ⟨limit, begun⟩
  · refine (Client.begins_register begun).imp_right ?_
    rintro ⟨⟨outcome, after⟩, runs⟩
    exact ⟨_, .registers mac runs⟩
  · rcases Client.begins_receiveFrame begun with ⟨none, interrupted⟩ | ⟨⟨outcome, after⟩, runs⟩
    · exact Or.inl ⟨_, .receiving none interrupted⟩
    · exact Or.inr ⟨_, .receives runs⟩
  · rcases Client.begins_setReceiveTimeout begun with rfl | ⟨outcome, runs⟩
    · exact Or.inl ⟨_, .idle⟩
    · exact Or.inr ⟨_, .limits runs⟩

theorem conserves_of_readings {first : Client} {past : Trace} {recipient : Recipient}
    (room : first.buffer.capacity = Delivery.maxSize)
    (readings : Course Reading ⟨first, []⟩ past recipient) :
    recipient.client.buffer.capacity = Delivery.maxSize
      ∧ recipient.client.connection = first.connection
      ∧ first.Conserves past recipient.handed recipient.client := by
  induction readings with
  | start => exact ⟨room, rfl, .of_silent rfl rfl⟩
  | next _ reading ih =>
    rcases ih with ⟨roomNow, connection, conserves⟩
    cases reading with
    | registers mac runs =>
      rcases Client.runs_register runs with ⟨_, _, _, alike, -⟩
      have later := conserves.append connection (Client.conserves_register roomNow runs)
      rw [List.append_nil] at later
      exact ⟨alike.capacity.trans roomNow, alike.connection.trans connection, later⟩
    | receives runs =>
      have alike := (Client.runs_receiveFrame runs).1
      exact ⟨alike.capacity.trans roomNow, alike.connection.trans connection,
        conserves.append connection (Client.conserves_receiveFrame roomNow runs)⟩
    | limits runs =>
      have later := conserves.append connection (Client.conserves_setReceiveTimeout runs)
      rw [List.append_nil] at later
      exact ⟨roomNow, connection, later⟩

/-- A moment of a client's calls: what it has done so far are whole calls, and then what it has
done of the call that it is in. -/
def Moment (first : Client) (trace : Trace) (recipient : Recipient) (now : Client) : Prop :=
  ∃ past part, trace = past ++ part ∧ Course Reading ⟨first, []⟩ past recipient
    ∧ recipient.client.Waiting part now

/-- The messages to a socket that have not arrived yet. -/
def unread (socket : Descriptor) (letters : List Letter) (trace : Trace) : List Letter :=
  letters.drop (trace.filterMap (Exchange.arrived? socket)).length

/-- What arrived at a socket are the first of the messages to it, in their order and whole. -/
def Delivered (socket : Descriptor) (letters : List Letter) (trace : Trace) : Prop :=
  Carried socket (letters.take (trace.filterMap (Exchange.arrived? socket)).length) trace

instance decidableDelivered (socket : Descriptor) (letters : List Letter) (trace : Trace) :
    Decidable (Delivered socket letters trace) :=
  inferInstanceAs (Decidable (List.Forall₂ ..))

/-- At every moment, the frames that were handed out, those that are kept and those that are
unread are the frames that were sent, in their order. -/
theorem frames_of_moments {name : String} {created trace : Trace} {first : Client}
    {letters : List Letter} (connects : (Client.connect name).run.Runs created (.ok first))
    (calls : Ongoing Reading (fun recipient => VisitBegun ⟨recipient.client, []⟩) ⟨first, []⟩ trace)
    (delivered : Delivered first.connection.descriptor letters trace) :
    (∃ recipient now, Moment first trace recipient now)
      ∧ ∀ recipient now, Moment first trace recipient now →
        recipient.handed ++ now.pending
            ++ (unread first.connection.descriptor letters trace).filterMap Letter.delivery?
          = letters.filterMap Letter.delivery? := by
  rcases Client.runs_connect connects with ⟨-, nothing, room⟩
  constructor
  · rcases calls with ⟨past, part, recipient, rfl, readings, begun⟩
    rcases waiting_of_begun begun with ⟨now, waiting⟩ | ⟨after, reading⟩
    · exact ⟨recipient, now, past, part, rfl, readings, waiting⟩
    · exact ⟨after, after.client, past ++ part, [], (List.append_nil _).symm,
        readings.next reading, .idle⟩
  · -- The part of a call that is going on has handed out nothing yet.
    rintro recipient now ⟨past, part, rfl, readings, waiting⟩
    rcases conserves_of_readings room readings with ⟨roomNow, connection, conserves⟩
    have kept := conserves.append connection (waiting.conserves roomNow).2 _ delivered
    rw [List.append_nil, nothing, List.nil_append] at kept
    rw [kept, unread, ← List.filterMap_append, List.take_append_drop]

section Giving

def visitor : Client := ⟨⟨⟨5⟩⟩, 9, 0, Buffer.zeroed Delivery.maxSize, []⟩

def parcel (content : UInt8) : Delivery := ⟨⟨1, 2, 3, 4, 5, 6⟩, [content]⟩

def parcelled (content : UInt8) : Letter :=
  .frame (parcel content) ((parcel content).encode.toOption.getD []) rfl

/-- Two frames before an acknowledgement, and one after it. -/
def mail : List Letter :=
  [parcelled 1, parcelled 2, .answer 0 (Draft.registration ⟨1, 2, 3, 4, 5, 6⟩ 1 9).header (Or.inl rfl),
    parcelled 3]

/-- Two messages are there, and no more come in time. -/
def impatient (past : Trace) : (call : Call) → call.Answer
  | .send _ message => .ok message.length
  | .receive _ _ =>
    match (mail.take 2)[(past.filterMap (Exchange.arrived? ⟨5⟩)).length]? with
    | some letter => .ok ⟨letter.bytes.length, letter.bytes⟩
    | none => .error .wouldBlock
  | call => call.refusal

/-- The visitor registers, and gives up before the acknowledgement comes. -/
def givingUp : Option (Except Failure Unit × Client) × Trace :=
  (visitor.register ⟨1, 2, 3, 4, 5, 6⟩).rehearse impatient 8

theorem givingUp_ends : givingUp.1.isSome := by decide +kernel

def served : Recipient :=
  ⟨{ (givingUp.1.get givingUp_ends).2 with pending := [parcel 2] }, [parcel 1]⟩

theorem served_of_givingUp : (givingUp.1.get givingUp_ends).1.isOk = false
    ∧ (givingUp.1.get givingUp_ends).2.pending = [parcel 1, parcel 2] := by
  decide +kernel

theorem delivered_mail : Delivered ⟨5⟩ mail givingUp.2 := by decide +kernel

theorem readings_served : Course Reading ⟨visitor, []⟩ givingUp.2 served := by
  have registers := Program.runs_rehearse givingUp_ends
  have kept := served_of_givingUp.2
  rw [← List.append_nil givingUp.2]
  refine (Course.single (.registers _ registers)).next ?_
  have handed : (givingUp.1.get givingUp_ends).2.receiveFrame.Runs []
      (.ok (parcel 1), served.client) := by
    unfold Client.receiveFrame
    rw [kept]
    exact ⟨rfl, rfl⟩
  exact .receives handed

/-- One frame was handed out, one is kept, and one has not been read. -/
theorem frames_of_served :
    served.handed ++ served.client.pending ++ (unread ⟨5⟩ mail givingUp.2).filterMap Letter.delivery?
        = mail.filterMap Letter.delivery?
      ∧ mail.filterMap Letter.delivery? = [parcel 1, parcel 2, parcel 3] := by
  rcases Client.connects_radio ⟨5⟩ 9 with ⟨created, connects⟩
  have calls : Ongoing Reading (fun recipient => VisitBegun ⟨recipient.client, []⟩) ⟨visitor, []⟩
      givingUp.2 :=
    ⟨_, [], served, (List.append_nil _).symm, readings_served, Or.inr (Or.inl Program.begins_nil)⟩
  have moment : Moment visitor givingUp.2 served served.client :=
    ⟨_, [], (List.append_nil _).symm, readings_served, .idle⟩
  exact ⟨(frames_of_moments connects calls delivered_mail).2 _ _ moment, by decide⟩

end Giving

end RadioRelay
