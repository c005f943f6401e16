import Mathlib.Data.List.Infix
import RadioRelay.Proofs.Wire.Drafting
import RadioRelay.Wire.Acknowledgement
import RadioRelay.Wire.Notification
import RadioRelay.Wire.Request

/-!
# Messages are read back as they were written

Attributes are read back as they were attached, hence deliveries and registrations
are read back whole. Acknowledgements and deliveries share one
connection: neither is taken for the other. A message that lost bytes at its end
is never taken for a whole one.
-/

namespace RadioRelay

theorem MacAddress.writable (mac : MacAddress) : Attribute.Writable ⟨macKind, mac.toBytes⟩ :=
  ⟨(by decide : macKind.toNat < 0x4000), (by decide : 6 ≤ Attribute.maxPayload)⟩

namespace Delivery

variable {delivery : Delivery} {bytes : Bytes}

def attributes (delivery : Delivery) : List Attribute :=
  [⟨macKind, delivery.mac.toBytes⟩, ⟨packetKind, delivery.packet⟩]

theorem writable_attributes (fits : delivery.packet.length ≤ Attribute.maxPayload) :
    ∀ item ∈ delivery.attributes, item.Writable := by
  simp only [attributes, List.forall_mem_cons]
  exact ⟨delivery.mac.writable, ⟨(by decide : packetKind.toNat < 0x4000), fits⟩, by simp⟩

theorem encode_eq (fits : delivery.packet.length ≤ Attribute.maxPayload) :
    delivery.encode = .ok (Draft.finish ⟨0, 0, 0, 0, deliverCommand :: 0 :: 0 :: 0
      :: delivery.attributes.flatMap Attribute.padded⟩) := by
  have aligned := Draft.aligned_generic 0 0 0 0 deliverCommand 0
  have macFits := delivery.mac.writable.length_le
  have named := aligned.append_padded ⟨macKind, delivery.mac.toBytes⟩
  rw [encode, Draft.complete, Drafting.runOn_bind, aligned.runOn_attach macFits]
  dsimp only
  rw [named.runOn_attach fits]
  simp [Draft.append, Draft.generic, attributes]

/-- A delivery can be written exactly if its packet fits an attribute. -/
theorem encode_eq_error (tooLong : Attribute.maxPayload < delivery.packet.length) :
    delivery.encode = .error (.attributeTooLarge delivery.packet.length) := by
  have aligned := Draft.aligned_generic 0 0 0 0 deliverCommand 0
  have macFits := delivery.mac.writable.length_le
  rw [encode, Draft.complete, Drafting.runOn_bind, aligned.runOn_attach macFits]
  dsimp only
  rw [Draft.runOn_attach_of_long tooLong]

theorem fits_of_encode (encoded : delivery.encode = .ok bytes) :
    delivery.packet.length ≤ Attribute.maxPayload := by
  by_contra tooLong
  rw [encode_eq_error (Nat.not_le.mp tooLong)] at encoded
  cases encoded

theorem unfit_of_encode {error : ProtocolError} (refused : delivery.encode = .error error) :
    Attribute.maxPayload < delivery.packet.length := by
  by_contra fits
  rw [encode_eq (Nat.not_lt.mp fits)] at refused
  cases refused

theorem length_of_encode (encoded : delivery.encode = .ok bytes) :
    bytes.length = Message.minSize + align4 (Attribute.headerSize + 6)
      + align4 (Attribute.headerSize + delivery.packet.length) := by
  rcases Except.ok.inj (encoded.symm.trans (encode_eq (fits_of_encode encoded))) with rfl
  simp only [Draft.length_finish, List.length_cons, attributes, List.flatMap_cons,
    List.flatMap_nil, List.append_nil, List.length_append, Attribute.length_padded,
    MacAddress.length_toBytes, Message.minSize]
  omega

theorem length_le_of_encode (encoded : delivery.encode = .ok bytes) : bytes.length ≤ maxSize := by
  have fits := fits_of_encode encoded
  rw [length_of_encode encoded, maxSize]
  apply Nat.add_le_add_left
  unfold align4
  omega

theorem exists_encode (fits : delivery.packet.length ≤ Attribute.maxPayload) :
    ∃ bytes, delivery.encode = .ok bytes :=
  ⟨_, encode_eq fits⟩

theorem ne_nil_of_encode (encoded : delivery.encode = .ok bytes) : bytes ≠ [] := by
  rintro rfl
  have length := length_of_encode encoded
  rw [Message.minSize, List.length_nil] at length
  omega

theorem decode_of_encode (encoded : delivery.encode = .ok bytes) :
    Delivery.decode bytes = .ok delivery := by
  have fits := fits_of_encode encoded
  have short := length_le_of_encode encoded
  rcases Except.ok.inj (encoded.symm.trans (encode_eq fits)) with rfl
  have parsed := Message.parse_finish ⟨0, 0, 0, 0, deliverCommand :: 0 :: 0 :: 0
    :: delivery.attributes.flatMap Attribute.padded⟩ rfl (by
      rw [Draft.length_finish] at short
      exact Nat.lt_of_le_of_lt short (by decide))
  have attributes := Attribute.parseAll_flatMap_padded (writable_attributes fits)
  simp only [Delivery.decode, parsed, bind, Except.bind, if_true, attributes]
  simp [Delivery.attributes, Attribute.find?, macKind, packetKind]

end Delivery

theorem Draft.registration_eq (mac : MacAddress) (sequence port : UInt32) :
    Draft.registration mac sequence port = ⟨0, requestFlag, sequence, port,
      registerCommand :: 0 :: 0 :: 0 :: Attribute.padded ⟨macKind, mac.toBytes⟩⟩ := by
  have aligned := aligned_generic 0 requestFlag sequence port registerCommand 0
  rw [registration, aligned.runOn_attach mac.writable.length_le]
  rfl

def Request.registrationSize : Nat := Message.minSize + align4 (Attribute.headerSize + 6)

theorem Request.length_encodeRegister (mac : MacAddress) (sequence port : UInt32) :
    (Request.encodeRegister mac sequence port).length = registrationSize := by
  rw [Request.encodeRegister, Draft.length_finish, Draft.registration_eq]
  simp only [List.length_cons, Attribute.length_padded, MacAddress.length_toBytes,
    registrationSize, Message.minSize]
  omega

theorem Request.parse_encodeRegister (mac : MacAddress) (sequence port : UInt32) :
    Message.parse (Request.encodeRegister mac sequence port)
      = .ok ⟨(Draft.registration mac sequence port).header, registerCommand,
        Attribute.padded ⟨macKind, mac.toBytes⟩⟩ := by
  apply Message.parse_finish
  · rw [Draft.registration_eq]
  · rw [← Draft.length_finish]
    exact (length_encodeRegister mac sequence port).trans_lt (by decide)

theorem ClientMessage.decode_encodeRegister (mac : MacAddress) (sequence port : UInt32) :
    ClientMessage.decode (Request.encodeRegister mac sequence port)
      = .ok ⟨(Draft.registration mac sequence port).header, .register mac⟩ := by
  have writable : ∀ item ∈ [(⟨macKind, mac.toBytes⟩ : Attribute)], item.Writable := by
    rw [List.forall_mem_singleton]
    exact mac.writable
  have attributes := Attribute.parseAll_flatMap_padded writable
  rw [List.flatMap_singleton] at attributes
  simp only [ClientMessage.decode, Request.parse_encodeRegister, bind, Except.bind, if_true,
    attributes]
  simp [Attribute.find?]

theorem Draft.header_registration (mac : MacAddress) (sequence port : UInt32) :
    (Draft.registration mac sequence port).header.sequence = sequence
      ∧ (Draft.registration mac sequence port).header.port = port := by
  rw [Draft.registration_eq]
  exact ⟨rfl, rfl⟩

theorem Notification.frame_of_decode? {bytes : Bytes} {family : UInt16}
    {notification : Notification}
    (decoded : Notification.decode? bytes family = some notification) :
    notification.frame = bytes := by
  unfold Notification.decode? at decoded
  split at decoded
  · cases decoded
  · dsimp only at decoded
    split at decoded
    · split at decoded
      · rcases Option.map_eq_some_iff.mp decoded with ⟨mac, -, rfl⟩
        rfl
      · cases decoded
    · cases decoded

theorem Request.sequence_of_encodeRegister {mac other : MacAddress}
    {sequence port otherSequence otherPort : UInt32}
    (same : Request.encodeRegister mac sequence port
      = Request.encodeRegister other otherSequence otherPort) : sequence = otherSequence := by
  have read := ClientMessage.decode_encodeRegister mac sequence port
  rw [same, ClientMessage.decode_encodeRegister] at read
  have headers := congrArg ClientMessage.header (Except.ok.inj read)
  have sequences := congrArg Header.sequence headers
  rw [(Draft.header_registration ..).1, (Draft.header_registration ..).1] at sequences
  exact sequences.symm

namespace Acknowledgement

variable {result : Int32} {request : Header}

theorem encode_eq (result : Int32) (request : Header) :
    encode result request
      = Header.write ⟨36, messageKind, 0, request.sequence, request.port⟩
        ++ (Bytes.ofWord32 result.toUInt32 ++ request.write) :=
  Draft.finish_eq _

theorem length_encode (result : Int32) (request : Header) :
    (encode result request).length = 36 := by
  rw [encode_eq]
  rfl

/-- An acknowledgement is read back as it was written, whatever follows it. -/
theorem decode?_encode_append (result : Int32) (request : Header) (rest : Bytes) :
    decode? (encode result request ++ rest)
      = some ⟨request.sequence, request.port, result⟩ := by
  have found : Header.read? (encode result request ++ rest)
      = some ⟨36, messageKind, 0, request.sequence, request.port⟩ := by
    rw [encode_eq, List.append_assoc, Header.read?_write_append]
  have dropped : (encode result request ++ rest).drop Header.size
      = Bytes.ofWord32 result.toUInt32 ++ (request.write ++ rest) := by
    rw [encode_eq, List.append_assoc, List.append_assoc]
    exact List.drop_left' (Header.length_write _)
  have whole : 36 ≤ (encode result request ++ rest).length := by
    rw [List.length_append, length_encode]
    exact Nat.le_add_right ..
  unfold decode?
  rw [found, dropped]
  simp only [Bytes.ofWord32, List.cons_append, List.nil_append, Bytes.word32_ofNat]
  rw [if_pos ⟨trivial, by decide, whole⟩, Int32.toInt32_toUInt32]

theorem decode?_encode (result : Int32) (request : Header) :
    decode? (encode result request) = some ⟨request.sequence, request.port, result⟩ := by
  simpa using decode?_encode_append result request []

theorem parse_encode (result : Int32) (request : Header) :
    Message.parse (encode result request)
      = .ok ⟨⟨36, messageKind, 0, request.sequence, request.port⟩,
        UInt8.ofNat result.toUInt32.toNat, request.write⟩ :=
  Message.parse_finish ⟨messageKind, 0, request.sequence, request.port,
    Bytes.ofWord32 result.toUInt32 ++ request.write⟩ rfl (by change 36 < 4294967296; omega)

/-- An acknowledgement of success or of an invalid argument is not taken for a delivery. -/
theorem delivery_decode_encode (judged : result = 0 ∨ result = -22) :
    Delivery.decode (encode result request) = .error .malformed := by
  have command : UInt8.ofNat result.toUInt32.toNat ≠ deliverCommand := by
    rcases judged with rfl | rfl <;> decide
  simp only [Delivery.decode, parse_encode, bind, Except.bind]
  rw [if_neg command]

end Acknowledgement

/-- A delivery is not taken for an acknowledgement. -/
theorem Delivery.acknowledgement_decode?_encode {delivery : Delivery} {bytes : Bytes}
    (encoded : delivery.encode = .ok bytes) : Acknowledgement.decode? bytes = none := by
  rcases Except.ok.inj (encoded.symm.trans (encode_eq (fits_of_encode encoded))) with rfl
  unfold Acknowledgement.decode?
  rw [Draft.read?_finish]
  split
  · rename_i found _
    rcases Option.some.inj found with rfl
    rw [if_neg]
    rintro ⟨kind, -⟩
    exact absurd (show (0 : UInt16) = 2 from kind) (by decide)
  · rfl

section Truncation

variable {draft : Draft} {count : Nat}

theorem Header.read?_take_finish {header : Header}
    (found : Header.read? (draft.finish.take count) = some header) : header = draft.header := by
  have whole := Header.read?_append found (draft.finish.drop count)
  rw [List.take_append_drop, Draft.read?_finish] at whole
  exact (Option.some.inj whole).symm

/-- A message that lost bytes at its end is not taken for a whole one. -/
theorem Message.length_le_of_parse_take {message : Message}
    (small : Header.size + draft.body.length < 4294967296)
    (parsed : Message.parse (draft.finish.take count) = .ok message) :
    draft.finish.length ≤ count := by
  rcases Message.parse_eq_ok parsed with ⟨found, declared⟩
  rw [Header.read?_take_finish found, Draft.length_header small, List.length_take] at declared
  omega

theorem ClientMessage.length_le_of_decode_take {mac : MacAddress} {sequence port : UInt32}
    {message : ClientMessage}
    (decoded : ClientMessage.decode ((Request.encodeRegister mac sequence port).take count)
      = .ok message) :
    (Request.encodeRegister mac sequence port).length ≤ count := by
  have small : Header.size + (Draft.registration mac sequence port).body.length < 4294967296 := by
    rw [← Draft.length_finish]
    exact (Request.length_encodeRegister mac sequence port).trans_lt (by decide)
  cases parsed : Message.parse ((Request.encodeRegister mac sequence port).take count) with
  | error error =>
    rw [ClientMessage.decode, parsed] at decoded
    cases decoded
  | ok whole => exact Message.length_le_of_parse_take small parsed

end Truncation

end RadioRelay
