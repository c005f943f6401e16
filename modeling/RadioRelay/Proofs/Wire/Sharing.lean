import RadioRelay.Proofs.Wire.RoundTrip

/-!
# Acknowledgements and deliveries on one connection

An acknowledgement has no second header: a reader of deliveries finds the lowest
byte of the result where a command stands, and the copy of the request's header
where attributes stand. The client chose every field of that copy, except that
its length is the length of the message it sent. This length, read as the size of
the first attribute, reaches beyond the end of the copy, so no acknowledgement is
taken for a delivery. A delivery is told from an acknowledgement by its kind.
-/

namespace RadioRelay

theorem Bytes.ofWord32_eq_halves (word : UInt32) :
    ofWord32 word = ofWord16 (UInt16.ofNat word.toNat)
      ++ ofWord16 (UInt16.ofNat (word.toNat / 65536)) := by
  have bound := word.toNat_lt
  simp only [ofWord32, ofWord16, List.cons_append, List.nil_append, List.cons.injEq, and_true]
  refine ⟨?_, ?_, ?_, ?_⟩ <;> apply UInt8.toNat_inj.mp <;>
    simp only [UInt8.toNat_ofNat', UInt16.toNat_ofNat'] <;> omega

/-- A header is no attribute section if the low half of its length exceeds its own size. -/
theorem Attribute.parseAll_write_header (header : Header)
    (beyond : Header.size < header.length.toNat % 65536) :
    parseAll header.write = .error .malformed := by
  have size : (UInt16.ofNat header.length.toNat).toNat = header.length.toNat % 65536 :=
    UInt16.toNat_ofNat'
  rw [Header.write, Bytes.ofWord32_eq_halves]
  simp only [List.append_assoc]
  rw [parseAll_header, size, if_pos]
  right
  simp only [List.length_take, List.length_append, Bytes.length_ofWord16, Bytes.length_ofWord32,
    Header.size, headerSize] at beyond ⊢
  omega

theorem Message.minSize_le_of_parse {bytes : Bytes} {message : Message}
    (parsed : parse bytes = .ok message) : minSize ≤ bytes.length := by
  by_contra short
  rw [parse_of_short (Nat.not_le.mp short)] at parsed
  cases parsed

theorem ClientMessage.parse_of_decode {bytes : Bytes} {message : ClientMessage}
    (decoded : decode bytes = .ok message) :
    ∃ whole, Message.parse bytes = .ok whole ∧ whole.header = message.header := by
  cases parsed : Message.parse bytes with
  | error error =>
    rw [decode, parsed] at decoded
    cases decoded
  | ok whole =>
    refine ⟨whole, rfl, ?_⟩
    simp only [decode, parsed, bind, Except.bind] at decoded
    split at decoded
    · cases attributes : Attribute.parseAll whole.attributes with
      | error error =>
        rw [attributes] at decoded
        cases decoded
      | ok items =>
        rw [attributes] at decoded
        dsimp only at decoded
        split at decoded <;> cases decoded <;> rfl
    · cases decoded
      rfl

theorem ClientMessage.length_of_decode {bytes : Bytes} {message : ClientMessage}
    (decoded : decode bytes = .ok message) :
    message.header.length.toNat = bytes.length ∧ Message.minSize ≤ bytes.length := by
  rcases parse_of_decode decoded with ⟨whole, parsed, header⟩
  rw [← header]
  exact ⟨(Message.parse_eq_ok parsed).2, Message.minSize_le_of_parse parsed⟩

namespace Acknowledgement

/-- No acknowledgement is taken for a delivery if the low half of the length in the copied header
exceeds a header's own size. -/
theorem delivery_decode_encode_of_long (result : Int32) (request : Header)
    (beyond : Header.size < request.length.toNat % 65536) :
    Delivery.decode (encode result request) = .error .malformed := by
  simp only [Delivery.decode, parse_encode, bind, Except.bind]
  split
  · rw [Attribute.parseAll_write_header request beyond]
  · rfl

/-- From a length of 65540 on a client could have its acknowledgement read as a delivery: here the
result is 1, and the kind, the sequence number and the port of the request spell the attributes. -/
example : (Delivery.decode (encode 1 ⟨65540, 10, 0, 0x44332211, 0x6655⟩)).isOk = true := by
  decide +kernel

end Acknowledgement

/-- On one connection neither format is taken for the other. A frame that can be delivered is
written, and what is written is no acknowledgement. The acknowledgement of a message shorter than
65536 bytes is no delivery, whatever the client wrote into its header and whatever the result. -/
theorem formats_apart :
    (∀ delivery : Delivery, delivery.packet.length ≤ Attribute.maxPayload →
      ∃ bytes, delivery.encode = .ok bytes ∧ Acknowledgement.decode? bytes = none)
    ∧ ∀ (bytes : Bytes) (message : ClientMessage), bytes.length < 65536 →
      ClientMessage.decode bytes = .ok message →
      ∀ result : Int32,
        Delivery.decode (Acknowledgement.encode result message.header) = .error .malformed := by
  constructor
  · intro delivery fits
    rcases Delivery.exists_encode fits with ⟨bytes, encoded⟩
    exact ⟨bytes, encoded, Delivery.acknowledgement_decode?_encode encoded⟩
  · intro bytes message short decoded result
    rcases ClientMessage.length_of_decode decoded with ⟨declared, headers⟩
    apply Acknowledgement.delivery_decode_encode_of_long
    rw [declared, Nat.mod_eq_of_lt short]
    exact Nat.lt_of_lt_of_le (by decide) headers

/-- A message whose kind announces an address as attribute, answered with the command byte of a
delivery as lowest byte of the result. -/
def Request.mimicry : Bytes :=
  Draft.finish ⟨10, 0, 0x44332211, 0x6655, [9, 0, 0, 0]⟩

theorem formats_apart_of_mimicry :
    (∃ bytes, Delivery.encode ⟨⟨0, 1, 2, 3, 4, 5⟩, [7, 8, 9]⟩ = .ok bytes
      ∧ Acknowledgement.decode? bytes = none)
    ∧ ∃ header : Header, ClientMessage.decode Request.mimicry = .ok ⟨header, .unrecognized 9⟩
      ∧ Delivery.decode (Acknowledgement.encode 257 header) = .error .malformed := by
  refine ⟨formats_apart.1 _ (by decide), Draft.header ⟨10, 0, 0x44332211, 0x6655, [9, 0, 0, 0]⟩,
    by decide +kernel, formats_apart.2 Request.mimicry ⟨_, .unrecognized 9⟩ (by decide)
      (by decide +kernel) 257⟩

end RadioRelay
