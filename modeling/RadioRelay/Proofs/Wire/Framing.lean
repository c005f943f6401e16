import Mathlib.Data.List.Infix
import RadioRelay.Proofs.Wire.RoundTrip

/-!
# A delivery is read whole or not at all

Every packet that fits an attribute is delivered in a message of a multiple of
four bytes, whose header declares its length, and it is read back from that
message. Bytes that begin the message, or that the message begins, are refused
for their length alone: nothing of the payload is looked at, so a packet may hold
attributes of its own.
-/

namespace RadioRelay

namespace Delivery

variable {delivery : Delivery} {bytes other : Bytes}

theorem decode_of_parse {error : ProtocolError} (refused : Message.parse bytes = .error error) :
    Delivery.decode bytes = .error error := by
  rw [Delivery.decode, refused]
  rfl

theorem declared_of_encode (encoded : delivery.encode = .ok bytes) :
    ∃ header, Header.read? bytes = some header ∧ header.length.toNat = bytes.length := by
  have decoded := decode_of_encode encoded
  cases parsed : Message.parse bytes with
  | error error =>
    rw [decode_of_parse parsed] at decoded
    cases decoded
  | ok message => exact ⟨message.header, Message.parse_eq_ok parsed⟩

theorem four_dvd_of_encode (encoded : delivery.encode = .ok bytes) : 4 ∣ bytes.length := by
  rw [length_of_encode encoded, Message.minSize, Header.size]
  unfold align4
  omega

/-- The longest deliveries are those of packets that leave no room for one more word. -/
theorem length_eq_maxSize_iff (encoded : delivery.encode = .ok bytes) :
    bytes.length = maxSize ↔ Attribute.maxPayload - 2 ≤ delivery.packet.length := by
  have fits := fits_of_encode encoded
  rw [length_of_encode encoded, maxSize]
  unfold align4 Attribute.maxPayload Attribute.headerSize at *
  omega

/-- A reader finds the header of a delivery in front of all bytes that are long enough, and begin
the delivery or begin with it. -/
theorem read?_of_near (encoded : delivery.encode = .ok bytes)
    (near : other <+: bytes ∨ bytes <+: other) (long : Message.minSize ≤ other.length) :
    ∃ header, Header.read? other = some header ∧ header.length.toNat = bytes.length := by
  rcases declared_of_encode encoded with ⟨header, found, declared⟩
  refine ⟨header, ?_, declared⟩
  rcases near with ⟨missing, rfl⟩ | ⟨extra, rfl⟩
  · cases front : Header.read? other with
    | none =>
      rw [Header.read?_eq_none_iff] at front
      rw [Message.minSize] at long
      omega
    | some shown => rw [← found, Header.read?_append front]
  · exact Header.read?_append found extra

/-- What is left of a delivery, and a delivery with more behind it, are refused for their length. -/
theorem decode_of_near (encoded : delivery.encode = .ok bytes) (different : other ≠ bytes)
    (near : other <+: bytes ∨ bytes <+: other) :
    Delivery.decode other = .error (if other.length < Message.minSize then
      .truncated other.length else .sizeMismatch bytes.length other.length) := by
  apply decode_of_parse
  split
  case isTrue short => exact Message.parse_of_short short
  case isFalse long =>
    have long := Nat.not_lt.mp long
    rcases read?_of_near encoded near long with ⟨header, found, declared⟩
    rw [← declared]
    apply Message.parse_of_mismatch long found
    rw [declared]
    intro sameLength
    apply different
    rcases near with begins | begins
    · exact begins.eq_of_length sameLength.symm
    · exact (begins.eq_of_length sameLength).symm

/-- A packet that fits an attribute is delivered in whole words, of which the header declares the
number of bytes, and is read back. What begins the delivery, and what the delivery begins, is
refused. A longer packet is not delivered. -/
theorem encode_exact (mac : MacAddress) (packet : Bytes) :
    (packet.length ≤ Attribute.maxPayload →
      ∃ bytes, Delivery.encode ⟨mac, packet⟩ = .ok bytes
        ∧ 4 ∣ bytes.length ∧ bytes.length ≤ maxSize
        ∧ (bytes.length = maxSize ↔ Attribute.maxPayload - 2 ≤ packet.length)
        ∧ (∃ header, Header.read? bytes = some header ∧ header.length.toNat = bytes.length)
        ∧ Delivery.decode bytes = .ok ⟨mac, packet⟩
        ∧ ∀ other, other ≠ bytes → other <+: bytes ∨ bytes <+: other →
          Delivery.decode other = .error (if other.length < Message.minSize then
            .truncated other.length else .sizeMismatch bytes.length other.length))
    ∧ (Attribute.maxPayload < packet.length →
      Delivery.encode ⟨mac, packet⟩ = .error (.attributeTooLarge packet.length)) := by
  constructor
  · intro fits
    obtain ⟨bytes, encoded⟩ : ∃ bytes, Delivery.encode ⟨mac, packet⟩ = .ok bytes :=
      exists_encode fits
    exact ⟨bytes, encoded, four_dvd_of_encode encoded, length_le_of_encode encoded,
      length_eq_maxSize_iff encoded, declared_of_encode encoded, decode_of_encode encoded,
      fun _ different near => decode_of_near encoded different near⟩
  · intro tooLong
    exact encode_eq_error tooLong

/-- A packet that is itself an attribute with another address. -/
def nested : Bytes := [10, 0, 0, 0, 9, 9, 9, 9, 9, 9, 0, 0]

theorem encode_exact_of_nested :
    (∃ bytes, Delivery.encode ⟨⟨1, 2, 3, 4, 5, 6⟩, nested⟩ = .ok bytes ∧ bytes.length = 48
      ∧ Delivery.decode bytes = .ok ⟨⟨1, 2, 3, 4, 5, 6⟩, nested⟩
      ∧ Delivery.decode (bytes.take 19) = .error (.truncated 19)
      ∧ Delivery.decode (bytes.take 47) = .error (.sizeMismatch 48 47)
      ∧ Delivery.decode (bytes ++ [0]) = .error (.sizeMismatch 48 49))
    ∧ Delivery.encode ⟨⟨1, 2, 3, 4, 5, 6⟩, List.replicate 65532 0⟩
      = .error (.attributeTooLarge 65532) := by
  constructor
  · rcases (encode_exact ⟨1, 2, 3, 4, 5, 6⟩ nested).1 (by decide) with
      ⟨bytes, encoded, -, -, -, -, decoded, near⟩
    have length : bytes.length = 48 := length_of_encode encoded
    have cut {count : Nat} (fewer : count < 48) : (bytes.take count).length = count := by
      rw [List.length_take, length]
      omega
    have refused {count : Nat} (fewer : count < 48) : bytes.take count ≠ bytes := by
      intro same
      have counted := cut fewer
      rw [same] at counted
      omega
    have short := near (bytes.take 19) (refused (by omega)) (.inl (List.take_prefix ..))
    have almost := near (bytes.take 47) (refused (by omega)) (.inl (List.take_prefix ..))
    have more := near (bytes ++ [0]) (by simp) (.inr (List.prefix_append ..))
    rw [cut (by omega)] at short almost
    rw [length] at short almost more
    rw [List.length_append, length] at more
    exact ⟨bytes, encoded, length, decoded, short, almost, more⟩
  · have long := List.length_replicate (n := 65532) (a := (0 : UInt8))
    have refused := (encode_exact ⟨1, 2, 3, 4, 5, 6⟩ (List.replicate 65532 0)).2
    rw [long] at refused
    exact refused (by decide)

end Delivery

end RadioRelay
