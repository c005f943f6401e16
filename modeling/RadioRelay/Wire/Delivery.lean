import RadioRelay.MacAddress
import RadioRelay.Wire.Message

/-!
# Frames to the clients

A frame is delivered to a client as a generic message with two attributes: the
transmitter's address and the datagram that the kernel sent.
-/

namespace RadioRelay

def registerCommand : UInt8 := 0

def deliverCommand : UInt8 := 1

def macKind : UInt16 := 0

/-- The kind of the attribute that holds a delivered datagram. -/
def packetKind : UInt16 := 1

/-- A frame as a client receives it. -/
structure Delivery where
  mac : MacAddress
  packet : Bytes
  deriving DecidableEq, Repr

namespace Delivery

def maxSize : Nat :=
  Message.minSize + align4 (Attribute.headerSize + 6)
    + align4 (Attribute.headerSize + Attribute.maxPayload)

def encode (delivery : Delivery) : Except ProtocolError Bytes :=
  (Draft.generic 0 0 0 0 deliverCommand 0).complete do
    Draft.attach macKind delivery.mac.toBytes
    Draft.attach packetKind delivery.packet

/-- Reads a delivery. Both attributes are required, and the address must have
six bytes. -/
def decode (bytes : Bytes) : Except ProtocolError Delivery := do
  let message ← Message.parse bytes
  if message.command = deliverCommand then
    let attributes ← Attribute.parseAll message.attributes
    match (Attribute.find? macKind attributes).bind MacAddress.ofBytes?,
        Attribute.find? packetKind attributes with
    | some mac, some packet => .ok ⟨mac, packet⟩
    | _, _ => .error .malformed
  else .error .malformed

end Delivery

end RadioRelay
