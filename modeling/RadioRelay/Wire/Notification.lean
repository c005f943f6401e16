import RadioRelay.MacAddress
import RadioRelay.Wire.Message

/-!
# Frames from the kernel

The simulated radio hands every transmitted frame to the router as a generic
message of the radio's own family. Only the transmitter's address is read; the
datagram is forwarded whole.
-/

namespace RadioRelay

structure Notification where
  transmitter : MacAddress
  /-- The whole datagram as received. -/
  frame : Bytes
  deriving DecidableEq, Repr

namespace Notification

def transmitterKind : UInt16 := 2

/-- Reads a datagram of a family. Bytes after the declared length are kept in
the frame but not read. Everything without a transmitter is refused. -/
def decode? (bytes : Bytes) (family : UInt16) : Option Notification :=
  match Header.read? bytes with
  | none => none
  | some header =>
    let size := header.length.toNat
    if header.kind = family ∧ Message.minSize ≤ size ∧ size ≤ bytes.length then
      match Attribute.parseAll ((bytes.take size).drop Message.minSize) with
      | .ok attributes =>
        ((Attribute.find? transmitterKind attributes).bind MacAddress.ofBytes?).map (⟨·, bytes⟩)
      | .error _ => none
    else none

end Notification

end RadioRelay
