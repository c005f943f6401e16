import RadioRelay.Bytes
import RadioRelay.Wire.Error

/-!
# Attribute sections

After its headers a message is a sequence of attributes. Each starts with its
length (two bytes, the four bytes of the attribute's own header included) and
its kind (two bytes), then comes the payload, then padding up to a multiple of
four bytes. The padding of the last attribute may be missing.
-/

namespace RadioRelay

def align4 (size : Nat) : Nat := (size + 3) / 4 * 4

/-- A kind and the bytes stored under it. -/
structure Attribute where
  kind : UInt16
  payload : Bytes
  deriving DecidableEq, Repr

namespace Attribute

def headerSize : Nat := 4

/-- The longest payload that the 16-bit length can announce. -/
def maxPayload : Nat := 65535 - headerSize

/-- The two highest bits of a kind are flags and do not take part in it. -/
def kindMask : UInt16 := 0x3fff

/-- Splits an attribute section. A header that does not fit, or a length below
the header's own or beyond the end, refuses the whole section. -/
def parseAll : Bytes → Except ProtocolError (List Attribute)
  | [] => .ok []
  | sizeLow :: sizeHigh :: kindLow :: kindHigh :: rest =>
    let size := (Bytes.word16 sizeLow sizeHigh).toNat
    let payload := rest.take (size - headerSize)
    if size < headerSize ∨ payload.length < size - headerSize then .error .malformed
    else
      match parseAll (rest.drop (align4 size - headerSize)) with
      | .ok attributes =>
        .ok (⟨Bytes.word16 kindLow kindHigh &&& kindMask, payload⟩ :: attributes)
      | .error error => .error error
  | _ => .error .malformed
termination_by bytes => bytes.length
decreasing_by
  simp only [List.length_drop, List.length_cons]
  omega

/-- The payload of the last attribute of a kind: a later one replaces an
earlier one. -/
def find? (kind : UInt16) (attributes : List Attribute) : Option Bytes :=
  (attributes.reverse.find? (·.kind = kind)).map (·.payload)

/-- The bytes of an attribute: its header and the payload, not padded. -/
def write (item : Attribute) : Bytes :=
  Bytes.ofWord16 (UInt16.ofNat (headerSize + item.payload.length)) ++ Bytes.ofWord16 item.kind
    ++ item.payload

end Attribute

end RadioRelay
