import RadioRelay.Wire.Message

/-!
# Acknowledgements

Every request is answered by one acknowledgement: a result number and a copy
of the request's header. Zero means success, a negative number is an error
code with its sign turned.
-/

namespace RadioRelay

/-- What an acknowledgement says: the request it answers, and the result. -/
structure Acknowledgement where
  sequence : UInt32
  port : UInt32
  result : Int32
  deriving DecidableEq, Repr

namespace Acknowledgement

/-- The kind of an acknowledgement, which is also the kind of an error. -/
def messageKind : UInt16 := 2

def encode (result : Int32) (request : Header) : Bytes :=
  let draft : Draft := ⟨messageKind, 0, request.sequence, request.port,
    Bytes.ofWord32 result.toUInt32 ++ request.write⟩
  draft.finish

/-- Reads an acknowledgement. Bytes after the declared length do not matter. -/
def decode? (bytes : Bytes) : Option Acknowledgement :=
  match Header.read? bytes, bytes.drop Header.size with
  | some header, r0 :: r1 :: r2 :: r3 :: _ =>
    let size := header.length.toNat
    if header.kind = messageKind ∧ Header.size + 4 ≤ size ∧ size ≤ bytes.length then
      some ⟨header.sequence, header.port, (Bytes.word32 r0 r1 r2 r3).toInt32⟩
    else none
  | _, _ => none

end Acknowledgement

end RadioRelay
