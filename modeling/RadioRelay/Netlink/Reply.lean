import RadioRelay.System.Descriptor
import RadioRelay.Wire.Acknowledgement

/-!
# Replies of the kernel

A datagram of the kernel is a run of whole messages. What counts is which
request each of them answers, and whether it acknowledges or refuses it.
-/

namespace RadioRelay

inductive Outcome
  | acknowledged
  /-- The request was refused, with an error code of either sign. -/
  | refused (code : Int32)
  /-- The message carries something else. -/
  | other
  deriving DecidableEq, Repr

/-- What one message of a datagram says about which request. -/
structure Reply where
  sequence : UInt32
  port : UInt32
  outcome : Outcome
  deriving DecidableEq, Repr

namespace Reply

/-- The kind of the message that ends a run of them. -/
def doneKind : UInt16 := 3

def codeSize : Nat := 4

def code? : Bytes → Option Int32
  | c0 :: c1 :: c2 :: c3 :: _ => some (Bytes.word32 c0 c1 c2 c3).toInt32
  | _ => none

/-- Whether some bytes begin with attributes that take up exactly `size` bytes,
the padding of the last one included. -/
def holdsAttributes (size : Nat) (bytes : Bytes) : Bool :=
  size % 4 = 0 && size ≤ bytes.length && (Attribute.parseAll (bytes.take size)).isOk

/-- Whether some bytes begin with a generic header and attributes that take up
exactly `size` bytes. -/
def holdsGeneric (size : Nat) (bytes : Bytes) : Bool :=
  let headerSize := Message.minSize - Header.size
  headerSize ≤ size && size ≤ bytes.length
    && holdsAttributes (size - headerSize) (bytes.drop headerSize)

/-- Whether some bytes begin with a refused request and attributes about the
refusal that take up exactly `size` bytes. -/
def holdsRefused (size : Nat) (bytes : Bytes) : Bool :=
  match Header.read? bytes with
  | none => false
  | some header =>
    let length := header.length.toNat
    Header.size ≤ length && length ≤ size
      && holdsGeneric (length - Header.size) (bytes.drop Header.size)
      && holdsAttributes (size - length) (bytes.drop length)

/-- What a message says, and how many bytes of `body` belong to it. The message
declares `size` bytes after its header; `body` is the rest of the datagram. An
acknowledgement carries the header of its request and never more, whatever it
declares. The end of a run may be cut off after its header. -/
def outcome? (kind : UInt16) (size : Nat) (body : Bytes) : Option (Outcome × Nat) :=
  if kind = Acknowledgement.messageKind then do
    let code ← code? body
    let rest := body.drop codeSize
    if code = 0 then
      if rest.length < Header.size then none
      else some (.acknowledged, codeSize + Header.size)
    else if codeSize ≤ size && holdsRefused (size - codeSize) rest then
      some (.refused code, size)
    else none
  else if kind = doneKind then
    if body.isEmpty then some (.other, 0)
    else if codeSize ≤ size && size ≤ body.length
        && holdsAttributes (size - codeSize) (body.drop codeSize) then
      some (.other, size)
    else none
  else if holdsGeneric size body then some (.other, size)
  else none

/-- Reads every message of a datagram. Each begins where the one before it
ended. Bytes that do not form a whole message make the datagram unreadable. -/
def parseAll (bytes : Bytes) : Option (List Reply) :=
  if bytes.isEmpty then some []
  else
    match Header.read? bytes with
    | none => none
    | some header =>
      let body := bytes.drop Header.size
      if header.length.toNat < Header.size then none
      else
        match outcome? header.kind (header.length.toNat - Header.size) body with
        | none => none
        | some (outcome, size) =>
          (parseAll (body.drop size)).map (⟨header.sequence, header.port, outcome⟩ :: ·)
termination_by bytes.length
decreasing_by
  simp only [List.length_drop, Header.size, List.isEmpty_iff] at *
  have := List.length_pos_iff.mpr ‹¬bytes = []›
  omega

/-- The outcome of a request according to some replies: that of the first reply
to it which acknowledges or refuses. -/
def verdict? (sequence port : UInt32) : List Reply → Option (Except Errno Unit)
  | [] => none
  | reply :: rest =>
    if reply.sequence = sequence ∧ reply.port = port then
      match reply.outcome with
      | .acknowledged => some (.ok ())
      | .refused code => some (.error ⟨code.toInt.natAbs⟩)
      | .other => verdict? sequence port rest
    else verdict? sequence port rest

end Reply

end RadioRelay
