import RadioRelay.Wire.Attribute
import RadioRelay.Wire.Header

/-!
# Generic netlink messages

A generic message has a second header after the first one: a command, a
version and two unused bytes. The rest is an attribute section. A `Draft` is a
message under construction, whose length is filled in last.
-/

namespace RadioRelay

/-- A received generic message: its header, its command and the bytes of its
attribute section. -/
structure Message where
  header : Header
  command : UInt8
  attributes : Bytes
  deriving DecidableEq, Repr

namespace Message

/-- The least length of a generic message: both headers. -/
def minSize : Nat := Header.size + 4

/-- Reads a generic message that must span the bytes exactly. -/
def parse (bytes : Bytes) : Except ProtocolError Message :=
  match Header.read? bytes, bytes.drop Header.size with
  | some header, command :: _ :: _ :: _ :: attributes =>
    if header.length.toNat = bytes.length then .ok ⟨header, command, attributes⟩
    else .error (.sizeMismatch header.length.toNat bytes.length)
  | _, _ => .error (.truncated bytes.length)

end Message

/-- A message under construction: the header fields that its author chooses,
and everything after the header. -/
structure Draft where
  kind : UInt16
  flags : UInt16
  sequence : UInt32
  port : UInt32
  body : Bytes
  deriving DecidableEq, Repr

/-- Code that writes to a draft. What was written before a failure stays. -/
abbrev Drafting := ExceptT ProtocolError (StateM Draft)

def Drafting.runOn {α : Type} (drafting : Drafting α) (draft : Draft) :
    Except ProtocolError α × Draft :=
  StateT.run (ExceptT.run drafting) draft

namespace Draft

def generic (kind flags : UInt16) (sequence port : UInt32) (command version : UInt8) : Draft :=
  ⟨kind, flags, sequence, port, [command, version, 0, 0]⟩

/-- Everything written so far. The header does not tell a length yet. -/
def bytes (draft : Draft) : Bytes :=
  Header.write ⟨0, draft.kind, draft.flags, draft.sequence, draft.port⟩ ++ draft.body

def append (draft : Draft) (bytes : Bytes) : Draft := { draft with body := draft.body ++ bytes }

/-- Writes zeros until the message, its header included, is a multiple of four
bytes long. -/
def pad (draft : Draft) : Draft :=
  draft.append (List.replicate (align4 draft.bytes.length - draft.bytes.length) 0)

/-- Writes an attribute and pads the message, so that the next attribute starts
at a multiple of four bytes. -/
def attach (kind : UInt16) (payload : Bytes) : Drafting Unit := do
  if Attribute.maxPayload < payload.length then throw (.attributeTooLarge payload.length)
  modify fun draft => (draft.append (Attribute.write ⟨kind, payload⟩)).pad

def header (draft : Draft) : Header where
  length := UInt32.ofNat (Header.size + draft.body.length)
  kind := draft.kind
  flags := draft.flags
  sequence := draft.sequence
  port := draft.port

/-- The bytes of the message. Its length takes the first four of them. -/
def finish (draft : Draft) : Bytes :=
  Bytes.ofWord32 (UInt32.ofNat draft.bytes.length) ++ draft.bytes.drop 4

/-- The message that a draft becomes, if all that is left to write can be written. -/
def complete (draft : Draft) (drafting : Drafting Unit) : Except ProtocolError Bytes :=
  match drafting.runOn draft with
  | (.ok _, written) => .ok written.finish
  | (.error error, _) => .error error

@[simp]
theorem length_bytes (draft : Draft) : draft.bytes.length = Header.size + draft.body.length := by
  simp [bytes]

theorem finish_eq (draft : Draft) : draft.finish = draft.header.write ++ draft.body := by
  rw [finish, length_bytes]
  rfl

@[simp]
theorem length_finish (draft : Draft) :
    draft.finish.length = Header.size + draft.body.length := by
  simp [finish_eq]

@[simp]
theorem read?_finish (draft : Draft) : Header.read? draft.finish = some draft.header := by
  simp [finish_eq]

end Draft

end RadioRelay
