import RadioRelay.Wire.Delivery

/-!
# Requests of the clients

The one request a client can make is to register a hardware address. What
else arrives as a well-formed message is told apart from bytes that are no
message at all.
-/

namespace RadioRelay

inductive Request
  /-- Deliver the frames that this address transmits. -/
  | register (mac : MacAddress)
  /-- A registration without a usable address. -/
  | missingMac
  /-- A command that is not known. -/
  | unrecognized (command : UInt8)
  deriving DecidableEq, Repr

structure ClientMessage where
  header : Header
  request : Request
  deriving DecidableEq, Repr

def requestFlag : UInt16 := 1

namespace ClientMessage

/-- Reads a client's message. The attributes of an unknown command are not
looked at. -/
def decode (bytes : Bytes) : Except ProtocolError ClientMessage := do
  let message ← Message.parse bytes
  if message.command = registerCommand then
    let attributes ← Attribute.parseAll message.attributes
    match (Attribute.find? macKind attributes).bind MacAddress.ofBytes? with
    | some mac => .ok ⟨message.header, .register mac⟩
    | none => .ok ⟨message.header, .missingMac⟩
  else .ok ⟨message.header, .unrecognized message.command⟩

end ClientMessage

/-- The draft of a registration. Six bytes always fit an attribute, so the
address is never left out. -/
def Draft.registration (mac : MacAddress) (sequence port : UInt32) : Draft :=
  let draft := Draft.generic 0 requestFlag sequence port registerCommand 0
  ((Draft.attach macKind mac.toBytes).runOn draft).2

def Request.encodeRegister (mac : MacAddress) (sequence port : UInt32) : Bytes :=
  (Draft.registration mac sequence port).finish

end RadioRelay
