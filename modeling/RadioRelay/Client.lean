import RadioRelay.Buffer
import RadioRelay.Socket.Connection
import RadioRelay.Wire.Acknowledgement
import RadioRelay.Wire.Request

/-!
# The client's side

A client registers addresses with a router and receives the frames they
transmit. Frames and acknowledgements share one connection: a frame that comes
while a registration waits for its acknowledgement is kept for later.
-/

namespace RadioRelay

structure Client where
  connection : Connection
  /-- Marks this client's requests, with the sequence number. -/
  port : UInt32
  sequence : UInt32
  buffer : Buffer
  /-- Frames that came while an acknowledgement was awaited, oldest first. -/
  pending : List Delivery
  deriving Repr

namespace Client

def connect (name : String) : Fallible Client := do
  let connection ← Connection.connect name
  let port ← ExceptT.lift (Program.call .processId)
  return {
    connection := connection
    port := port
    sequence := 0
    buffer := Buffer.zeroed Delivery.maxSize
    pending := [] }

/-- Limits the time a receive waits, given in milliseconds. -/
def setReceiveTimeout (client : Client) (limit : Option Nat) : Fallible Unit :=
  client.connection.setReceiveTimeout limit

def receiveUninterrupted (client : Client) : Program (Attempt Received) :=
  Program.repeatUntil () fun _ => do
    match ← client.connection.receive client.buffer.capacity with
    | .error errno => return if errno = .interrupted then .inl () else .inr (.error errno)
    | .ok received => return .inr (.ok received)

def receiveMessage (client : Client) : Program (Except Failure Bytes × Client) := do
  match ← client.receiveUninterrupted with
  | .error errno =>
    return (.error ((Failure.system errno).during .receivingFromRouter), client)
  | .ok received =>
    let client := { client with buffer := client.buffer.store received.stored }
    if received.size = 0 then return (.error (.of .closedByRouter), client)
    else
      match client.buffer.slice? received.size with
      | none => return (.error (.of (.messageTooLarge received.size)), client)
      | some message => return (.ok message, client)

/-- What a message means to a client that awaits an acknowledgement. -/
inductive Reply
  /-- The acknowledgement of another request. -/
  | stale
  | accepted
  | refused (errno : Errno)
  | frame (delivery : Delivery)
  | garbage (error : ProtocolError)
  deriving DecidableEq, Repr

def interpret (client : Client) (message : Bytes) : Reply :=
  match Acknowledgement.decode? message with
  | some acknowledgement =>
    if acknowledgement.sequence ≠ client.sequence ∨ acknowledgement.port ≠ client.port then
      .stale
    else if acknowledgement.result ≠ 0 then .refused ⟨-acknowledgement.result.toInt⟩
    else .accepted
  | none =>
    match Delivery.decode message with
    | .ok delivery => .frame delivery
    | .error error => .garbage error

/-- Waits for the acknowledgement of the latest request, which registered an
address. Frames are kept, acknowledgements of other requests skipped. -/
def awaitAcknowledgement (client : Client) (mac : MacAddress) :
    Program (Except Failure Unit × Client) :=
  Program.repeatUntil client fun client => do
    match ← client.receiveMessage with
    | (.error failure, client) => return .inr (.error failure, client)
    | (.ok message, client) =>
      match client.interpret message with
      | .stale => return .inl client
      | .frame delivery => return .inl { client with pending := client.pending ++ [delivery] }
      | .accepted => return .inr (.ok (), client)
      | .refused errno =>
        return .inr (.error ((Failure.system errno).during (.registering mac)), client)
      | .garbage error => return .inr (.error (.of (.unexpectedMessage error)), client)

def register (client : Client) (mac : MacAddress) :
    Program (Except Failure Unit × Client) := do
  let client := { client with sequence := client.sequence + 1 }
  let request := Request.encodeRegister mac client.sequence client.port
  match ← client.connection.send request with
  | .error errno =>
    return (.error ((Failure.system errno).during .sendingRegistration), client)
  | .ok count =>
    if count = request.length then client.awaitAcknowledgement mac
    else return (.error (.of (.shortRegistration count request.length)), client)

/-- The next frame: the oldest one kept, or else the next message. -/
def receiveFrame (client : Client) : Program (Except Failure Delivery × Client) := do
  match client.pending with
  | delivery :: rest => return (.ok delivery, { client with pending := rest })
  | [] =>
    match ← client.receiveMessage with
    | (.error failure, client) => return (.error failure, client)
    | (.ok message, client) =>
      match Delivery.decode message with
      | .ok delivery => return (.ok delivery, client)
      | .error error => return (.error (.of (.badFrame error)), client)

end Client

end RadioRelay
