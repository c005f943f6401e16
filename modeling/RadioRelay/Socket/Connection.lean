import RadioRelay.System.Program

/-!
# Connected sockets

A connection moves whole messages: every send and every receive is exactly one
of them.
-/

namespace RadioRelay

structure Connection where
  descriptor : Descriptor
  deriving DecidableEq, Repr

namespace Connection

def connect (name : String) : Fallible Connection := do
  let address ← ExceptT.mk (pure (LocalAddress.ofName name))
  let descriptor ← Fallible.attempting .creatingSocket
    (Program.call (.openSocket .process true))
  Fallible.closingOnFailure descriptor do
    Fallible.attempting (.connecting name) (Program.call (.connect descriptor address))
    return ⟨descriptor⟩

def pair : Fallible (Connection × Connection) := do
  let (first, second) ← Fallible.attempting .creatingPair (Program.call .openPair)
  return (⟨first⟩, ⟨second⟩)

/-- Sends one message without waiting, and gives the number of bytes taken. -/
def send (connection : Connection) (message : Bytes) : Program (Attempt Nat) :=
  Program.call (.send connection.descriptor message)

/-- Receives one message and cuts it to a capacity. -/
def receive (connection : Connection) (capacity : Nat) : Program (Attempt Received) :=
  Program.call (.receive connection.descriptor capacity)

/-- Limits the time a receive waits, given in milliseconds; without a limit it
waits for ever. -/
def setReceiveTimeout (connection : Connection) (limit : Option Nat) : Fallible Unit :=
  let milliseconds := limit.getD 0
  Fallible.attempting .settingTimeout (Program.call
    (.setReceiveTimeout connection.descriptor (milliseconds / 1000) (milliseconds % 1000 * 1000)))

def close (connection : Connection) : Program Unit :=
  Program.call (.close connection.descriptor)

end Connection

end RadioRelay
