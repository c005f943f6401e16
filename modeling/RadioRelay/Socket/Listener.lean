import RadioRelay.Socket.Connection

/-!
# The control socket

Clients find the router under an abstract name. The listener hands out one
connection at a time.
-/

namespace RadioRelay

structure Listener where
  descriptor : Descriptor
  name : String
  deriving DecidableEq, Repr

namespace Listener

def bind (name : String) (backlog : Int) : Fallible Listener := do
  let address ← ExceptT.mk (pure (LocalAddress.ofName name))
  let descriptor ← Fallible.attempting .creatingSocket
    (Program.call (.openSocket .process false))
  Fallible.closingOnFailure descriptor do
    Fallible.attempting (.binding name) (Program.call (.bind descriptor (.address address)))
    Fallible.attempting (.listening name) (Program.call (.listen descriptor backlog))
    return ⟨descriptor, name⟩

/-- Accepts one waiting connection; there is none if nobody waits or the call
was interrupted. -/
def accept (listener : Listener) : Program (Attempt (Option Connection)) := do
  match ← Program.call (.accept listener.descriptor) with
  | .ok descriptor => return .ok (some ⟨descriptor⟩)
  | .error errno => return if errno.isTransient then .ok none else .error errno

def close (listener : Listener) : Program Unit :=
  Program.call (.close listener.descriptor)

end Listener

end RadioRelay
