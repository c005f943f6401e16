/-!
# Descriptors and system errors
-/

namespace RadioRelay

/-- The number under which the system knows an open socket, poller or event. -/
structure Descriptor where
  number : Int
  deriving DecidableEq, Repr, Inhabited

structure Errno where
  code : Int
  deriving DecidableEq, Repr, Inhabited

namespace Errno

def interrupted : Errno := ⟨4⟩

/-- The descriptor is not open, or not of the kind the call needs. -/
def badDescriptor : Errno := ⟨9⟩

def wouldBlock : Errno := ⟨11⟩

def alreadyThere : Errno := ⟨17⟩

def notThere : Errno := ⟨2⟩

def isDirectory : Errno := ⟨21⟩

def invalid : Errno := ⟨22⟩

def brokenPipe : Errno := ⟨32⟩

def unsupported : Errno := ⟨38⟩

def addressInUse : Errno := ⟨98⟩

def connectionReset : Errno := ⟨104⟩

def noBuffers : Errno := ⟨105⟩

def notConnected : Errno := ⟨107⟩

def connectionRefused : Errno := ⟨111⟩

/-- The call may be tried again as if it had not been made. -/
def isTransient (errno : Errno) : Bool := errno = wouldBlock || errno = interrupted

def message (errno : Errno) : String := s!"os error {errno.code}"

end Errno

/-- What a system call gives: a value or the reason of its failure. -/
abbrev Attempt (α : Type) := Except Errno α

end RadioRelay
