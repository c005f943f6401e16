import RadioRelay.Failure

/-!
# Addresses in the abstract namespace

Local sockets meet under a name that leaves no entry in the file system. The
address of a name is a zero byte followed by the bytes of the name; the length
that goes with it, and not a terminator, says where the name ends.
-/

namespace RadioRelay

/-- The address of a local socket as it is handed to the system. -/
structure LocalAddress where
  /-- The whole path field, filled up with zeros. -/
  path : Bytes
  /-- The number of bytes that count, the two of the address family included. -/
  length : Nat
  deriving DecidableEq, Repr

namespace LocalAddress

def family : Nat := 1

def pathCapacity : Nat := 108

/-- The part of the path that the system looks at: two addresses are the same
if these bytes are. -/
def key (address : LocalAddress) : Bytes := address.path.take (address.length - 2)

def ofName (name : String) : Except Failure LocalAddress :=
  let bytes := name.toUTF8.toList
  if bytes.isEmpty then .error (.of .emptySocketName)
  else if maxSocketName < bytes.length then .error (.of (.longSocketName name))
  else .ok {
    path := 0 :: bytes ++ List.replicate (pathCapacity - 1 - bytes.length) 0
    length := 2 + 1 + bytes.length }

end LocalAddress

end RadioRelay
