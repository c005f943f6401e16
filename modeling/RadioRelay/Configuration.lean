import RadioRelay.Wire.Message

/-!
# The daemon's configuration

A configuration comes from defaults and a file. It is checked before anything
is opened: its limits are those of socket names, of generic messages and of
attributes.
-/

namespace RadioRelay

/-- The longest name of a control socket, in bytes. An address has room for
108, of which the first is a zero that marks the name as abstract; one byte is
left unused. -/
def maxSocketName : Nat := 106

def defaultSocketName : String := "cvd-wifirouter"

structure Configuration where
  /-- The abstract name of the control socket. -/
  socketName : String
  /-- The generic netlink family of the simulated radio. -/
  familyName : String
  /-- How many connections may wait to be accepted. -/
  backlog : Int
  maxClientMessage : Nat
  kernelBuffer : Nat
  logLevel : String
  deriving DecidableEq, Repr

inductive Violation
  | emptySocketName
  | longSocketName (size : Nat)
  | emptyFamilyName
  | backlog
  | maxClientMessage
  | kernelBuffer
  deriving DecidableEq, Repr

def Violation.message : Violation → String
  | .emptySocketName => "socket_name must not be empty"
  | .longSocketName size => s!"socket_name is {size} bytes, at most {maxSocketName} allowed"
  | .emptyFamilyName => "family_name must not be empty"
  | .backlog => "backlog must be > 0"
  | .maxClientMessage => s!"max_client_message must be at least {Message.minSize}"
  | .kernelBuffer =>
    s!"kernel_buffer must be within {Message.minSize}..={Attribute.maxPayload}"

namespace Configuration

/-- The configuration used where a file is silent. A client message may fill a
page of memory; a system that does not tell its page size is taken to have
pages of 4096 bytes. -/
def standard (pageSize : Int) : Configuration where
  socketName := defaultSocketName
  familyName := "MAC80211_HWSIM"
  backlog := 4
  maxClientMessage := if pageSize ≤ 0 then 4096 else pageSize.toNat
  kernelBuffer := 16384
  logLevel := "info"

/-- The first violation, in the order of the fields. -/
def validate (configuration : Configuration) : Except Violation Unit :=
  if configuration.socketName.utf8ByteSize = 0 then .error .emptySocketName
  else if maxSocketName < configuration.socketName.utf8ByteSize then
    .error (.longSocketName configuration.socketName.utf8ByteSize)
  else if configuration.familyName.utf8ByteSize = 0 then .error .emptyFamilyName
  else if configuration.backlog ≤ 0 then .error .backlog
  else if configuration.maxClientMessage < Message.minSize then .error .maxClientMessage
  else if configuration.kernelBuffer < Message.minSize
      ∨ Attribute.maxPayload < configuration.kernelBuffer then
    .error .kernelBuffer
  else .ok ()

end Configuration

end RadioRelay
