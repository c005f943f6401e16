import RadioRelay.MacAddress
import RadioRelay.Router.Statistics
import RadioRelay.System.Descriptor
import RadioRelay.Wire.Error

/-!
# What the programs report

Every line of the log is a notice. Its level decides whether a filter lets it
through, its text is what the line says.
-/

namespace RadioRelay

inductive Level
  | info
  | warning
  | error
  deriving DecidableEq, Repr

inductive RemovalReason
  | endOfStream
  | hangUp
  | receiveFailed (errno : Errno)
  | oversizedMessage (size capacity : Nat)
  | protocolViolation (error : ProtocolError)
  | shortAcknowledgement (written size : Nat)
  | acknowledgementFailed (errno : Errno)
  | deliveryFailed
  | shuttingDown
  deriving DecidableEq, Repr

def RemovalReason.text : RemovalReason → String
  | .endOfStream => "end of stream"
  | .hangUp => "hang up"
  | .receiveFailed errno =>
    let reason := errno.message
    s!"recv failed: {reason}"
  | .oversizedMessage size capacity => s!"oversized message len={size} cap={capacity}"
  | .protocolViolation error =>
    let reason := error.message
    s!"protocol violation: {reason}"
  | .shortAcknowledgement written size => s!"short ack write {written}/{size}"
  | .acknowledgementFailed errno =>
    let reason := errno.message
    s!"ack failed: {reason}"
  | .deliveryFailed => "delivery failed"
  | .shuttingDown => "shutting down"

inductive Notice
  | loadedConfig (path : String)
  | noConfig
  | resolvedFamily (name : String) (family : UInt16)
  | registeredForFrames (family : UInt16)
  | routing (name : String)
  | shutdownRequested
  | stopped (statistics : Statistics)
  | clientAdded (client : Descriptor)
  | clientUnwatched (client : Descriptor) (errno : Errno)
  | clientRegistered (client : Descriptor) (mac : MacAddress)
  | clientWithoutMac (client : Descriptor)
  | clientCommand (client : Descriptor) (command : UInt8)
  | clientRemoved (client : Descriptor) (reason : RemovalReason)
  | acceptFailed (name : String) (errno : Errno) (failures : Nat)
  | datagramsLost
  | kernelUnreadable (errno : Errno)
  | oversizedDatagram (size capacity : Nat)
  | registered (mac : MacAddress) (name : String)
  | frame (number : Nat) (mac : MacAddress) (size : Nat)
  | shutdownUnsignalled (errno : Errno)
  deriving DecidableEq, Repr

namespace Notice

def level : Notice → Level
  | .clientUnwatched _ _ | .clientWithoutMac _ | .clientCommand _ _ | .datagramsLost
  | .oversizedDatagram _ _ => .warning
  | .acceptFailed _ _ _ | .kernelUnreadable _ | .shutdownUnsignalled _ => .error
  | _ => .info

def text : Notice → String
  | .loadedConfig path => s!"loaded config: {path}"
  | .noConfig => "no config file found, using defaults"
  | .resolvedFamily name family => s!"resolved genl family {name} id={family}"
  | .registeredForFrames family => s!"registered for hwsim notifications family={family}"
  | .routing name => s!"routing on @{name}"
  | .shutdownRequested => "shutdown requested"
  | .stopped statistics =>
    s!"router stopped accepted={statistics.accepted} removed={statistics.removed} "
      ++ s!"notifications={statistics.notifications} "
      ++ s!"ignored={statistics.ignoredNotifications} "
      ++ s!"deliveries={statistics.deliveries} "
      ++ s!"failed_deliveries={statistics.failedDeliveries} "
      ++ s!"protocol_errors={statistics.protocolErrors} "
      ++ s!"accept_errors={statistics.acceptErrors}"
  | .clientAdded client => s!"client fd={client.number} added"
  | .clientUnwatched client errno =>
    let reason := errno.message
    s!"could not watch client fd={client.number}: {reason}"
  | .clientRegistered client mac =>
    let address := mac.toText
    s!"client fd={client.number} registered mac={address}"
  | .clientWithoutMac client => s!"client fd={client.number} sent register without a valid mac"
  | .clientCommand client command =>
    s!"client fd={client.number} sent unsupported command={command}"
  | .clientRemoved client reason =>
    let reason := reason.text
    s!"client fd={client.number} removed: {reason}"
  | .acceptFailed name errno failures =>
    let reason := errno.message
    s!"could not accept client on @{name}: {reason} failures={failures}"
  | .datagramsLost => "netlink receive buffer overrun, frames were lost"
  | .kernelUnreadable errno =>
    let reason := errno.message
    s!"could not read from netlink: {reason}"
  | .oversizedDatagram size capacity =>
    s!"discarded oversized netlink datagram len={size} cap={capacity}"
  | .registered mac name =>
    let address := mac.toText
    s!"registered mac={address} on @{name}"
  | .frame number mac size =>
    let address := mac.toText
    s!"frame #{number} from mac={address} len={size}"
  | .shutdownUnsignalled errno =>
    let reason := errno.message
    s!"failed to signal shutdown: {reason}"

end Notice

end RadioRelay
