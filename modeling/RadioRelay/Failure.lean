import RadioRelay.Configuration
import RadioRelay.MacAddress
import RadioRelay.System.Descriptor

/-!
# Failures

A failure has a cause and the activities during which it happened, the
outermost first. Its wording joins them all.
-/

namespace RadioRelay

inductive Cause
  | system (errno : Errno)
  | notText
  | emptySocketName
  | longSocketName (name : String)
  /-- A poller was asked for more events at a time than a call can return. -/
  | tooManyEvents
  | invalidConfiguration (violation : Violation)
  | missingConfig (path : String)
  | invalidYaml
  | closedByRouter
  | messageTooLarge (size : Nat)
  | shortRegistration (written size : Nat)
  /-- Neither an acknowledgement nor a frame came in answer to a registration. -/
  | unexpectedMessage (error : ProtocolError)
  | badFrame (error : ProtocolError)
  | noReply
  | netlinkUnavailable
  | unknownFamily (name : String)
  | netlinkSend
  | netlinkReceive
  /-- A reply is not a sequence of whole messages. -/
  | unreadableReply
  | signalHandler
  deriving DecidableEq, Repr

inductive Activity
  | creatingSocket
  | creatingPair
  | binding (name : String)
  | listening (name : String)
  | connecting (name : String)
  | settingTimeout
  | creatingWakeEvent
  | watchingListener
  | watchingKernel
  | watchingWakeEvent
  | sendingRegistration
  | receivingFromRouter
  | registering (mac : MacAddress)
  /-- The kernel answered a request with an error. -/
  | requestingFromKernel
  | registeringForFrames
  | readingLocalPort
  | readingConfig (path : String)
  | interpretingConfig (path : String)
  | validating
  deriving DecidableEq, Repr

/-- A cause and the activities around it, the outermost first. -/
structure Failure where
  activities : List Activity
  cause : Cause
  deriving DecidableEq, Repr

def Cause.message : Cause → String
  | .system errno => errno.message
  | .notText => "io error InvalidData"
  | .emptySocketName => "socket name must not be empty"
  | .longSocketName name =>
    let size := name.utf8ByteSize
    s!"socket name too long ({size} > {maxSocketName}): {name}"
  | .tooManyEvents => "events len overflow"
  | .invalidConfiguration violation => violation.message
  | .missingConfig path => s!"config file {path} does not exist"
  | .invalidYaml => "invalid YAML"
  | .closedByRouter => "router closed the connection"
  | .messageTooLarge size => s!"message from router too large: {size} bytes"
  | .shortRegistration written size => s!"short register write {written}/{size}"
  | .unexpectedMessage error =>
    let reason := error.message
    s!"unexpected message while awaiting ack: {reason}"
  | .badFrame error =>
    let reason := error.message
    s!"bad frame from router: {reason}"
  | .noReply => "no reply from kernel"
  | .netlinkUnavailable => "could not connect to netlink generic"
  | .unknownFamily name =>
    s!"could not find {name}; make sure module 'mac80211_hwsim' is loaded"
  | .netlinkSend => "netlink send failed"
  | .netlinkReceive => "netlink recv failed"
  | .unreadableReply => "could not parse netlink reply"
  | .signalHandler => "failed to install signal handler"

def Activity.message : Activity → String
  | .creatingSocket => "could not create unix socket"
  | .creatingPair => "socketpair failed"
  | .binding name => s!"could not bind unix socket @{name}"
  | .listening name => s!"could not listen on @{name}"
  | .connecting name => s!"could not connect to @{name}"
  | .settingTimeout => "failed to set SO_RCVTIMEO"
  | .creatingWakeEvent => "failed to create shutdown eventfd"
  | .watchingListener => "failed to watch control listener"
  | .watchingKernel => "failed to watch netlink socket"
  | .watchingWakeEvent => "failed to watch shutdown eventfd"
  | .sendingRegistration => "send register failed"
  | .receivingFromRouter => "recv from router failed"
  | .registering mac =>
    let text := mac.toText
    s!"router refused mac={text}"
  | .requestingFromKernel => "kernel refused request"
  | .registeringForFrames => "could not register for hwsim notifications"
  | .readingLocalPort => "getsockname on netlink socket"
  | .readingConfig path => s!"failed to read config {path}"
  | .interpretingConfig path => s!"invalid config in {path}"
  | .validating => "invalid configuration"

namespace Failure

/-- A failure outside any activity. -/
def of (cause : Cause) : Failure := ⟨[], cause⟩

def system (errno : Errno) : Failure := of (.system errno)

/-- The same failure, seen from the activity around it. -/
def during (activity : Activity) (failure : Failure) : Failure :=
  { failure with activities := activity :: failure.activities }

/-- The wording: the activities from the outside in, then the cause. -/
def message (failure : Failure) : String :=
  ": ".intercalate (failure.activities.map (·.message) ++ [failure.cause.message])

end Failure

end RadioRelay
