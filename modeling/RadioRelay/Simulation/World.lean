import RadioRelay.Buffer
import RadioRelay.Simulation.Files
import RadioRelay.System.Program

/-!
# A simulated machine

The machine on which programs can be tried out without an operating system. It
knows descriptors, lossless message sockets under abstract names, pollers, wake
events, files and a clock that moves only when somebody waits. Any call can be
told to fail.
-/

namespace RadioRelay.Simulation

/-- The number of one end of a connection. Unlike a descriptor it is never used
again. -/
abbrev EndId := Nat

structure End where
  /-- What was sent to it and not yet received. -/
  inbox : List Bytes
  peer : EndId
  isOpen : Bool
  /-- Whether the other end was closed before it had received everything, and
  this one was not told yet. -/
  isReset : Bool
  deriving Repr, Inhabited

/-- A descriptor that a poller watches, and the flags it is watched for. -/
structure Watch where
  target : Descriptor
  interest : UInt32
  deriving DecidableEq, Repr

inductive Device
  | unconnected
  | bound (name : Bytes)
  | listening (name : Bytes) (waiting : List EndId)
  | connected (own : EndId)
  /-- A message of the kernel may be replaced by an error that the receive
  reports. -/
  | netlink (inbox : List (Attempt Bytes))
  /-- What is watched, and those among it that may be ready, in the order in
  which they became so. -/
  | poller (watched : List Watch) (candidates : List Descriptor)
  | event (counter : Nat)
  deriving Repr

inductive FaultEffect
  | fails (errno : Errno)
  | returns (value : Int)
  /-- Nothing; the call is carried out. -/
  | passes
  deriving DecidableEq, Repr

/-- The disturbance of one call: the next one of a name, on a certain
descriptor if one is given. -/
structure Fault where
  call : String
  effect : FaultEffect
  target : Option Descriptor
  deriving DecidableEq, Repr

/-- The most bytes of a datagram that a channel to the kernel takes. -/
def maxReply : Nat := 32768

structure Kernel where
  /-- The port it gives to every netlink socket. -/
  port : UInt32 := 4242
  /-- The datagrams that a request brings about. -/
  reply : Bytes → List Bytes := fun _ => []
  /-- How a receive fails when nothing is left. -/
  exhausted : Errno := .wouldBlock

structure World where
  devices : List (Descriptor × Device) := []
  ends : List (EndId × End) := []
  faults : List Fault := []
  /-- Flags that the next report of a descriptor shows instead of its own. -/
  flagOverrides : List (Descriptor × UInt32) := []
  microseconds : Nat := 0
  pageSize : Int := 4096
  files : Files := Files.system
  kernel : Kernel := {}
  /-- Where the datagrams that answer requests are received. -/
  replyBuffer : Buffer := .zeroed maxReply
  /-- The event that a termination signal wakes. -/
  signalEvent : Option Descriptor := none
  /-- What was logged, the latest notice first. -/
  log : List Notice := []
  /-- The address of the latest bind or connect that was carried out. -/
  lastAddress : Option LocalAddress := none
  /-- The time limits of the waits, the latest first. -/
  timeouts : List Int := []
  /-- What was sent to the kernel, the latest first. -/
  requests : List Bytes := []

abbrev Machine := StateM World

namespace World

def device? (world : World) (descriptor : Descriptor) : Option Device :=
  world.devices.lookup descriptor

def end? (world : World) (id : EndId) : Option End := world.ends.lookup id

def endAt? (world : World) (descriptor : Descriptor) : Option (EndId × End) :=
  match world.device? descriptor with
  | some (.connected own) => (world.end? own).map (own, ·)
  | _ => none

def setDevice (world : World) (descriptor : Descriptor) (device : Device) : World :=
  { world with devices := world.devices.map fun entry =>
      if entry.1 = descriptor then (descriptor, device) else entry }

def setEnd (world : World) (id : EndId) (state : End) : World :=
  { world with ends := world.ends.map fun entry => if entry.1 = id then (id, state) else entry }

/-- The lowest number, from `first` on, that no descriptor has. The search
ends because each number passed over is in the list. -/
def freeNumber (taken : List Descriptor) : Nat → Int → Int
  | 0, candidate => candidate
  | fuel + 1, candidate =>
    if taken.contains ⟨candidate⟩ then freeNumber taken fuel (candidate + 1) else candidate

/-- Opens a descriptor: the lowest free number above the standard streams. -/
def openDevice (world : World) (device : Device) : Descriptor × World :=
  let descriptor : Descriptor :=
    ⟨freeNumber (world.devices.map (·.1)) (world.devices.length + 1) 3⟩
  (descriptor, { world with devices := world.devices ++ [(descriptor, device)] })

def newConnection (world : World) : EndId × EndId × World :=
  let first := world.ends.length
  let second := first + 1
  let made := [(first, End.mk [] second true false), (second, End.mk [] first true false)]
  (first, second, { world with ends := world.ends ++ made })

def isAbandoned (world : World) (state : End) : Bool :=
  ((world.end? state.peer).map (!·.isOpen)).getD true

def holderOf? (world : World) (id : EndId) : Option Descriptor :=
  (world.devices.find? fun entry =>
    match entry.2 with
    | .connected own => own = id
    | _ => false).map (·.1)

def boundTo? (world : World) (name : Bytes) : Option Descriptor :=
  (world.devices.find? fun entry =>
    match entry.2 with
    | .bound taken | .listening taken _ => taken = name
    | _ => false).map (·.1)

/-- Takes the first fault that concerns a call, one for the descriptor before
one for any. -/
def takeFault (world : World) (call : String) (descriptor : Option Descriptor) :
    FaultEffect × World :=
  let own := world.faults.find? fun fault =>
    fault.call = call && fault.target.isSome && fault.target = descriptor
  let any := world.faults.find? fun fault => fault.call = call && fault.target.isNone
  match own.or any with
  | some fault => (fault.effect, { world with faults := world.faults.erase fault })
  | none => (.passes, world)

end World

end RadioRelay.Simulation
