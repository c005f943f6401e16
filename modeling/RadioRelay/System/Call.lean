import RadioRelay.Notice
import RadioRelay.Socket.Address

/-!
# System calls

All that the programs ask of the world outside, as data: sockets, the poller,
the wake event, files, the clock, the log. Every call has a type of answers.
-/

namespace RadioRelay

inductive Transport
  /-- Whole messages between processes of this machine. -/
  | process
  /-- Datagrams to and from the kernel. -/
  | kernel
  deriving DecidableEq, Repr

inductive BindTarget
  | address (address : LocalAddress)
  /-- A port that the kernel chooses. -/
  | kernelPort
  deriving DecidableEq, Repr

/-- A descriptor that a poller found ready, with the flags that tell for what. -/
structure Readiness where
  descriptor : Descriptor
  flags : UInt32
  deriving DecidableEq, Repr

/-- A received message: its length on the wire, and the bytes that fitted the
buffer. -/
structure Received where
  size : Nat
  stored : Bytes
  deriving DecidableEq, Repr

/-- What a buffer of zeros shows after the receive. -/
def Received.shown (received : Received) (capacity : Nat) : Bytes :=
  received.stored
    ++ List.replicate (min received.size capacity - received.stored.length) 0

/-- The events of one wait: how many there are, and those that were stored. -/
structure Reported where
  count : Nat
  stored : List Readiness
  deriving DecidableEq, Repr

/-- A request to the world outside. -/
inductive Call
  | openSocket (transport : Transport) (blocking : Bool)
  | openPair
  | bind (socket : Descriptor) (target : BindTarget)
  | listen (socket : Descriptor) (backlog : Int)
  | accept (socket : Descriptor)
  | connect (socket : Descriptor) (address : LocalAddress)
  | localPort (socket : Descriptor)
  | setReceiveTimeout (socket : Descriptor) (seconds microseconds : Nat)
  /-- Sends one whole message without waiting. -/
  | send (socket : Descriptor) (message : Bytes)
  /-- Receives one whole message and cuts it to the capacity. -/
  | receive (socket : Descriptor) (capacity : Nat)
  /-- Waits for one datagram of the kernel. -/
  | receiveReply (socket : Descriptor)
  /-- Waits for one datagram of the kernel on another thread, which an event
  can call off. -/
  | receiveInBackground (socket event : Descriptor)
  | openPoller
  | watch (poller target : Descriptor) (interest : UInt32)
  | unwatch (poller target : Descriptor)
  /-- Waits for events; a negative number of milliseconds waits for ever. -/
  | wait (poller : Descriptor) (capacity : Nat) (timeout : Int)
  | openEvent
  /-- Resets the counter of an event, and gives the number of bytes read. -/
  | readEvent (event : Descriptor)
  /-- Adds one to the counter of an event. -/
  | writeEvent (event : Descriptor)
  /-- From now on a termination signal adds one to the counter of an event. -/
  | handleSignals (event : Descriptor)
  | close (descriptor : Descriptor)
  /-- Microseconds on a clock that never goes back. -/
  | currentTime
  | processId
  /-- The size of a page of memory; not positive if unknown. -/
  | pageSize
  | fileExists (path : String)
  | readFile (path : String)
  /-- From now on notices are logged, filtered by a level. -/
  | startLog (level : String)
  | log (notice : Notice)

/-- What a call is answered with. -/
@[reducible]
def Call.Answer : Call → Type
  | .openSocket _ _ | .openPoller | .openEvent | .accept _ => Attempt Descriptor
  | .openPair => Attempt (Descriptor × Descriptor)
  | .bind _ _ | .listen _ _ | .connect _ _ | .setReceiveTimeout _ _ _ | .watch _ _ _
  | .unwatch _ _ | .writeEvent _ | .handleSignals _ => Attempt Unit
  | .localPort _ => Attempt UInt32
  | .send _ _ | .readEvent _ => Attempt Nat
  | .receive _ _ => Attempt Received
  | .receiveReply _ | .receiveInBackground _ _ => Attempt Bytes
  | .wait _ _ _ => Attempt Reported
  | .close _ | .startLog _ | .log _ => Unit
  | .currentTime => Nat
  | .processId => UInt32
  | .pageSize => Int
  | .fileExists _ => Bool
  | .readFile _ => Attempt Bytes

end RadioRelay
