import RadioRelay.Netlink.Reply
import RadioRelay.System.Program

/-!
# The channel to the kernel

A channel is a socket on which the simulated radio hands out frames, once it
was asked to. The request is answered by the kernel; the answer must come
within a limited number of datagrams.
-/

namespace RadioRelay

structure Channel where
  socket : Descriptor
  /-- The port that the kernel gave to the socket. -/
  port : UInt32
  sequence : UInt32
  deriving DecidableEq, Repr

namespace Channel

/-- The flags of a request that wants an acknowledgement. -/
def acknowledgedRequest : UInt16 := 5

def subscribeCommand : UInt8 := 1

/-- How many datagrams are read in search of an answer. -/
def maxReplyDatagrams : Nat := 32

def connect : Fallible Channel := do
  let socket ← Fallible.attemptingOr .netlinkUnavailable
    (Program.call (.openSocket .kernel true))
  Fallible.closingOnFailure socket do
    Fallible.attemptingOr .netlinkUnavailable (Program.call (.bind socket .kernelPort))
    let _ ← Fallible.attemptingOr .netlinkUnavailable (Program.call (.localPort socket))
    let port ← Fallible.attempting .readingLocalPort (Program.call (.localPort socket))
    return ⟨socket, port, 0⟩

def awaitVerdict (channel : Channel) : Nat → Fallible Unit
  | 0 => throw (.of .noReply)
  | datagrams + 1 => do
    let datagram ← Fallible.attemptingOr .netlinkReceive
      (Program.call (.receiveReply channel.socket))
    match Reply.parseAll datagram with
    | none => throw (.of .unreadableReply)
    | some replies =>
      match Reply.verdict? channel.sequence channel.port replies with
      | some (.ok _) => return
      | some (.error errno) => throw ((Failure.system errno).during .requestingFromKernel)
      | none => channel.awaitVerdict datagrams

/-- The request for the frames of a family. -/
def subscription (channel : Channel) (family : UInt16) : Bytes :=
  (Draft.generic family acknowledgedRequest channel.sequence channel.port
    subscribeCommand 0).finish

def requestFrames (channel : Channel) (family : UInt16) : Fallible Unit := do
  let _ ← Fallible.attemptingOr .netlinkSend
    (Program.call (.send channel.socket (channel.subscription family)))
  Fallible.during .registeringForFrames (channel.awaitVerdict maxReplyDatagrams)
  ExceptT.lift (Program.call (.log (.registeredForFrames family)))

/-- Subscribes the channel to the frames of a family. Each try takes the next
sequence number, also one that fails. -/
def subscribe (channel : Channel) (family : UInt16) :
    Program (Except Failure Unit × Channel) := do
  let channel := { channel with sequence := channel.sequence + 1 }
  return (← (channel.requestFrames family).run, channel)

end Channel

end RadioRelay
