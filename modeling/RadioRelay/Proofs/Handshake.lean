import RadioRelay.Daemon
import RadioRelay.Proofs.Failing
import RadioRelay.Proofs.Replies
import RadioRelay.Proofs.Wire.Drafting

/-!
# What is asked of the kernel

Before a daemon takes a name, it asks the kernel twice: for the number of a family, and for the
frames of that family. If the first question has an answer, the number is what the kernel's answer
says to the request that names the family (`Family.resolved_of_runs`). If the second one has, the
request that was sent is one for the frames of the family, and the kernel's datagrams acknowledge
that request before any of them refuses it (`Daemon.subscribed_of_runs`).
-/

namespace RadioRelay

open Program Fallible

/-- Some bytes are a generic message that asks something of a family and wants an acknowledgement,
with a command of some version and with attributes. -/
def IsRequest (family : UInt16) (sequence port : UInt32) (command version : UInt8)
    (attributes request : Bytes) : Prop :=
  request = Header.write ⟨UInt32.ofNat (20 + attributes.length), family, 5, sequence, port⟩
    ++ command :: version :: 0 :: 0 :: attributes

theorem isRequest_finish (family : UInt16) (sequence port : UInt32) (command version : UInt8)
    (attributes : Bytes) :
    IsRequest family sequence port command version attributes
      ((Draft.generic family Channel.acknowledgedRequest sequence port command version).append
        attributes).finish := by
  have size : Header.size + (command :: version :: 0 :: 0 :: attributes).length
      = 20 + attributes.length := by
    simp only [List.length_cons, Header.size]
    omega
  rw [IsRequest, Draft.finish_eq, ← size]
  rfl

namespace Family

/-- The kernel's answer to a port tells the number of a family: it is a generic message about
families, and the last attribute for a number holds this one. -/
def Tells (port : UInt32) (answer : Bytes) (family : UInt16) : Prop :=
  ∃ message attributes, Message.parse answer = .ok message
    ∧ message.header.kind = 16 ∧ message.header.port = port
    ∧ Attribute.parseAll message.attributes = .ok attributes
    ∧ Attribute.LastOf 1 (Bytes.ofWord16 family) attributes

/-- The calls that find out the number of a family: a request for it names the family, and the
kernel answers with the number. -/
def Resolved (name : String) (trace : Trace) (family : UInt16) : Prop :=
  ∃ socket port event request attributes size answer,
    trace = [⟨.openSocket .kernel true, .ok socket⟩, ⟨.bind socket .kernelPort, .ok ()⟩,
        ⟨.localPort socket, .ok port⟩, ⟨.openEvent, .ok event⟩, ⟨.send socket request, .ok size⟩,
        ⟨.receiveInBackground socket event, .ok answer⟩, ⟨.close event, ()⟩, ⟨.close socket, ()⟩,
        ⟨.log (.resolvedFamily name family), ()⟩]
      ∧ IsRequest 16 0 port 3 2 attributes request
      ∧ Attribute.parseAll attributes = .ok [⟨2, name.toUTF8.toList ++ [0]⟩]
      ∧ Tells port answer family

variable {name : String} {port : UInt32} {family : UInt16} {trace : Trace}

theorem tells_of_number? {answer : Bytes} (told : number? port answer = some family) :
    Tells port answer family := by
  unfold number? at told
  split at told
  next => cases told
  next message parsed =>
    split at told
    next own =>
      split at told
      next low high found =>
        rcases Option.some.inj told with rfl
        rcases Option.bind_eq_some_iff.mp found with ⟨attributes, read, last⟩
        refine ⟨message, attributes, parsed, own.1, own.2, ?_, ?_⟩
        · cases all : Attribute.parseAll message.attributes with
          | error error => rw [all] at read; cases read
          | ok others => rw [all] at read; cases read; rfl
        · rw [Bytes.ofWord16_word16]
          exact Attribute.find?_eq_some_iff.mp last
      next => cases told
    next => cases told

theorem isRequest_of_request {message : Bytes} (made : request name port = .ok message) :
    ∃ attributes, IsRequest 16 0 port 3 2 attributes message
      ∧ Attribute.parseAll attributes = .ok [⟨2, name.toUTF8.toList ++ [0]⟩] := by
  unfold request Draft.complete at made
  by_cases fits : (terminated name).length ≤ Attribute.maxPayload
  · rw [(Draft.aligned_generic ..).runOn_attach fits] at made
    rcases Except.ok.inj made with rfl
    refine ⟨Attribute.padded ⟨nameKind, terminated name⟩, isRequest_finish .., ?_⟩
    have plain : nameKind.toNat < 0x4000 := by decide
    have writable : ∀ item ∈ [(⟨nameKind, terminated name⟩ : Attribute)], item.Writable := by
      rw [List.forall_mem_singleton]
      exact ⟨plain, fits⟩
    have read := Attribute.parseAll_flatMap_padded writable
    rwa [List.flatMap_singleton] at read
  · rw [Draft.runOn_attach_of_long (Nat.lt_of_not_le fits)] at made
    cases made

theorem asked_of_runs {socket event : Descriptor}
    (runs : (ask socket event name port).run.Runs trace (.ok family)) :
    ∃ attributes request size answer,
      trace = [⟨.send socket request, .ok size⟩, ⟨.receiveInBackground socket event, .ok answer⟩]
        ∧ IsRequest 16 0 port 3 2 attributes request
        ∧ Attribute.parseAll attributes = .ok [⟨2, name.toUTF8.toList ++ [0]⟩]
        ∧ Tells port answer family := by
  unfold ask at runs
  split at runs
  next => cases runs.2
  next request made =>
    rcases runs_bind_ok.mp runs with ⟨_, _, size, rfl, sends, waits⟩
    rcases runs_call.mp (runs_attemptingOr_ok.mp sends) with rfl
    rcases runs_bind_ok.mp waits with ⟨_, _, answer, rfl, receives, reads⟩
    rcases runs_call.mp (runs_attemptingOr_ok.mp receives) with rfl
    split at reads
    next told =>
      rcases reads with ⟨rfl, same⟩
      cases same
      rcases isRequest_of_request made with ⟨attributes, isRequest, names⟩
      exact ⟨attributes, request, size, answer, rfl, isRequest, names, tells_of_number? told⟩
    next => cases reads.2

theorem resolved_of_runs (runs : (resolve name).run.Runs trace (.ok family)) :
    Resolved name trace family := by
  rcases runs_bind_ok.mp runs with ⟨_, _, socket, rfl, opens, opened⟩
  rcases runs_call.mp (runs_attemptingOr_ok.mp opens) with rfl
  rcases runs_bind_ok.mp opened with ⟨_, _, number, rfl, finds, found⟩
  rcases runs_bind_ok.mp found with ⟨_, _, _, rfl, closes, closed⟩
  rcases runs_call.mp (runs_lift_ok.mp closes) with rfl
  rcases runs_bind_ok.mp closed with ⟨_, _, _, rfl, logs, rfl, same⟩
  rcases runs_call.mp (runs_lift_ok.mp logs) with rfl
  cases same
  rcases runs_bind_ok.mp (runs_closingOnFailure_ok.mp finds) with ⟨_, _, _, rfl, binds, bound⟩
  rcases runs_call.mp (runs_attemptingOr_ok.mp binds) with rfl
  rcases runs_bind_ok.mp bound with ⟨_, _, port, rfl, shows, shown⟩
  rcases runs_call.mp (runs_attemptingOr_ok.mp shows) with rfl
  rcases runs_bind_ok.mp shown with ⟨_, _, event, rfl, readies, ready⟩
  rcases runs_call.mp (runs_attemptingOr_ok.mp readies) with rfl
  rcases runs_bind_ok.mp (runs_closingOnFailure_ok.mp ready) with ⟨_, _, _, rfl, asks, asked⟩
  rcases runs_bind_ok.mp asked with ⟨_, _, _, rfl, ends, rfl, same⟩
  rcases runs_call.mp (runs_lift_ok.mp ends) with rfl
  cases same
  rcases asked_of_runs asks with
    ⟨attributes, request, size, answer, rfl, isRequest, names, tells⟩
  exact ⟨socket, port, event, request, attributes, size, answer, rfl, isRequest, names, tells⟩

end Family

namespace Channel

def next (channel : Channel) : Channel := { channel with sequence := channel.sequence + 1 }

/-- Datagrams of the kernel acknowledge the request of some number and port: the last one does, and
nothing before the acknowledgement decides the request. -/
def Answered (sequence port : UInt32) (datagrams : List Bytes) : Prop :=
  ∃ skipped last before after, datagrams = skipped ++ [last]
    ∧ (∀ datagram ∈ skipped, ∃ replies, Reply.parseAll datagram = some replies
      ∧ ∀ reply ∈ replies, ¬ reply.Decides sequence port)
    ∧ Reply.parseAll last = some (before ++ ⟨sequence, port, .acknowledged⟩ :: after)
    ∧ (∀ reply ∈ before, ¬ reply.Decides sequence port)
    ∧ Reply.Acknowledges sequence port last

/-- The calls that open a channel: the first request of a new socket asks for the frames of a
family, and the kernel acknowledges it within so many datagrams. -/
def Subscribed (family : UInt16) (channel : Channel) (trace : Trace) : Prop :=
  ∃ early request size datagrams,
    trace = [⟨.openSocket .kernel true, .ok channel.socket⟩,
        ⟨.bind channel.socket .kernelPort, .ok ()⟩, ⟨.localPort channel.socket, .ok early⟩,
        ⟨.localPort channel.socket, .ok channel.port⟩, ⟨.send channel.socket request, .ok size⟩]
          ++ (datagrams.map (fun datagram => ⟨.receiveReply channel.socket, .ok datagram⟩)
            ++ [⟨.log (.registeredForFrames family), ()⟩])
      ∧ channel.sequence = 1
      ∧ IsRequest family channel.sequence channel.port 1 0 [] request
      ∧ datagrams.length ≤ 32
      ∧ Answered channel.sequence channel.port datagrams

variable {channel : Channel} {family : UInt16} {trace : Trace}

theorem answered_of_verdict {sequence port : UInt32} {datagram : Bytes} {replies : List Reply}
    (parsed : Reply.parseAll datagram = some replies)
    (verdict : Reply.verdict? sequence port replies = some (.ok ())) :
    Answered sequence port [datagram] := by
  rcases Reply.exists_first_of_verdict verdict with
    ⟨before, _, after, rfl, undecided, ⟨rfl, -⟩ | ⟨_, -, same⟩⟩
  · exact ⟨[], datagram, before, after, rfl, by simp, parsed, undecided,
      Reply.acknowledges_of_parseAll parsed (by simp)⟩
  · cases same

theorem Answered.cons {sequence port : UInt32} {datagram : Bytes} {datagrams : List Bytes}
    {replies : List Reply} (answered : Answered sequence port datagrams)
    (parsed : Reply.parseAll datagram = some replies)
    (verdict : Reply.verdict? sequence port replies = none) :
    Answered sequence port (datagram :: datagrams) := by
  rcases answered with ⟨skipped, last, before, after, rfl, passed, read, undecided, holds⟩
  refine ⟨datagram :: skipped, last, before, after, rfl, ?_, read, undecided, holds⟩
  rw [List.forall_mem_cons]
  exact ⟨⟨replies, parsed, Reply.verdict?_eq_none_iff.mp verdict⟩, passed⟩

theorem answered_of_runs {limit : Nat} (runs : (channel.awaitVerdict limit).run.Runs trace (.ok ())) :
    ∃ datagrams : List Bytes, datagrams.length ≤ limit
      ∧ trace = datagrams.map (fun datagram => ⟨.receiveReply channel.socket, .ok datagram⟩)
      ∧ Answered channel.sequence channel.port datagrams := by
  induction limit generalizing trace with
  | zero => cases runs.2
  | succ limit ih =>
    rcases runs_bind_ok.mp runs with ⟨_, _, datagram, rfl, receives, later⟩
    rcases runs_call.mp (runs_attemptingOr_ok.mp receives) with rfl
    split at later
    next => cases later.2
    next replies parsed =>
      split at later
      next verdict =>
        rcases later with ⟨rfl, -⟩
        exact ⟨[datagram], by simp, rfl, answered_of_verdict parsed verdict⟩
      next => cases later.2
      next verdict =>
        rcases ih later with ⟨datagrams, few, rfl, answered⟩
        exact ⟨datagram :: datagrams, Nat.succ_le_succ few, rfl, answered.cons parsed verdict⟩

theorem runs_requestFrames_ok (runs : (channel.requestFrames family).run.Runs trace (.ok ())) :
    ∃ (request : Bytes) (size : Nat) (datagrams : List Bytes),
      trace = ⟨.send channel.socket request, .ok size⟩
          :: (datagrams.map (fun datagram => ⟨.receiveReply channel.socket, .ok datagram⟩)
            ++ [⟨.log (.registeredForFrames family), ()⟩])
        ∧ IsRequest family channel.sequence channel.port 1 0 [] request
        ∧ datagrams.length ≤ 32 ∧ Answered channel.sequence channel.port datagrams := by
  rcases runs_bind_ok.mp runs with ⟨_, _, size, rfl, sends, sent⟩
  rcases runs_call.mp (runs_attemptingOr_ok.mp sends) with rfl
  rcases runs_bind_ok.mp sent with ⟨_, _, _, rfl, waits, logs⟩
  rcases runs_call.mp (runs_lift_ok.mp logs) with rfl
  rcases answered_of_runs (runs_during_ok.mp waits) with ⟨datagrams, few, rfl, answered⟩
  exact ⟨channel.subscription family, size, datagrams, rfl, isRequest_finish .., few, answered⟩

theorem connected_of_runs (runs : connect.run.Runs trace (.ok channel)) :
    ∃ early, trace = [⟨.openSocket .kernel true, .ok channel.socket⟩,
        ⟨.bind channel.socket .kernelPort, .ok ()⟩, ⟨.localPort channel.socket, .ok early⟩,
        ⟨.localPort channel.socket, .ok channel.port⟩] ∧ channel.sequence = 0 := by
  rcases runs_bind_ok.mp runs with ⟨_, _, socket, rfl, opens, opened⟩
  rcases runs_call.mp (runs_attemptingOr_ok.mp opens) with rfl
  rcases runs_bind_ok.mp (runs_closingOnFailure_ok.mp opened) with ⟨_, _, _, rfl, binds, bound⟩
  rcases runs_call.mp (runs_attemptingOr_ok.mp binds) with rfl
  rcases runs_bind_ok.mp bound with ⟨_, _, early, rfl, shows, shown⟩
  rcases runs_call.mp (runs_attemptingOr_ok.mp shows) with rfl
  rcases runs_bind_ok.mp shown with ⟨_, _, port, rfl, reads, rfl, same⟩
  rcases runs_call.mp (runs_attempting_ok.mp reads) with rfl
  cases same
  exact ⟨early, rfl, rfl⟩

end Channel

namespace Daemon

/-- A channel is opened by the next request for frames. -/
theorem openChannel_eq (family : UInt16) :
    openChannel family = (do
      let channel ← Channel.connect
      closingOnFailure channel.socket (do
        channel.next.requestFrames family
        return channel.next)) := by
  unfold openChannel
  congr 1
  funext channel
  congr 1
  refine (bind_assoc (m := Program) _ _ _).trans ((bind_assoc (m := Program) _ _ _).trans ?_)
  refine congrArg (_ >>= ·) (funext fun outcome => ?_)
  cases outcome <;> rfl

theorem subscribed_of_runs {channel : Channel} {family : UInt16} {trace : Trace}
    (runs : (openChannel family).run.Runs trace (.ok channel)) :
    Channel.Subscribed family channel trace := by
  rw [openChannel_eq] at runs
  rcases runs_bind_ok.mp runs with ⟨_, _, connected, rfl, connects, subscribes⟩
  rcases runs_bind_ok.mp (runs_closingOnFailure_ok.mp subscribes) with
    ⟨_, _, _, rfl, asks, rfl, same⟩
  cases same
  rcases Channel.connected_of_runs connects with ⟨early, rfl, first⟩
  rcases Channel.runs_requestFrames_ok asks with
    ⟨request, size, datagrams, rfl, isRequest, few, answered⟩
  refine ⟨early, request, size, datagrams, ?_, ?_, isRequest, few, answered⟩
  · simp [Channel.next]
  · rw [Channel.next, first]
    rfl

end Daemon

end RadioRelay
