import RadioRelay.Simulation.Traffic

/-!
# How the simulated machine answers calls
-/

namespace RadioRelay.Simulation

/-- What a call gives if a fault takes its place. A call that passes is counted
against the faults and not carried out yet. -/
def disturbed {α : Type} (call : String) (target : Option Descriptor) (ofValue : Int → α) :
    Machine (Option (Attempt α)) := fun world =>
  match world.takeFault call target with
  | (.fails errno, world) => (some (.error errno), world)
  | (.returns value, world) =>
    (some (if value < 0 then .error ⟨0⟩ else .ok (ofValue value)), world)
  | (.passes, world) => (none, world)

/-- Carries a call out unless it is to be disturbed. -/
def guarded {α : Type} (call : String) (target : Option Descriptor) (ofValue : Int → α)
    (effect : World → Attempt α × World) : Machine (Attempt α) := do
  match ← disturbed call target ofValue with
  | some outcome => return outcome
  | none => effect

/-- A call that may only succeed on an open descriptor. -/
def onDevice {α : Type} (descriptor : Descriptor)
    (effect : Device → World → Attempt α × World) (world : World) : Attempt α × World :=
  match world.device? descriptor with
  | some device => effect device world
  | none => (.error .badDescriptor, world)

def opening (device : Device) (world : World) : Attempt Descriptor × World :=
  let (descriptor, world) := world.openDevice device
  (.ok descriptor, world)

def bindName (socket : Descriptor) (address : LocalAddress) (world : World) :
    Attempt Unit × World :=
  let world := { world with lastAddress := some address }
  match world.boundTo? address.key with
  | some _ => (.error .addressInUse, world)
  | none =>
    onDevice socket (fun _ world => (.ok (), world.setDevice socket (.bound address.key))) world

/-- Connects a socket to whoever listens at an address. The other end waits to
be accepted. -/
def connectTo (socket : Descriptor) (address : LocalAddress) (world : World) :
    Attempt Unit × World :=
  let world := { world with lastAddress := some address }
  onDevice socket (fun _ world =>
    match (world.boundTo? address.key).bind fun holder =>
        (world.device? holder).map (holder, ·) with
    | some (holder, .listening name waiting) =>
      let (own, other, world) := world.newConnection
      let world := world.setDevice socket (.connected own)
      let world := world.setDevice holder (.listening name (waiting ++ [other]))
      (.ok (), world.wake holder Watch.arrival)
    | _ => (.error .connectionRefused, world)) world

def acceptAt (socket : Descriptor) (world : World) : Attempt Descriptor × World :=
  onDevice socket (fun device world =>
    match device with
    | .listening name (next :: waiting) =>
      opening (.connected next) (world.setDevice socket (.listening name waiting))
    | .listening _ [] => (.error .wouldBlock, world)
    | _ => (.error .invalid, world)) world

def sendOver (socket : Descriptor) (message : Bytes) (world : World) : Attempt Nat × World :=
  onDevice socket (fun device world =>
    match device with
    | .connected own => world.sendFrom own message
    | .netlink inbox =>
      let replies := (world.kernel.reply message).map .ok
      let world := world.setDevice socket (.netlink (inbox ++ replies))
      (.ok message.length, { world with requests := message :: world.requests })
    | _ => (.error .notConnected, world)) world

def receiveOver (socket : Descriptor) (exhausted : Errno) (world : World) :
    Attempt Bytes × World :=
  onDevice socket (fun device world =>
    match device with
    | .connected own => world.receiveAt own
    | .netlink (message :: rest) => (message, world.setDevice socket (.netlink rest))
    | .netlink [] => (.error exhausted, world)
    | _ => (.error .notConnected, world)) world

/-- Receives a datagram of the kernel into the buffer for them, which cuts it. A
receive that is disturbed finds what earlier ones left there. -/
def receiveReply (socket : Descriptor) : Machine (Attempt Bytes) := do
  match ← disturbed "recvfrom" (some socket) Int.toNat with
  | some (.ok count) => return .ok (((← get).replyBuffer.slice? count).getD [])
  | some (.error errno) => return .error errno
  | none =>
    match ← receiveOver socket (← get).kernel.exhausted with
    | .error errno => return .error errno
    | .ok datagram =>
      let datagram := datagram.take maxReply
      modify fun world => { world with replyBuffer := world.replyBuffer.store datagram }
      return .ok datagram

/-- What a receive gives if it is disturbed. -/
def beginReceive (socket : Descriptor) : Machine (Option (Attempt Received)) :=
  disturbed "recv" (some socket) fun value => ⟨value.toNat, []⟩

/-- Receives a message into a buffer of some capacity, without waiting. -/
def receiveNow (socket : Descriptor) (capacity : Nat) : Machine (Attempt Received) := do
  return (← receiveOver socket .wouldBlock).map fun message =>
    ⟨message.length, message.take capacity⟩

def onPoller (poller target : Descriptor)
    (change : List Watch → List Descriptor → World → Attempt (List Watch × List Descriptor))
    (world : World) : Attempt Unit × World :=
  onDevice target (fun _ => onDevice poller fun device world =>
    match device with
    | .poller watched candidates =>
      match change watched candidates world with
      | .ok (watched, candidates) => (.ok (), world.setDevice poller (.poller watched candidates))
      | .error errno => (.error errno, world)
    | _ => (.error .invalid, world)) world

/-- Starts watching a descriptor. If it is ready already, it joins the queue. -/
def watchTarget (poller target : Descriptor) (interest : UInt32) :
    World → Attempt Unit × World :=
  onPoller poller target fun watched candidates world =>
    if watched.any (·.target = target) then .error .alreadyThere
    else
      let watched := watched ++ [.start target interest]
      let isReady := world.shownFlags watched target ≠ 0
      .ok (watched, if isReady then candidates ++ [target] else candidates)

def unwatchTarget (poller target : Descriptor) : World → Attempt Unit × World :=
  onPoller poller target fun watched candidates _ =>
    if watched.any (·.target = target) then
      .ok (watched.filter (·.target ≠ target), candidates.filter (· ≠ target))
    else .error .notThere

def reportNow (poller : Descriptor) (capacity : Nat) : Machine Reported := do
  let (ready, world) := (← get).poll poller capacity
  let (events, world) := world.overrideFlags ready
  set world
  return ⟨events.length, events⟩

/-- Lets the time limit of a wait pass, unless something was reported. -/
def passUnless (reported : Reported) (timeout : Int) : Machine Unit :=
  if reported.count = 0 then
    modify fun world => { world with
      microseconds := world.microseconds + timeout.toNat * 1000 }
  else return

/-- Notes the time limit of a wait, and gives what the wait reports if it is
disturbed. -/
def beginWait (timeout : Int) : Machine (Option (Attempt Reported)) := do
  modify fun world => { world with timeouts := timeout :: world.timeouts }
  disturbed "epoll_wait" none (fun value => ⟨value.toNat, []⟩)

def answer : (call : Call) → Machine call.Answer
  | .openSocket transport _ =>
    guarded "socket" none (⟨·⟩)
      (opening (if transport = .kernel then .netlink [] else .unconnected))
  | .openPair => guarded "socketpair" none (fun _ => (⟨0⟩, ⟨0⟩)) fun world =>
    let (first, second, world) := world.newConnection
    let (left, world) := world.openDevice (.connected first)
    let (right, world) := world.openDevice (.connected second)
    (.ok (left, right), world)
  | .bind socket target => guarded "bind" (some socket) (fun _ => ()) fun world =>
    match target with
    | .address address => bindName socket address world
    | .kernelPort => onDevice socket (fun _ world => (.ok (), world)) world
  | .listen socket _ => guarded "listen" (some socket) (fun _ => ()) (onDevice socket
    fun device world =>
      match device with
      | .bound name => (.ok (), world.setDevice socket (.listening name []))
      | _ => (.error .invalid, world))
  | .accept socket => guarded "accept4" (some socket) (⟨·⟩) (acceptAt socket)
  | .connect socket address =>
    guarded "connect" (some socket) (fun _ => ()) (connectTo socket address)
  | .localPort socket => guarded "getsockname" (some socket) (fun _ => 0) (onDevice socket
    fun _ world => (.ok world.kernel.port, world))
  | .setReceiveTimeout socket _ _ =>
    guarded "setsockopt" (some socket) (fun _ => ()) (onDevice socket
      fun _ world => (.ok (), world))
  | .send socket message =>
    guarded "send" (some socket) Int.toNat (sendOver socket message)
  | .receive socket capacity => do
    match ← beginReceive socket with
    | some outcome => return outcome
    | none => receiveNow socket capacity
  | .receiveReply socket => receiveReply socket
  | .receiveInBackground socket _ => fun world => receiveOver socket world.kernel.exhausted world
  | .openPoller => guarded "epoll_create1" none (⟨·⟩) (opening (.poller [] []))
  | .watch poller target interest =>
    guarded "epoll_add" none (fun _ => ()) (watchTarget poller target interest)
  | .unwatch poller target =>
    guarded "epoll_del" none (fun _ => ()) (unwatchTarget poller target)
  | .wait poller capacity timeout => do
    match ← beginWait timeout with
    | some outcome => return outcome
    | none =>
      let reported ← reportNow poller capacity
      passUnless reported timeout
      return .ok reported
  | .openEvent => guarded "eventfd" none (⟨·⟩) (opening (.event 0))
  | .readEvent event => guarded "read" (some event) Int.toNat (onDevice event
    fun device world =>
      match device with
      | .event 0 => (.error .wouldBlock, world)
      | .event _ => (.ok 8, (world.setDevice event (.event 0)).wake event Watch.room)
      | _ => (.error .invalid, world))
  | .writeEvent event => guarded "write" (some event) (fun _ => ()) (onDevice event
    fun device world =>
      match device with
      | .event counter =>
        (.ok (), (world.setDevice event (.event (counter + 1))).wake event Watch.arrival)
      | _ => (.error .invalid, world))
  | .handleSignals event => guarded "sigaction" none (fun _ => ()) fun world =>
    (.ok (), { world with signalEvent := some event })
  | .close descriptor => fun world => ((), world.closeDescriptor descriptor)
  | .currentTime => fun world => (world.microseconds, world)
  | .processId => fun world => (4242, world)
  | .pageSize => fun world => (world.pageSize, world)
  | .fileExists path => fun world => ((world.files.find? path).isSome, world)
  | .readFile path => fun world =>
    (match world.files.find? path with
      | some (.content bytes) => .ok bytes
      | some .directory => .error .isDirectory
      | none => .error .notThere, world)
  | .startLog _ => fun world => ((), world)
  | .log notice => fun world => ((), { world with log := notice :: world.log })

/-- More rounds than any repetition takes on the simulated machine. -/
def roundLimit : Nat := 1000000

def execute {α : Type} (program : Program α) : Machine (Option α) :=
  program.runWith answer roundLimit

end RadioRelay.Simulation
