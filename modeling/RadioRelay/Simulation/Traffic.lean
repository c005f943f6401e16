import RadioRelay.Simulation.Watching

/-!
# Traffic between the ends of connections

Messages are received in the order in which they were sent, also after the
sender has gone. If somebody closes an end without having received everything,
the other end is told once, before anything else.
-/

namespace RadioRelay.Simulation.World

/-- Closes an end: what it did not receive is lost. An end that nobody has
accepted counts as one that has not received everything. -/
def closeEnd (world : World) (accepted : Bool) (id : EndId) : World :=
  match world.end? id with
  | none => world
  | some state =>
    let world := world.setEnd id { state with inbox := [], isOpen := false }
    match world.end? state.peer with
    | none => world
    | some other =>
      let isReset := other.isReset || !accepted || !state.inbox.isEmpty
      (world.setEnd state.peer { other with isReset := isReset }).wakeEnd state.peer
        Watch.departure

/-- Closes a descriptor: it is no longer watched, and what it stands for is
given up. -/
def closeDescriptor (world : World) (descriptor : Descriptor) : World :=
  let world :=
    match world.device? descriptor with
    | some (.connected own) => world.closeEnd true own
    | some (.listening _ waiting) => waiting.foldl (closeEnd · false ·) world
    | _ => world
  let world := world.forget descriptor
  { world with
    devices := world.devices.filter (·.1 ≠ descriptor)
    faults := world.faults.filter (·.target ≠ some descriptor)
    flagOverrides := world.flagOverrides.filter (·.1 ≠ descriptor) }

def deliver (world : World) (id : EndId) (message : Bytes) : World :=
  match world.end? id with
  | some state =>
    (world.setEnd id { state with inbox := state.inbox ++ [message] }).wakeEnd id Watch.arrival
  | none => world

def sendFrom (world : World) (id : EndId) (message : Bytes) : Attempt Nat × World :=
  match world.end? id with
  | none => (.error .notConnected, world)
  | some state =>
    if state.isReset then (.error .connectionReset, world.setEnd id { state with isReset := false })
    else if world.isAbandoned state then (.error .brokenPipe, world)
    else (.ok message.length, world.deliver state.peer message)

/-- Takes the oldest message out of an inbox. An abandoned end has an empty
message for ever. -/
def receiveAt (world : World) (id : EndId) : Attempt Bytes × World :=
  match world.end? id with
  | none => (.error .notConnected, world)
  | some state =>
    if state.isReset then (.error .connectionReset, world.setEnd id { state with isReset := false })
    else
      match state.inbox with
      | message :: rest => (.ok message, world.setEnd id { state with inbox := rest })
      | [] => (if world.isAbandoned state then .ok [] else .error .wouldBlock, world)

def discard (world : World) (descriptor : Descriptor) : World :=
  match world.endAt? descriptor with
  | some (own, state) => world.setEnd own { state with inbox := [] }
  | none => world

def sendFromKernel (world : World) (datagram : Attempt Bytes) : World :=
  let sockets := world.devices.filterMap fun (descriptor, device) =>
    match device with
    | .netlink inbox => some (descriptor, inbox)
    | _ => none
  sockets.foldl (fun world (descriptor, inbox) =>
    (world.setDevice descriptor (.netlink (inbox ++ [datagram]))).wake descriptor Watch.arrival)
    world

end RadioRelay.Simulation.World
