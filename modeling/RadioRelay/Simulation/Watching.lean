import RadioRelay.Simulation.World

/-!
# Watching descriptors

A poller keeps a queue of the descriptors that may be ready. One joins it at
the end when something happens to it, unless it is in the queue already. A wait
goes over the queue: those that turn out not to be ready leave it, those that
are reported go to its end, and those beyond the capacity of the wait stay in
front.
-/

namespace RadioRelay.Simulation

namespace Watch

/-- The flags that are shown whether a descriptor is watched for them or not: it
failed, or its other end is gone. -/
def always : UInt32 := 0x18

/-- What happens to a descriptor when a message comes. -/
def arrival : UInt32 := 0xc1

/-- What happens to a descriptor when its other end is closed. It concerns
every watcher. -/
def departure : UInt32 := 0

/-- What happens to an event when its counter is reset. -/
def room : UInt32 := 0x4

/-- The mark of a descriptor that is to be reported only once. -/
def once : UInt32 := 0x40000000

/-- The mark of a descriptor that is to be reported only when something has
happened to it since. -/
def onChange : UInt32 := 0x80000000

/-- The marks that say how to watch, and not for what. -/
def marks : UInt32 := 0xf0000000

def start (target : Descriptor) (interest : UInt32) : Watch := ⟨target, interest ||| always⟩

def concerns (happened : UInt32) (watch : Watch) : Bool :=
  watch.interest &&& (0xffffffff ^^^ marks) != 0
    && (happened = departure || watch.interest &&& happened != 0)

def staysQueued (watch : Watch) : Bool := watch.interest &&& (once ||| onChange) = 0

def afterReport (watch : Watch) : Watch :=
  if watch.interest &&& once = 0 then watch else { watch with interest := watch.interest &&& marks }

end Watch

namespace World

def flagsIf (condition : Bool) (flags : UInt32) : UInt32 := if condition then flags else 0

/-- The flags of what a descriptor stands for now: `0x41` if there is something to
read, `0x304` if there is room to write, `0x2010` if the other end is gone, `0x8`
if that is an error. -/
def presentFlags (world : World) (descriptor : Descriptor) : UInt32 :=
  match world.device? descriptor with
  | some (.connected own) =>
    match world.end? own with
    | some state =>
      let abandoned := world.isAbandoned state
      flagsIf (abandoned || !state.inbox.isEmpty) 0x41 ||| flagsIf abandoned 0x2010
        ||| flagsIf state.isReset 0x8 ||| 0x304
    | none => 0
  | some (.listening _ waiting) => flagsIf (!waiting.isEmpty) 0x41
  | some (.netlink inbox) => flagsIf (!inbox.isEmpty) 0x41 ||| 0x304
  | some (.event counter) => flagsIf (counter ≠ 0) 0x1 ||| 0x4
  | _ => 0

def shownFlags (world : World) (watched : List Watch) (target : Descriptor) : UInt32 :=
  match watched.find? (·.target = target) with
  | some watch => world.presentFlags target &&& watch.interest
  | none => 0

def mapPollers (world : World)
    (change : List Watch → List Descriptor → List Watch × List Descriptor) : World :=
  { world with devices := world.devices.map fun (holder, device) =>
      match device with
      | .poller watched candidates =>
        let (watched, candidates) := change watched candidates
        (holder, .poller watched candidates)
      | device => (holder, device) }

def wake (world : World) (descriptor : Descriptor) (happened : UInt32) : World :=
  world.mapPollers fun watched candidates =>
    if watched.any (fun watch => watch.target = descriptor && watch.concerns happened)
        && !candidates.contains descriptor then
      (watched, candidates ++ [descriptor])
    else (watched, candidates)

def wakeEnd (world : World) (id : EndId) (happened : UInt32) : World :=
  match world.holderOf? id with
  | some descriptor => world.wake descriptor happened
  | none => world

def forget (world : World) (descriptor : Descriptor) : World :=
  world.mapPollers fun watched candidates =>
    (watched.filter (·.target ≠ descriptor), candidates.filter (· ≠ descriptor))

/-- The first ready ones of some candidates, at most so many, and the candidates
after the last of them. -/
def firstReady (world : World) (watched : List Watch) :
    Nat → List Descriptor → List Readiness × List Descriptor
  | 0, candidates => ([], candidates)
  | _, [] => ([], [])
  | capacity + 1, target :: rest =>
    let flags := world.shownFlags watched target
    if flags = 0 then firstReady world watched (capacity + 1) rest
    else
      let (ready, left) := firstReady world watched capacity rest
      (⟨target, flags⟩ :: ready, left)

def poll (world : World) (poller : Descriptor) (capacity : Nat) : List Readiness × World :=
  match world.device? poller with
  | some (.poller watched candidates) =>
    let (ready, left) := world.firstReady watched capacity candidates
    let reported := ready.map (·.descriptor)
    let again := reported.filter fun target =>
      watched.any fun watch => watch.target = target && watch.staysQueued
    let watched := watched.map fun watch =>
      if reported.contains watch.target then watch.afterReport else watch
    (ready, world.setDevice poller (.poller watched (left ++ again)))
  | _ => ([], world)

def overrideFlags (world : World) : List Readiness → List Readiness × World
  | [] => ([], world)
  | event :: rest =>
    match world.flagOverrides.lookup event.descriptor with
    | some flags =>
      let world := { world with
        flagOverrides := world.flagOverrides.erase (event.descriptor, flags) }
      let (events, world) := overrideFlags world rest
      (⟨event.descriptor, flags⟩ :: events, world)
    | none =>
      let (events, world) := overrideFlags world rest
      (event :: events, world)

end World

end RadioRelay.Simulation
