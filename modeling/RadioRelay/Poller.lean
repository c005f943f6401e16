import RadioRelay.System.Program

/-!
# Waiting for readiness

A poller reports which of the watched descriptors are ready, for as long as
they are. A wake event is a counter that can be watched: whoever signals it
wakes the waiter.
-/

namespace RadioRelay

def readable : UInt32 := 1

def hangUp : UInt32 := 0x18

namespace Readiness

def isReadable (readiness : Readiness) : Bool := readiness.flags &&& readable != 0

/-- Whether the other end is gone or the descriptor failed. -/
def isHangUp (readiness : Readiness) : Bool := readiness.flags &&& hangUp != 0

end Readiness

/-- A set of watched descriptors, with room for the events of one wait. -/
structure Poller where
  descriptor : Descriptor
  capacity : Nat
  /-- The events last stored in each slot. The slots after these are blank. -/
  slots : List Readiness
  deriving Repr

namespace Poller

/-- The largest capacity that a wait can be told. -/
def maxCapacity : Nat := 2147483647

/-- A poller that watches nothing. It reports at least one event at a time. -/
def create (capacity : Nat) : Fallible Poller :=
  ExceptT.mk do
    match ← Program.call .openPoller with
    | .ok descriptor => return .ok ⟨descriptor, max capacity 1, []⟩
    | .error errno => return .error (.system errno)

def watch (poller : Poller) (target : Descriptor) (interest : UInt32) :
    Program (Attempt Unit) :=
  Program.call (.watch poller.descriptor target interest)

def unwatch (poller : Poller) (target : Descriptor) : Program (Attempt Unit) :=
  Program.call (.unwatch poller.descriptor target)

def store (poller : Poller) (events : List Readiness) : Poller :=
  { poller with slots := events ++ poller.slots.drop events.length }

/-- The contents of the first slots. -/
def events (poller : Poller) (count : Nat) : List Readiness :=
  let count := min count poller.capacity
  poller.slots.take count ++ List.replicate (count - poller.slots.length) ⟨⟨0⟩, 0⟩

/-- Waits until something is ready or the time in milliseconds is over. An
interrupted wait reports nothing. -/
def wait (poller : Poller) (timeout : Int) :
    Program (Except Failure (List Readiness) × Poller) := do
  if maxCapacity < poller.capacity then return (.error (.of .tooManyEvents), poller)
  match ← Program.call (.wait poller.descriptor poller.capacity timeout) with
  | .ok reported =>
    let poller := poller.store reported.stored
    return (.ok (poller.events reported.count), poller)
  | .error errno =>
    if errno = .interrupted then return (.ok [], poller)
    else return (.error (.system errno), poller)

end Poller

/-- A counter that wakes whoever waits for it. -/
structure WakeEvent where
  descriptor : Descriptor
  deriving DecidableEq, Repr

namespace WakeEvent

def create : Program (Attempt WakeEvent) := do
  match ← Program.call .openEvent with
  | .ok descriptor => return .ok ⟨descriptor⟩
  | .error errno => return .error errno

def signal (event : WakeEvent) : Program (Attempt Unit) :=
  Program.call (.writeEvent event.descriptor)

/-- Takes all signals back: reads until there is nothing left to read. -/
def drain (event : WakeEvent) : Program (Attempt Unit) :=
  Program.repeatUntil () fun _ => do
    match ← Program.call (.readEvent event.descriptor) with
    | .ok 0 => return .inr (.ok ())
    | .ok _ => return .inl ()
    | .error errno =>
      return .inr (if errno = .wouldBlock then .ok () else .error errno)

end WakeEvent

end RadioRelay
