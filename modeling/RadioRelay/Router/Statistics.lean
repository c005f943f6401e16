/-!
# The router's counters
-/

namespace RadioRelay

structure Statistics where
  accepted : Nat := 0
  removed : Nat := 0
  /-- Kernel datagrams that were frames to route. -/
  notifications : Nat := 0
  /-- Kernel datagrams that were not. -/
  ignoredNotifications : Nat := 0
  deliveries : Nat := 0
  failedDeliveries : Nat := 0
  /-- Client messages that broke the format. -/
  protocolErrors : Nat := 0
  acceptErrors : Nat := 0
  deriving DecidableEq, Repr, Inhabited

end RadioRelay
