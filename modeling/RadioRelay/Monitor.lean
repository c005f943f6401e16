import RadioRelay.Client

/-!
# Monitoring a router

A monitor registers some addresses with a running router and reports every
frame they transmit, until it has seen enough.
-/

namespace RadioRelay.Monitor

def registerAll (socketName : String) (client : Client) :
    List MacAddress → Program (Except Failure Unit × Client)
  | [] => return (.ok (), client)
  | mac :: rest => do
    match ← client.register mac with
    | (.error failure, client) => return (.error failure, client)
    | (.ok _, client) =>
      Program.call (.log (.registered mac socketName))
      registerAll socketName client rest

/-- Reports frames until there were as many as wanted; without a limit, until a
receive fails. -/
def reportFrames (client : Client) (limit : Option Nat) :
    Program (Except Failure Unit × Client) :=
  Program.repeatUntil (client, 0) fun ((client, seen) : Client × Nat) => do
    if limit.any (· ≤ seen) then return .inr (.ok (), client)
    match ← client.receiveFrame with
    | (.error failure, client) => return .inr (.error failure, client)
    | (.ok delivery, client) =>
      Program.call (.log (.frame (seen + 1) delivery.mac delivery.packet.length))
      return .inl (client, seen + 1)

def watch (socketName : String) (client : Client) (macs : List MacAddress)
    (limit : Option Nat) : Program (Except Failure Unit × Client) := do
  match ← registerAll socketName client macs with
  | (.error failure, client) => return (.error failure, client)
  | (.ok _, client) => reportFrames client limit

def run (socketName : String) (macs : List MacAddress) (limit : Option Nat) :
    Fallible Unit := do
  let client ← Client.connect socketName
  ExceptT.mk do
    let (outcome, client) ← watch socketName client macs limit
    client.connection.close
    return outcome

end RadioRelay.Monitor
