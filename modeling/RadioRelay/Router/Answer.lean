import RadioRelay.Router.State
import RadioRelay.Wire.Acknowledgement
import RadioRelay.Wire.Request

/-!
# Answering clients

Every well-formed message of a client is answered by exactly one
acknowledgement. A client that breaks the format, or does not take its
acknowledgement whole and at once, is removed.
-/

namespace RadioRelay.Router

/-- Carries a request out, and gives the result to acknowledge: zero, or the
negative number of an invalid argument. -/
def perform (router : Router) (id : ClientId) : Request → Program (Int32 × Router)
  | .register mac => do
    let (_, registry) := router.registry.register mac id
    Program.call (.log (.clientRegistered id mac))
    return (0, { router with registry := registry })
  | .missingMac => do
    Program.call (.log (.clientWithoutMac id))
    return (-22, router)
  | .unrecognized command => do
    Program.call (.log (.clientCommand id command))
    return (-22, router)

/-- Sends an acknowledgement, and removes the client if it does not take it. -/
def acknowledge (router : Router) (id : ClientId) (result : Int32) (request : Header) :
    Program Router := do
  let message := Acknowledgement.encode result request
  match router.registry.get? id with
  | none => return router
  | some connection =>
    match ← connection.send message with
    | .ok count =>
      if count = message.length then return router
      else router.removeClient id (.shortAcknowledgement count message.length)
    | .error errno => router.removeClient id (.acknowledgementFailed errno)

/-- Removes a client that broke the format, and counts it. -/
def reject (router : Router) (id : ClientId) (reason : RemovalReason) : Program Router :=
  let router := { router with
    statistics.protocolErrors := router.statistics.protocolErrors + 1 }
  router.removeClient id reason

def answer (router : Router) (id : ClientId) (bytes : Bytes) : Program Router :=
  match ClientMessage.decode bytes with
  | .error error => router.reject id (.protocolViolation error)
  | .ok message => do
    let (result, router) ← router.perform id message.request
    router.acknowledge id result message.header

def handleClient (router : Router) (id : ClientId) : Program Router := do
  match router.registry.get? id with
  | none => return router
  | some connection =>
    match ← connection.receive router.clientBuffer.capacity with
    | .error errno =>
      if errno.isTransient then return router
      router.removeClient id (.receiveFailed errno)
    | .ok received =>
      let router := { router with clientBuffer := router.clientBuffer.store received.stored }
      if received.size = 0 then router.removeClient id .endOfStream
      else
        match router.clientBuffer.slice? received.size with
        | none =>
          router.reject id (.oversizedMessage received.size router.clientBuffer.capacity)
        | some bytes => router.answer id bytes

/-- Serves the clients that were reported ready, in order. One that has left
since is passed over. -/
def serveClients (router : Router) : List Readiness → Program Router
  | [] => return router
  | event :: rest => do
    let id : ClientId := event.descriptor
    let router ←
      if router.registry.contains id then
        if event.isReadable then router.handleClient id
        else if event.isHangUp then router.removeClient id .hangUp
        else pure router
      else pure router
    router.serveClients rest

end RadioRelay.Router
