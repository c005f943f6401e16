import RadioRelay.Simulation.Kernel
import RadioRelay.Simulation.Stage
import RadioRelay.Socket.Listener

/-!
# Trying out the daemon
-/

namespace RadioRelay.Simulation

/-- What the daemon finds on its machine. -/
structure Surroundings where
  files : List (String × File)
  families : List (String × UInt16)
  /-- The code with which the kernel answers a subscription. -/
  code : Option Int32
  port : UInt32
  /-- A name that somebody else has taken. -/
  occupied : Option String
  faults : List Fault
  pageSize : Int
  /-- The name under which the clients look for the daemon. -/
  socketName : String
  script : List StageStep

structure DaemonReport where
  outcome : Except Failure Unit
  script : List Result
  inbox : List Mail
  ended : List String
  log : List Notice
  /-- All that was sent to the kernel. -/
  requests : List Bytes

def occupy (name : String) : Machine Unit := do
  let _ ← executeFallible (Listener.bind name 4)

def Surroundings.stage (surroundings : Surroundings) : Stage :=
  let world : World := {
    files := Files.ofPaths surroundings.files
    kernel := Kernel.withFamilies surroundings.port surroundings.families surroundings.code
    pageSize := surroundings.pageSize
    faults := surroundings.faults }
  let world := match surroundings.occupied with
    | some name => ((occupy name).run world).2
    | none => world
  { world := world, socketName := surroundings.socketName, peerPlaysKernel := false }

/-- Runs a program while the script goes on. -/
def tryDaemon (surroundings : Surroundings) (program : Fallible Unit) : DaemonReport :=
  let ((outcome, script), stage) :=
    (Stage.play surroundings.script program.run).run surroundings.stage
  let (inbox, stage) := Stage.showMail.run stage
  { outcome := outcome.getD (.error (.system .unsupported))
    script := script
    inbox := inbox
    ended := stage.ended
    log := stage.world.log.reverse
    requests := stage.world.requests.reverse }

end RadioRelay.Simulation
