import RadioRelay.CommandLine.Command
import RadioRelay.Daemon
import RadioRelay.Monitor

/-!
# Carrying out commands
-/

namespace RadioRelay

def Command.run : Command → Fallible Unit
  | .serve config socketName => Daemon.serve config socketName
  | .listen socketName macs count => do
    ExceptT.lift (Program.call (.startLog "info"))
    Monitor.run socketName macs count

end RadioRelay
