import RadioRelay.Configuration.Source
import RadioRelay.Netlink.Family
import RadioRelay.Router.Loop

/-!
# The daemon

The daemon finds out its configuration, subscribes to the radio's frames, takes
the control name and routes until a termination signal comes. The name is taken
last, so that clients find a router only when frames can come. Whatever fails,
nothing stays open.
-/

namespace RadioRelay.Daemon

def loadOrStandard : Option String → Fallible Configuration
  | some path => Configuration.load path
  | none => return Configuration.standard (← Program.call .pageSize)

def overrideName (socketName : Option String) (configuration : Configuration) :
    Configuration :=
  { configuration with socketName := socketName.getD configuration.socketName }

def check (configuration : Configuration) : Fallible Unit :=
  match configuration.validate with
  | .ok _ => return
  | .error violation => throw ((Failure.of (.invalidConfiguration violation)).during .validating)

def sourceNotice : Option String → Notice
  | some path => .loadedConfig path
  | none => .noConfig

/-- Finds out the configuration. A socket name asked for on the command line
wins over that of the file. From then on notices are logged. -/
def configure (config socketName : Option String) : Fallible Configuration := do
  let path ← Configuration.resolvePath config
  let configuration := overrideName socketName (← loadOrStandard path)
  check configuration
  ExceptT.lift (Program.call (.startLog configuration.logLevel))
  ExceptT.lift (Program.call (.log (sourceNotice path)))
  return configuration

def openChannel (family : UInt16) : Fallible Channel := do
  let channel ← Channel.connect
  Fallible.closingOnFailure channel.socket do
    let (outcome, channel) ← ExceptT.lift (channel.subscribe family)
    match outcome with
    | .ok _ => return channel
    | .error failure => throw failure

def openRouter (configuration : Configuration) (family : UInt16) (channel : Channel) :
    Fallible Router := do
  let listener ← Listener.bind configuration.socketName configuration.backlog
  Fallible.closingOnFailure listener.descriptor do
    let router ← Router.create listener channel.socket (.ofConfiguration family configuration)
    Fallible.closingOnFailure router.poller.descriptor do
      Fallible.closingOnFailure router.wake.descriptor do
        Fallible.attemptingOr .signalHandler
          (Program.call (.handleSignals router.wake.descriptor))
        return router

def start (config socketName : Option String) : Fallible Router := do
  let configuration ← configure config socketName
  let family ← Family.resolve configuration.familyName
  let channel ← openChannel family
  Fallible.closingOnFailure channel.socket (openRouter configuration family channel)

def serve (config socketName : Option String) : Fallible Unit := do
  let router ← start config socketName
  ExceptT.mk do
    let (outcome, router) ← router.run
    router.close
    return outcome

end RadioRelay.Daemon
