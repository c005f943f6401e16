import RadioRelay.Application
import RadioRelay.Benchmark
import RadioRelay.CommandLine.Usage

/-!
# The programs on a real machine

Commands run on the files, the clock and the output of the machine. Sockets
that keep the bounds of messages are not within its reach, so that every call
for one fails as unsupported.
-/

namespace RadioRelay.RealMachine

def errnoOf : IO.Error → Errno
  | .noFileOrDirectory _ code _ | .permissionDenied _ code _ | .inappropriateType _ code _
  | .invalidArgument _ code _ | .resourceExhausted _ code _ | .otherError code _ =>
    ⟨(code.toNat : Nat)⟩
  | _ => .unsupported

def fileExists (path : String) : IO Bool := do
  match ← (IO.FS.Handle.mk path .read).toBaseIO with
  | .ok _ => return true
  | .error (.noFileOrDirectory ..) => return false
  | .error _ => return true

def readFile (path : String) : IO (Attempt Bytes) := do
  match ← (IO.FS.readBinFile path).toBaseIO with
  | .ok content => return .ok content.toList
  | .error error => return .error (errnoOf error)

/-- Whether a filter lets a level through. -/
def passes (filter : String) : Level → Bool
  | .info => filter ∈ ["info", "debug", "trace"]
  | .warning => filter ∈ ["warn", "info", "debug", "trace"]
  | .error => filter ≠ "off"

def levelName : Level → String
  | .info => "INFO"
  | .warning => "WARN"
  | .error => "ERROR"

/-- Answers a call on the real machine. The state is the filter of the log. -/
def answer : (call : Call) → StateT String IO call.Answer
  | .openSocket _ _ | .openPoller | .openEvent | .accept _ | .openPair
  | .bind _ _ | .listen _ _ | .connect _ _ | .setReceiveTimeout _ _ _ | .watch _ _ _
  | .unwatch _ _ | .writeEvent _ | .handleSignals _ | .localPort _ | .send _ _ | .readEvent _
  | .receive _ _ | .receiveReply _ | .receiveInBackground _ _ | .wait _ _ _ =>
    return .error .unsupported
  | .close _ => return
  | .currentTime => return (← IO.monoNanosNow) / 1000
  | .processId => return 0
  | .pageSize => return 0
  | .fileExists path => fileExists path
  | .readFile path => readFile path
  | .startLog level => set level
  | .log notice => do
    if !passes (← get) notice.level then return
    let level := levelName notice.level
    let text := notice.text
    IO.println s!"{level} {text}"

/-- More rounds than a program lives to see. -/
def roundLimit : Nat := Nat.pow 2 64

def runCommand (command : Command) : IO UInt32 := do
  let (outcome, _) ← (command.run.run.runWith answer roundLimit).run "off"
  match outcome with
  | some (.error failure) =>
    let reason := failure.message
    IO.eprintln s!"Error: {reason}"
    return 1
  | _ => return 0

def measure (settings : Benchmark.Settings) (workload : Benchmark.Workload) : IO Nat := do
  let start ← IO.monoNanosNow
  let _ ← IO.lazyPure fun _ => Benchmark.outcome settings workload
  return (← IO.monoNanosNow) - start

/-- How many nanoseconds each workload takes; one that is not wanted takes none. -/
def measureAll (settings : Benchmark.Settings) : IO (Benchmark.Workload → Nat) := do
  let times ← settings.mode.workloads.mapM fun workload => do
    return (workload, ← measure settings workload)
  return fun workload => (times.lookup workload).getD 0

/-- Runs the benchmark. The result is the exit code. -/
def runBenchmark (arguments : List String) : IO UInt32 := do
  let elapsed ← match ({} : Benchmark.Settings).parse arguments with
    | .ok settings => measureAll settings
    | .error _ => pure fun _ => 0
  let output := Benchmark.run (fun _ => elapsed) arguments
  IO.print output.standardOutput
  IO.eprint output.standardError
  return UInt32.ofNat output.exitCode

end RadioRelay.RealMachine

open RadioRelay in
def main (arguments : List String) : IO UInt32 := do
  match CommandLine.parse arguments with
  | .ok command => RealMachine.runCommand command
  | .error refusal =>
    let code := UInt32.ofNat refusal.exitCode
    if code = 0 then IO.print refusal.text else IO.eprint refusal.text
    return code
