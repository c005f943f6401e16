import RadioRelay.CommandLine.Size
import RadioRelay.Registry

/-!
# A benchmark of the registry

The benchmark registers clients under random addresses, or looks their
subscribers up, and reports how long that took. The addresses and the random
numbers are the same in every run.
-/

namespace RadioRelay.Benchmark

inductive Workload
  | register
  | lookup
  deriving DecidableEq, Repr

def Workload.name : Workload → String
  | .register => "register"
  | .lookup => "lookup"

inductive Mode
  | both
  | only (workload : Workload)
  deriving DecidableEq, Repr

namespace Mode

def ofName? : String → Option Mode
  | "both" => some .both
  | "register" => some (.only .register)
  | "lookup" => some (.only .lookup)
  | _ => none

def name : Mode → String
  | .both => "both"
  | .only workload => workload.name

def workloads : Mode → List Workload
  | .both => [.register, .lookup]
  | .only workload => [workload]

end Mode

structure Settings where
  operations : Nat := 5000000
  macs : Nat := 20000
  clients : Nat := 64
  mode : Mode := .both
  deriving DecidableEq, Repr

inductive ArgumentError
  | valueMissing (option : String)
  | invalidSize (option value : String)
  | zero (option : String)
  | invalidMode (value : String)
  | helpRequested
  | unknown (argument : String)
  deriving DecidableEq, Repr

def ArgumentError.message : ArgumentError → String
  | .valueMissing option => s!"{option} requires a value"
  | .invalidSize option value => s!"invalid value for {option}: {value}"
  | .zero option => s!"{option} must be > 0"
  | .invalidMode value => s!"invalid --mode value: {value} (expected both|register|lookup)"
  | .helpRequested => "help requested"
  | .unknown argument => s!"unknown argument: {argument}"

def positiveSize (option value : String) : Except ArgumentError Nat :=
  match CommandLine.size? value with
  | none => .error (.invalidSize option value)
  | some 0 => .error (.zero option)
  | some size => .ok size

/-- How an option with a value changes the settings. Other arguments have
none. -/
def assign? : String → Option (String → Settings → Except ArgumentError Settings)
  | "--ops" => some fun value settings => do
    return { settings with operations := ← positiveSize "--ops" value }
  | "--macs" => some fun value settings => do
    return { settings with macs := ← positiveSize "--macs" value }
  | "--clients" => some fun value settings => do
    return { settings with clients := ← positiveSize "--clients" value }
  | "--mode" => some fun value settings =>
    match Mode.ofName? value with
    | some mode => .ok { settings with mode := mode }
    | none => .error (.invalidMode value)
  | _ => none

def refusal (argument : String) : ArgumentError :=
  if argument = "--help" ∨ argument = "-h" then .helpRequested else .unknown argument

def Settings.parse (settings : Settings) : List String → Except ArgumentError Settings
  | [] => .ok settings
  | [option] => .error (if (assign? option).isSome then .valueMissing option else refusal option)
  | option :: value :: rest =>
    match assign? option with
    | none => .error (refusal option)
    | some assign => do (← assign value settings).parse rest

def mac (number : Nat) : MacAddress where
  first := 2
  second := UInt8.ofNat (number / 4294967296)
  third := UInt8.ofNat (number / 16777216)
  fourth := UInt8.ofNat (number / 65536)
  fifth := UInt8.ofNat (number / 256)
  sixth := UInt8.ofNat number

def macs (count : Nat) : List MacAddress := (List.range count).map mac

/-- The step of a linear congruential generator. -/
def advance (state : UInt64) : UInt64 := state * 6364136223846793005 + 1442695040888963407

/-- The next random number, and the state after it. The lowest bits of a state
are the least random ones and are left out. -/
def draw (state : UInt64) : Nat × UInt64 :=
  let state := advance state
  ((state >>> 16).toNat, state)

def randoms (seed : UInt64) : Nat → List Nat
  | 0 => []
  | count + 1 =>
    let (number, state) := draw seed
    number :: randoms state count

/-- A registry of connected clients without subscriptions. -/
def connected (clients : Nat) : Registry Unit :=
  (List.range clients).foldl (fun registry number => (registry.add ⟨(number : Nat)⟩ ()).2) ∅

/-- Registers random clients under random addresses, so many times. -/
def registerRandomly (settings : Settings) : Nat → UInt64 → Registry Unit → Registry Unit
  | 0, _, registry => registry
  | count + 1, state, registry =>
    let (macNumber, state) := draw state
    let (clientNumber, state) := draw state
    let id : ClientId := ⟨(clientNumber % settings.clients : Nat)⟩
    registerRandomly settings count state
      (registry.register (mac (macNumber % settings.macs)) id).2

def registered (settings : Settings) : Registry Unit :=
  registerRandomly settings settings.operations 0x0123456789abcdef
    (connected settings.clients)

def populated (settings : Settings) : Registry Unit :=
  (List.range settings.macs).foldl
    (fun registry number =>
      (registry.register (mac number) ⟨(number % settings.clients : Nat)⟩).2)
    (connected settings.clients)

/-- Looks random addresses up, so many times, and combines the numbers of their
subscribers. -/
def lookUpRandomly (settings : Settings) (registry : Registry Unit) :
    Nat → UInt64 → Nat → Nat
  | 0, _, checksum => checksum
  | count + 1, state, checksum =>
    let (number, state) := draw state
    let found := registry.subscribers (mac (number % settings.macs))
    lookUpRandomly settings registry count state (checksum ^^^ found.length)

def lookupChecksum (settings : Settings) : Nat :=
  lookUpRandomly settings (populated settings) settings.operations 0xfedcba9876543210 0

/-- What a workload computes, as one number. -/
def outcome (settings : Settings) : Workload → Nat
  | .register => (registered settings).subscriptionCount
  | .lookup => lookupChecksum settings

/-- A quotient rounded to the nearest whole number, a half to the even one. -/
def roundedQuotient (number divisor : Nat) : Nat :=
  let quotient := number / divisor
  let twice := 2 * (number % divisor)
  if twice < divisor ∨ (twice = divisor ∧ quotient % 2 = 0) then quotient else quotient + 1

def padLeft (width : Nat) (fill : Char) (text : String) : String :=
  String.ofList (List.replicate (width - text.length) fill ++ text.toList)

def decimalText (places number divisor : Nat) : String :=
  let unit := Nat.pow 10 places
  let scaled := roundedQuotient (number * unit) divisor
  let fraction := padLeft places '0' (toString (scaled % unit))
  s!"{scaled / unit}.{fraction}"

def line (settings : Settings) (nanoseconds : Nat) (workload : Workload) : String :=
  let name := padLeft 8 ' ' workload.name
  let total := padLeft 10 ' ' (decimalText 3 nanoseconds 1000000)
  let each := padLeft 8 ' ' (decimalText 2 nanoseconds settings.operations)
  s!"{name}: total = {total} ms, ns/op = {each}\n"

def report (settings : Settings) (elapsed : Workload → Nat) : String :=
  let mode := settings.mode.name
  let lines := settings.mode.workloads.map fun workload =>
    line settings (elapsed workload) workload
  s!"ClientRegistry benchmark\nmacs: {settings.macs}, clients: {settings.clients}, "
    ++ s!"ops: {settings.operations}, mode: {mode}\n\n" ++ String.join lines

def usage : String :=
  "Usage: cargo run --release --bin registry_bench -- [--ops N] [--macs K] [--clients C] "
    ++ "[--mode both|register|lookup]\nDefaults: --ops 5000000 --macs 20000 --clients 64\n"

structure Output where
  exitCode : Nat
  standardOutput : String
  standardError : String
  deriving DecidableEq, Repr

def run (elapsed : Settings → Workload → Nat) (arguments : List String) : Output :=
  match ({} : Settings).parse arguments with
  | .ok settings => ⟨0, report settings (elapsed settings), ""⟩
  | .error error => ⟨2, "", error.message ++ "\n" ++ usage⟩

end RadioRelay.Benchmark
