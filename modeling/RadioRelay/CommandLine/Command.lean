import RadioRelay.CommandLine.Size
import RadioRelay.Configuration
import RadioRelay.MacAddress

/-!
# The command line

A command line names a command and gives its options. The value of an option is
judged only when the next option or the end of the line comes, so that a later
argument that makes no sense at all is reported first.
-/

namespace RadioRelay

inductive Command
  | serve (config socketName : Option String)
  /-- Register addresses with a running daemon and log the frames that come. -/
  | listen (socketName : String) (macs : List MacAddress) (count : Option Nat)
  deriving DecidableEq, Repr

namespace CommandLine

/-- Why a command line asks for nothing to be done. -/
inductive Refusal
  | helpWanted
  | versionWanted
  | commandMissing
  | unknownCommand
  | unknownArgument
  | optionMissing
  | valueMissing
  /-- A value was attached to a switch that takes none. -/
  | valueUnwanted
  | valueInvalid
  /-- An option was given twice. -/
  | repeatedOption
  deriving DecidableEq, Repr

/-- The exit code of the program: asking for help or the version is no error. -/
def Refusal.exitCode : Refusal → Nat
  | .helpWanted | .versionWanted => 0
  | _ => 2

/-- An option that takes a value. -/
inductive Parameter
  | config
  | socketName
  | mac
  | count
  deriving DecidableEq, Repr

inductive Switch
  | help
  | version
  | parameter (parameter : Parameter)
  deriving DecidableEq, Repr

structure Switches where
  long? : String → Option Switch
  short? : Char → Option Switch

def generalSwitches : Switches where
  long?
    | "help" => some .help
    | "version" => some .version
    | _ => none
  short?
    | 'h' => some .help
    | 'V' => some .version
    | _ => none

def serveSwitches : Switches where
  long?
    | "config" => some (.parameter .config)
    | "socket-name" => some (.parameter .socketName)
    | "help" => some .help
    | _ => none
  short?
    | 'c' => some (.parameter .config)
    | 'h' => some .help
    | _ => none

def listenSwitches : Switches where
  long?
    | "socket-name" => some (.parameter .socketName)
    | "mac" => some (.parameter .mac)
    | "count" => some (.parameter .count)
    | "help" => some .help
    | _ => none
  short?
    | 'h' => some .help
    | _ => none

structure Given where
  config : Option String := none
  socketName : Option String := none
  /-- The addresses, the latest first. -/
  macs : List MacAddress := []
  count : Option Nat := none
  deriving DecidableEq, Repr

/-- Takes a value in. Only addresses may be given more than once. -/
def Given.accept (given : Given) (value : String) : Parameter → Except Refusal Given
  | .config =>
    if given.config.isSome then .error .repeatedOption
    else .ok { given with config := some value }
  | .socketName =>
    if given.socketName.isSome then .error .repeatedOption
    else .ok { given with socketName := some value }
  | .mac =>
    match MacAddress.parse value with
    | .ok mac => .ok { given with macs := mac :: given.macs }
    | .error _ => .error .valueInvalid
  | .count =>
    if given.count.isSome then .error .repeatedOption
    else
      match size? value with
      | some count => .ok { given with count := some count }
      | none => .error .valueInvalid

structure Reading where
  given : Given := {}
  /-- The latest option, with its value if that has come, not yet judged. -/
  pending : Option (Parameter × Option String) := none
  /-- Whether a double dash has ended the options. -/
  optionsOver : Bool := false

def Reading.settle (reading : Reading) : Except Refusal Given :=
  match reading.pending with
  | none => .ok reading.given
  | some (_, none) => .error .valueMissing
  | some (parameter, some value) => reading.given.accept value parameter

inductive Shape
  /-- The end of the options. -/
  | doubleDash
  /-- A long name, with a value if one is attached. -/
  | long (name : String) (value : Option String)
  /-- A short name and what is attached to it. -/
  | short (name : Char) (attached : List Char)
  | word
  deriving DecidableEq, Repr

/-- What an argument looks like. A single dash is a word. -/
def shapeOf (argument : String) : Shape :=
  match argument.toList with
  | ['-', '-'] => .doubleDash
  | '-' :: '-' :: chars =>
    let name := chars.takeWhile (· ≠ '=')
    .long (String.ofList name)
      (if '=' ∈ chars then some (String.ofList (chars.drop (name.length + 1))) else none)
  | '-' :: name :: attached => .short name attached
  | _ => .word

/-- Stops at a switch that takes no value, unless the pending option is refused. -/
def Reading.stop (reading : Reading) (attached : Option String) (refusal : Refusal) :
    Except Refusal Reading := do
  if attached.isSome then throw .valueUnwanted
  let _ ← reading.settle
  throw refusal

def Reading.takeSwitch (reading : Reading) (attached : Option String) :
    Option Switch → Except Refusal Reading
  | none => .error .unknownArgument
  | some .help => reading.stop attached .helpWanted
  | some .version => reading.stop attached .versionWanted
  | some (.parameter parameter) => do
    let given ← reading.settle
    match attached with
    | none => return { reading with given := given, pending := some (parameter, none) }
    | some value =>
      return { reading with given := ← given.accept value parameter, pending := none }

/-- Takes a word: the value that is waited for, or else one too many. -/
def Reading.takeWord (reading : Reading) (word : String) : Except Refusal Reading :=
  match reading.pending with
  | some (parameter, none) => .ok { reading with pending := some (parameter, some word) }
  | _ => .error .unknownArgument

/-- The value attached to a short name; an equals sign in front of it does not
count. To a switch without a value nothing is attached, but further names. -/
def attachedTo (switch : Option Switch) (attached : List Char) : Option String :=
  match switch, attached with
  | some (.parameter _), '=' :: value => some (String.ofList value)
  | some (.parameter _), char :: rest => some (String.ofList (char :: rest))
  | _, _ => none

def Reading.take (switches : Switches) (reading : Reading) (argument : String) :
    Except Refusal Reading :=
  if reading.optionsOver then .error .unknownArgument
  else
    match shapeOf argument with
    | .doubleDash => .ok { reading with optionsOver := true }
    | .long name value => reading.takeSwitch value (switches.long? name)
    | .short name attached =>
      let switch := switches.short? name
      reading.takeSwitch (attachedTo switch attached) switch
    | .word => reading.takeWord argument

def readOptions (switches : Switches) (arguments : List String) : Except Refusal Given := do
  (← arguments.foldlM (Reading.take switches) {}).settle

def readServe (arguments : List String) : Except Refusal Command := do
  let given ← readOptions serveSwitches arguments
  return .serve given.config given.socketName

def readListen (arguments : List String) : Except Refusal Command := do
  let given ← readOptions listenSwitches arguments
  if given.macs.isEmpty then throw .optionMissing
  return .listen (given.socketName.getD defaultSocketName) given.macs.reverse given.count

def isCommand (word : String) : Bool := word ∈ ["serve", "listen", "help"]

/-- Why a request for help on something does nothing else. -/
def helpOn : List String → Refusal
  | [] => .helpWanted
  | [word] => if isCommand word then .helpWanted else .unknownCommand
  | _ => .unknownCommand

def afterDoubleDash : List String → Refusal
  | [] => .commandMissing
  | word :: _ => if isCommand word then .unknownArgument else .unknownCommand

def general (attached : Bool) : Option Switch → Refusal
  | some .help => if attached then .valueUnwanted else .helpWanted
  | some .version => if attached then .valueUnwanted else .versionWanted
  | _ => .unknownArgument

/-- Reads a command line, the program's own name left out. -/
def parse : List String → Except Refusal Command
  | [] => .error .commandMissing
  | "serve" :: rest => readServe rest
  | "listen" :: rest => readListen rest
  | "help" :: rest => .error (helpOn rest)
  | first :: rest =>
    match shapeOf first with
    | .doubleDash => .error (afterDoubleDash rest)
    | .long name value => .error (general value.isSome (generalSwitches.long? name))
    | .short name _ => .error (general false (generalSwitches.short? name))
    | .word => .error .unknownCommand

end CommandLine

end RadioRelay
