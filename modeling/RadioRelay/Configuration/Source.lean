import RadioRelay.System.Program
import RadioRelay.Yaml.Integer

/-!
# Where a configuration comes from

A configuration file is a document of entries, one for each setting that is not
to have its default. A setting that is unknown or given twice is refused.
-/

namespace RadioRelay

inductive Setting
  | socketName
  | familyName
  | backlog
  | maxClientMessage
  | kernelBuffer
  | logLevel
  deriving DecidableEq, Repr

namespace Setting

def ofKey? : String → Option Setting
  | "socket_name" => some .socketName
  | "family_name" => some .familyName
  | "backlog" => some .backlog
  | "max_client_message" => some .maxClientMessage
  | "kernel_buffer" => some .kernelBuffer
  | "log_level" => some .logLevel
  | _ => none

def assign? (configuration : Configuration) (value : Yaml.Scalar) :
    Setting → Option Configuration
  | .socketName => some { configuration with socketName := value.text }
  | .familyName => some { configuration with familyName := value.text }
  | .backlog => value.int32?.map fun backlog => { configuration with backlog := backlog }
  | .maxClientMessage =>
    value.word64?.map fun size => { configuration with maxClientMessage := size }
  | .kernelBuffer => value.word64?.map fun size => { configuration with kernelBuffer := size }
  | .logLevel => some { configuration with logLevel := value.text }

end Setting

namespace Configuration

/-- The configuration with the settings of some entries, none of which may be
among those already given. -/
def ofEntries? (given : List Setting) (configuration : Configuration) :
    List Yaml.Entry → Option Configuration
  | [] => some configuration
  | entry :: rest => do
    let setting ← Setting.ofKey? entry.key.text
    if setting ∈ given then none
    ofEntries? (setting :: given) (← setting.assign? configuration entry.value) rest

def ofText? (pageSize : Int) (text : String) : Option Configuration := do
  ofEntries? [] (standard pageSize) (← Yaml.entries? text)

def decodeText? (bytes : Bytes) : Option String := String.fromUTF8? ⟨bytes.toArray⟩

def load (path : String) : Fallible Configuration := do
  let bytes ← Fallible.attempting (.readingConfig path) (Program.call (.readFile path))
  match decodeText? bytes with
  | none => throw ((Failure.of .notText).during (.readingConfig path))
  | some text =>
    match ofText? (← Program.call .pageSize) text with
    | none => throw ((Failure.of .invalidYaml).during (.interpretingConfig path))
    | some configuration => return configuration

/-- The files that are looked for if none is named. -/
def candidates : List String := ["wifirouter.yml", "/etc/wifirouter.yml"]

def firstExisting : List String → Program (Option String)
  | [] => return none
  | path :: rest => do
    if ← Program.call (.fileExists path) then return some path
    firstExisting rest

/-- The file to read: the one that was named, which must exist, or the first
candidate that does. -/
def resolvePath : Option String → Fallible (Option String)
  | some path => do
    if ← Program.call (.fileExists path) then return some path
    throw (.of (.missingConfig path))
  | none => ExceptT.lift (firstExisting candidates)

end Configuration

end RadioRelay
