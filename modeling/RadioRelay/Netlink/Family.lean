import RadioRelay.Netlink.Channel

/-!
# Families by name

Generic netlink families have names that stay and numbers that do not. The
kernel tells the number of a name.
-/

namespace RadioRelay.Family

/-- The kind of the messages that concern the families themselves. -/
def controlKind : UInt16 := 16

def lookupCommand : UInt8 := 3

def lookupVersion : UInt8 := 2

def nameKind : UInt16 := 2

def numberKind : UInt16 := 1

/-- A name as the kernel wants it: with a zero byte at its end. -/
def terminated (name : String) : Bytes := name.toUTF8.toList ++ [0]

def request (name : String) (port : UInt32) : Except ProtocolError Bytes :=
  (Draft.generic controlKind Channel.acknowledgedRequest 0 port lookupCommand
    lookupVersion).complete (Draft.attach nameKind (terminated name))

/-- The number that the kernel's answer to a port tells. -/
def number? (port : UInt32) (answer : Bytes) : Option UInt16 :=
  match Message.parse answer with
  | .error _ => none
  | .ok message =>
    if message.header.kind = controlKind ∧ message.header.port = port then
      match (Attribute.parseAll message.attributes).toOption.bind
          (Attribute.find? numberKind) with
      | some [low, high] => some (Bytes.word16 low high)
      | _ => none
    else none

def ask (socket event : Descriptor) (name : String) (port : UInt32) : Fallible UInt16 := do
  match request name port with
  | .error _ => throw (.of (.unknownFamily name))
  | .ok message =>
    let _ ← Fallible.attemptingOr (.unknownFamily name)
      (Program.call (.send socket message))
    let answer ← Fallible.attemptingOr (.unknownFamily name)
      (Program.call (.receiveInBackground socket event))
    match number? port answer with
    | some number => return number
    | none => throw (.of (.unknownFamily name))

def resolve (name : String) : Fallible UInt16 := do
  let socket ← Fallible.attemptingOr .netlinkUnavailable
    (Program.call (.openSocket .kernel true))
  let number ← Fallible.closingOnFailure socket do
    Fallible.attemptingOr .netlinkUnavailable (Program.call (.bind socket .kernelPort))
    let port ← Fallible.attemptingOr .netlinkUnavailable (Program.call (.localPort socket))
    let event ← Fallible.attemptingOr .netlinkUnavailable (Program.call .openEvent)
    Fallible.closingOnFailure event do
      let number ← ask socket event name port
      ExceptT.lift (Program.call (.close event))
      return number
  ExceptT.lift (Program.call (.close socket))
  ExceptT.lift (Program.call (.log (.resolvedFamily name number)))
  return number

end RadioRelay.Family
