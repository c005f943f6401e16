import RadioRelay.Netlink.Family
import RadioRelay.Simulation.World

/-!
# A kernel that knows families
-/

namespace RadioRelay.Simulation.Kernel

/-- The message to a port that answers a request with a code. An
acknowledgement carries the request's header, a refusal all of it. -/
def answerWith (code : Int32) (port : UInt32) (header : Header) (request : Bytes) : Bytes :=
  (Draft.mk Acknowledgement.messageKind 0 header.sequence port
    (Bytes.ofWord32 code.toUInt32 ++ if code = 0 then header.write else request)).finish

def nameIn (request : Bytes) : Bytes :=
  ((((Message.parse request).toOption.bind fun message =>
    (Attribute.parseAll message.attributes).toOption).bind
      (Attribute.find? Family.nameKind)).getD [])

def lookUp (families : List (String × UInt16)) (port : UInt32) (header : Header)
    (request : Bytes) : List Bytes :=
  match families.find? fun family => Family.terminated family.1 = nameIn request with
  | none => [answerWith (-2) port header request]
  | some (_, number) =>
    match (Draft.generic Family.controlKind 0 header.sequence port 1 2).complete
        (Draft.attach Family.numberKind (Bytes.ofWord16 number)) with
    | .ok reply => [reply, answerWith 0 port header request]
    | .error _ => []

/-- A kernel with some families, which answers to the port that it gave to every
socket. Other requests than lookups are answered with a code, or not at all. -/
def withFamilies (port : UInt32) (families : List (String × UInt16)) (code : Option Int32) :
    Kernel where
  port := port
  reply request :=
    match Header.read? request with
    | none => []
    | some header =>
      if header.kind = Family.controlKind then lookUp families port header request
      else (code.map fun code => answerWith code port header request).toList

end RadioRelay.Simulation.Kernel
