/-!
# Violations of the message format
-/

namespace RadioRelay

/-- Why bytes do not form a message, or a payload fits none. -/
inductive ProtocolError
  /-- Too few bytes for the two headers. -/
  | truncated (received : Nat)
  /-- The length in the header is not the number of bytes received. -/
  | sizeMismatch (declared received : Nat)
  /-- The attributes do not follow the format, or a required one is missing. -/
  | malformed
  /-- The payload does not fit the 16-bit length of an attribute. -/
  | attributeTooLarge (size : Nat)
  deriving DecidableEq, Repr

def ProtocolError.message : ProtocolError → String
  | .truncated received =>
    s!"message truncated: {received} bytes is below the 20 byte header"
  | .sizeMismatch declared received =>
    s!"declared length {declared} does not match {received} received bytes"
  | .malformed => "malformed attribute section"
  | .attributeTooLarge size =>
    s!"attribute payload of {size} bytes exceeds the netlink attribute limit"

end RadioRelay
