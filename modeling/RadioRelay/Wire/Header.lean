import RadioRelay.Bytes

/-!
# The netlink header

Every message starts with sixteen bytes: its length, kind, flags, sequence
number and port, all little-endian. Reading and writing are inverse to each
other.
-/

namespace RadioRelay

structure Header where
  /-- The length of the whole message, header included. -/
  length : UInt32
  kind : UInt16
  flags : UInt16
  /-- Chosen by the sender of a request and echoed in its acknowledgement. -/
  sequence : UInt32
  port : UInt32
  deriving DecidableEq, Repr, Inhabited

namespace Header

def size : Nat := 16

/-- The header at the start of the bytes, if they are long enough. -/
def read? : Bytes → Option Header
  | l0 :: l1 :: l2 :: l3 :: k0 :: k1 :: f0 :: f1 :: s0 :: s1 :: s2 :: s3
      :: p0 :: p1 :: p2 :: p3 :: _ =>
    some {
      length := Bytes.word32 l0 l1 l2 l3
      kind := Bytes.word16 k0 k1
      flags := Bytes.word16 f0 f1
      sequence := Bytes.word32 s0 s1 s2 s3
      port := Bytes.word32 p0 p1 p2 p3 }
  | _ => none

def write (header : Header) : Bytes :=
  Bytes.ofWord32 header.length ++ Bytes.ofWord16 header.kind ++ Bytes.ofWord16 header.flags
    ++ Bytes.ofWord32 header.sequence ++ Bytes.ofWord32 header.port

@[simp]
theorem length_write (header : Header) : header.write.length = size := rfl

@[simp]
theorem read?_write_append (header : Header) (rest : Bytes) :
    read? (header.write ++ rest) = some header := by
  simp only [read?, write, Bytes.ofWord16, Bytes.ofWord32, List.cons_append, List.nil_append,
    Bytes.word16_ofNat, Bytes.word32_ofNat]

theorem read?_eq_none_iff {bytes : Bytes} : read? bytes = none ↔ bytes.length < size := by
  rcases bytes with _ | ⟨_, _ | ⟨_, _ | ⟨_, _ | ⟨_, _ | ⟨_, _ | ⟨_, _ | ⟨_, _ | ⟨_, _ | ⟨_,
    _ | ⟨_, _ | ⟨_, _ | ⟨_, _ | ⟨_, _ | ⟨_, _ | ⟨_, _ | ⟨_, _⟩⟩⟩⟩⟩⟩⟩⟩⟩⟩⟩⟩⟩⟩⟩⟩ <;>
    simp [read?, size]

end Header

end RadioRelay
