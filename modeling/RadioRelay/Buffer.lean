import RadioRelay.Bytes

/-!
# Receive buffers

A buffer keeps what earlier receives left in it. A receive overwrites the
front; the reader takes as many bytes as the receive reported, and nothing if
that is more than the buffer holds.
-/

namespace RadioRelay

structure Buffer where
  capacity : Nat
  /-- The bytes up to the last one ever written. The bytes after these are
  zero. -/
  written : Bytes
  deriving DecidableEq, Repr

namespace Buffer

def zeroed (capacity : Nat) : Buffer := ⟨capacity, []⟩

/-- The buffer after a receive stored bytes at its front. -/
def store (buffer : Buffer) (bytes : Bytes) : Buffer :=
  { buffer with written := bytes ++ buffer.written.drop bytes.length }

/-- The first bytes of a buffer; there are none to give beyond its end. -/
def slice? (buffer : Buffer) (count : Nat) : Option Bytes :=
  if count ≤ buffer.capacity then
    some (buffer.written.take count ++ List.replicate (count - buffer.written.length) 0)
  else none

@[simp]
theorem capacity_store (buffer : Buffer) (bytes : Bytes) :
    (buffer.store bytes).capacity = buffer.capacity := rfl

theorem slice?_eq_none_iff {buffer : Buffer} {count : Nat} :
    buffer.slice? count = none ↔ buffer.capacity < count := by
  unfold slice?
  split <;> simp <;> omega

/-- What was just stored is what is read, whatever was in the buffer before. -/
theorem slice?_store_length (buffer : Buffer) (bytes : Bytes)
    (fits : bytes.length ≤ buffer.capacity) :
    (buffer.store bytes).slice? bytes.length = some bytes := by
  simp [slice?, store, fits]

end Buffer

end RadioRelay
