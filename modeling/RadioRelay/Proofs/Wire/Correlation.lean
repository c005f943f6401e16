import RadioRelay.Proofs.Wire.Sharing

/-!
# An acknowledgement tells which request it answers

An acknowledgement holds the result and a copy of the request's header, behind a
header of its own with the request's sequence number and port. A reader finds all
three in it, however many bytes follow, and takes nothing that lacks a byte for an
acknowledgement. Since a header is written as it was read, both numbers are those
in the bytes that the client sent.
-/

namespace RadioRelay

/-- The sequence number and the port are the last eight bytes of a header. -/
theorem Header.ofWord32_of_read? {bytes : Bytes} {header : Header}
    (found : read? bytes = some header) :
    Bytes.ofWord32 header.sequence = (bytes.drop 8).take 4
      ∧ Bytes.ofWord32 header.port = (bytes.drop 12).take 4 := by
  rcases read?_eq_some_iff.mp found with ⟨rest, rfl⟩
  exact ⟨rfl, rfl⟩

namespace Acknowledgement

variable {bytes : Bytes} {result : Int32} {request : Header}

theorem length_le_of_decode? {acknowledgement : Acknowledgement}
    (decoded : decode? bytes = some acknowledgement) :
    ∃ header, Header.read? bytes = some header ∧ header.length.toNat ≤ bytes.length := by
  unfold decode? at decoded
  split at decoded
  case h_1 header _ _ _ _ _ found _ =>
    dsimp only at decoded
    split at decoded
    case isTrue whole => exact ⟨header, found, whole.2.2⟩
    case isFalse => cases decoded
  case h_2 => cases decoded

theorem read?_encode (result : Int32) (request : Header) :
    Header.read? (encode result request)
      = some ⟨36, messageKind, 0, request.sequence, request.port⟩ := by
  rw [encode_eq, Header.read?_write_append]

/-- An acknowledgement that lost bytes at its end is not taken for one. -/
theorem decode?_of_cut {part : Bytes} (begins : part <+: encode result request)
    (cut : part ≠ encode result request) : decode? part = none := by
  rw [Option.eq_none_iff_forall_not_mem]
  intro acknowledgement decoded
  rcases length_le_of_decode? decoded with ⟨header, found, fits⟩
  have whole := read?_encode result request
  rw [Header.read?_of_prefix found begins] at whole
  rcases Option.some.inj whole with rfl
  apply cut
  apply begins.eq_of_length_le
  rw [length_encode]
  exact fits

/-- Behind the result an acknowledgement holds the request's header. -/
theorem copy_encode (result : Int32) (request : Header) :
    ((encode result request).drop (Header.size + 4)).take Header.size = request.write := by
  rw [encode_eq]
  rfl

/-- Whatever the result and the request, an acknowledgement declares its length, tells the request's
sequence number and port and the result, also with more bytes behind it, is nothing once it lost
bytes at its end, and holds the request's header behind the result. Headers are read as they were
written, and sixteen bytes are written as they were read. So a message that is accepted is answered
under the sequence number and the port that stand in its bytes. -/
theorem encode_correlates :
    (∀ (result : Int32) (request : Header),
      (∃ header, Header.read? (encode result request) = some header
        ∧ header.length.toNat = (encode result request).length)
      ∧ (∀ more, decode? (encode result request ++ more)
        = some ⟨request.sequence, request.port, result⟩)
      ∧ (∀ part, part <+: encode result request → part ≠ encode result request →
        decode? part = none)
      ∧ Header.read? (((encode result request).drop (Header.size + 4)).take Header.size)
        = some request)
    ∧ (∀ header : Header, Header.read? header.write = some header)
    ∧ (∀ bytes : Bytes, bytes.length = Header.size →
      ∃ header, Header.read? bytes = some header ∧ header.write = bytes)
    ∧ ∀ bytes message, ClientMessage.decode bytes = .ok message → ∀ result,
      ∃ acknowledgement, decode? (encode result message.header) = some acknowledgement
        ∧ acknowledgement.result = result
        ∧ Bytes.ofWord32 acknowledgement.sequence = (bytes.drop 8).take 4
        ∧ Bytes.ofWord32 acknowledgement.port = (bytes.drop 12).take 4 := by
  refine ⟨?_, Header.read?_write, fun _ => Header.exists_write_eq, ?_⟩
  · intro result request
    refine ⟨⟨_, read?_encode result request, ?_⟩, decode?_encode_append result request,
      fun part => decode?_of_cut, ?_⟩
    · rw [length_encode]
      rfl
    · rw [copy_encode, Header.read?_write]
  · intro bytes message decoded result
    rcases ClientMessage.parse_of_decode decoded with ⟨whole, parsed, header⟩
    have found := (Message.parse_eq_ok parsed).1
    rw [header] at found
    exact ⟨_, decode?_encode result message.header, rfl, Header.ofWord32_of_read? found⟩

/-- A message under the largest numbers, with a command that is not known. -/
def largest : Bytes := Header.write ⟨20, 0xffff, 0, 0xffffffff, 0x80000000⟩ ++ [9, 0, 0, 0]

theorem encode_correlates_of_largest :
    ∃ message, ClientMessage.decode largest = .ok message
      ∧ decode? (encode (-2147483648) message.header ++ [1, 2, 3])
        = some ⟨0xffffffff, 0x80000000, -2147483648⟩
      ∧ decode? ((encode (-2147483648) message.header).take 35) = none
      ∧ Header.write ⟨20, 0xffff, 0, 0xffffffff, 0x80000000⟩ = largest.take 16
      ∧ ∃ acknowledgement, decode? (encode 0 message.header) = some acknowledgement
        ∧ Bytes.ofWord32 acknowledgement.sequence = [0xff, 0xff, 0xff, 0xff]
        ∧ Bytes.ofWord32 acknowledgement.port = [0, 0, 0, 0x80] := by
  rcases encode_correlates with ⟨reads, -, inverse, answers⟩
  have decoded : ClientMessage.decode largest
      = .ok ⟨⟨20, 0xffff, 0, 0xffffffff, 0x80000000⟩, .unrecognized 9⟩ := by decide +kernel
  rcases reads (-2147483648) ⟨20, 0xffff, 0, 0xffffffff, 0x80000000⟩ with ⟨-, extended, cut, -⟩
  rcases answers largest _ decoded 0 with ⟨acknowledgement, read, -, sequence, port⟩
  rcases inverse (largest.take 16) rfl with ⟨header, found, written⟩
  rcases Option.some.inj found with rfl
  refine ⟨_, decoded, extended [1, 2, 3], cut _ (List.take_prefix ..) ?_, written,
    acknowledgement, read, sequence, port⟩
  intro same
  have lengths := congrArg List.length same
  rw [List.length_take, length_encode] at lengths
  omega

end Acknowledgement

end RadioRelay
