import RadioRelay.Wire.Message

/-!
# Where the parts of a message lie

Sixteen bytes and a header determine each other: reading a header and writing one
are inverse. So all bytes that are long enough are a header, a command, a version,
two unused bytes and a rest in exactly one way. They are read as a message if the
header declares their number, and refused for their length otherwise.
-/

namespace RadioRelay

variable {bytes : Bytes} {header : Header}

namespace Header

theorem read?_eq_some_iff : read? bytes = some header ↔ ∃ rest, bytes = header.write ++ rest := by
  constructor
  · intro found
    unfold read? at found
    split at found
    case h_1 rest =>
      rcases Option.some.inj found with rfl
      refine ⟨rest, ?_⟩
      simp only [write, Bytes.ofWord16_word16, Bytes.ofWord32_word32, List.cons_append,
        List.nil_append]
    case h_2 => cases found
  · rintro ⟨rest, rfl⟩
    exact read?_write_append header rest

theorem read?_append (found : read? bytes = some header) (rest : Bytes) :
    read? (bytes ++ rest) = some header := by
  rcases read?_eq_some_iff.mp found with ⟨front, rfl⟩
  rw [List.append_assoc, read?_write_append]

theorem read?_of_prefix {part : Bytes} (found : read? part = some header)
    (begins : part <+: bytes) : read? bytes = some header := by
  rcases begins with ⟨rest, rfl⟩
  exact read?_append found rest

theorem read?_take (found : read? bytes = some header) {count : Nat} (long : size ≤ count) :
    read? (bytes.take count) = some header := by
  rcases read?_eq_some_iff.mp found with ⟨rest, rfl⟩
  rw [List.take_append, List.take_of_length_le long, read?_write_append]

theorem exists_write_append (long : size ≤ bytes.length) :
    ∃ header rest, bytes = write header ++ rest := by
  cases found : read? bytes with
  | none =>
    rw [read?_eq_none_iff] at found
    omega
  | some header => exact ⟨header, read?_eq_some_iff.mp found⟩

theorem read?_write (header : Header) : read? header.write = some header := by
  have found := read?_write_append header []
  rwa [List.append_nil] at found

theorem exists_write_eq (long : bytes.length = size) :
    ∃ header, read? bytes = some header ∧ header.write = bytes := by
  rcases exists_write_append (Nat.le_of_eq long.symm) with ⟨header, rest, rfl⟩
  rw [List.length_append, length_write, Nat.add_eq_left, List.length_eq_zero_iff] at long
  rw [long, List.append_nil]
  exact ⟨header, read?_write header, rfl⟩

/-- What begins with a header does so in one way. -/
theorem write_append_inj {other : Header} {rest otherRest : Bytes}
    (same : header.write ++ rest = other.write ++ otherRest) :
    header = other ∧ rest = otherRest := by
  have found := read?_write_append header rest
  rw [same, read?_write_append] at found
  rcases Option.some.inj found with rfl
  exact ⟨rfl, List.append_cancel_left same⟩

end Header

namespace Message

variable {message : Message}

/-- Bytes are the parts of a message, one after the other. -/
def LaidOut (message : Message) (bytes : Bytes) : Prop :=
  ∃ version low high, bytes = message.header.write
    ++ message.command :: version :: low :: high :: message.attributes

theorem exists_laidOut (long : minSize ≤ bytes.length) :
    ∃ message : Message, message.LaidOut bytes := by
  rw [minSize] at long
  rcases Header.exists_write_append (Nat.le_of_add_right_le long) with ⟨header, rest, rfl⟩
  rw [List.length_append, Header.length_write] at long
  match rest with
  | command :: version :: low :: high :: attributes =>
    exact ⟨⟨header, command, attributes⟩, version, low, high, rfl⟩
  | [] | [_] | [_, _] | [_, _, _] =>
    simp only [List.length_nil, List.length_cons] at long
    omega

namespace LaidOut

theorem read?_eq (laid : message.LaidOut bytes) : Header.read? bytes = some message.header := by
  rcases laid with ⟨version, low, high, rfl⟩
  exact Header.read?_write_append ..

theorem unique {other : Message} (laid : message.LaidOut bytes) (laidToo : other.LaidOut bytes) :
    message = other := by
  rcases laid with ⟨version, low, high, rfl⟩
  rcases laidToo with ⟨otherVersion, otherLow, otherHigh, same⟩
  rcases Header.write_append_inj same with ⟨headers, rests⟩
  cases message
  cases other
  simp only [List.cons.injEq] at headers rests
  rw [Message.mk.injEq]
  exact ⟨headers, rests.1, rests.2.2.2.2⟩

/-- A message is read from the bytes that it lies in, if its header declares their number. -/
theorem parse_eq (laid : message.LaidOut bytes) :
    parse bytes = if message.header.length.toNat = bytes.length then .ok message
      else .error (.sizeMismatch message.header.length.toNat bytes.length) := by
  rcases laid with ⟨version, low, high, rfl⟩
  rw [parse, Header.read?_write_append, List.drop_left' (Header.length_write _)]

end LaidOut

theorem parse_of_short (short : bytes.length < minSize) :
    parse bytes = .error (.truncated bytes.length) := by
  unfold parse
  split
  · rename_i rest
    have held := congrArg List.length rest
    simp only [List.length_drop, List.length_cons] at held
    rw [minSize] at short
    omega
  · rfl

theorem parse_of_mismatch (long : minSize ≤ bytes.length)
    (found : Header.read? bytes = some header)
    (mismatch : header.length.toNat ≠ bytes.length) :
    parse bytes = .error (.sizeMismatch header.length.toNat bytes.length) := by
  rcases exists_laidOut long with ⟨message, laid⟩
  rw [laid.read?_eq] at found
  rcases Option.some.inj found with rfl
  rw [laid.parse_eq, if_neg mismatch]

/-- What is read as a message lies in the bytes and has the length that its header declares. -/
theorem laidOut_of_parse (parsed : parse bytes = .ok message) :
    message.LaidOut bytes ∧ message.header.length.toNat = bytes.length := by
  by_cases short : bytes.length < minSize
  · rw [parse_of_short short] at parsed
    cases parsed
  · rcases exists_laidOut (Nat.le_of_not_lt short) with ⟨other, laid⟩
    rw [laid.parse_eq] at parsed
    split at parsed
    case isTrue declared =>
      rcases Except.ok.inj parsed with rfl
      exact ⟨laid, declared⟩
    case isFalse => cases parsed

theorem parse_eq_ok (parsed : parse bytes = .ok message) :
    Header.read? bytes = some message.header ∧ message.header.length.toNat = bytes.length :=
  ⟨(laidOut_of_parse parsed).1.read?_eq, (laidOut_of_parse parsed).2⟩

end Message

end RadioRelay
