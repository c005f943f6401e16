import RadioRelay.Proofs.Wire.RoundTrip

/-!
# No reader leaves its bytes

The readers of messages are given here a second time, with every access to a byte and every slice
by its index. Such an access is partial: it gives nothing if it is out of range, and then nothing
comes of the whole. That never happens: whatever the bytes are, these readers give what the readers
that take lists apart give.
-/

namespace RadioRelay

/-- The bytes from one index up to another, if these are in order and not beyond the end. -/
def Bytes.range? (bytes : Bytes) (start stop : Nat) : Option Bytes :=
  if start ≤ stop ∧ stop ≤ bytes.length then some ((bytes.take stop).drop start) else none

theorem Bytes.range?_of_le {bytes : Bytes} {start stop : Nat} (ordered : start ≤ stop)
    (inside : stop ≤ bytes.length) :
    bytes.range? start stop = some ((bytes.take stop).drop start) :=
  if_pos ⟨ordered, inside⟩

theorem Bytes.range?_length {bytes : Bytes} {start : Nat} (inside : start ≤ bytes.length) :
    bytes.range? start bytes.length = some (bytes.drop start) := by
  rw [range?_of_le inside (Nat.le_refl _), List.take_length]

/-! ### Headers and attributes -/

/-- The header at the start of the bytes. Whether they are long enough is looked up before. -/
def Header.readIndexed (bytes : Bytes) : Option (Option Header) := do
  if bytes.length < size then return none
  let front := bytes.take size
  return some {
    length := Bytes.word32 (← front[0]?) (← front[1]?) (← front[2]?) (← front[3]?)
    kind := Bytes.word16 (← front[4]?) (← front[5]?)
    flags := Bytes.word16 (← front[6]?) (← front[7]?)
    sequence := Bytes.word32 (← front[8]?) (← front[9]?) (← front[10]?) (← front[11]?)
    port := Bytes.word32 (← front[12]?) (← front[13]?) (← front[14]?) (← front[15]?) }

theorem Header.readIndexed_eq (bytes : Bytes) : readIndexed bytes = some (read? bytes) := by
  rcases Nat.lt_or_ge bytes.length size with short | long
  · rw [readIndexed, if_pos short, read?_eq_none_iff.mpr short]
    rfl
  · rw [readIndexed, if_neg (Nat.not_lt.mpr long)]
    rcases bytes with _ | ⟨_, _ | ⟨_, _ | ⟨_, _ | ⟨_, _ | ⟨_, _ | ⟨_, _ | ⟨_, _ | ⟨_, _ | ⟨_,
      _ | ⟨_, _ | ⟨_, _ | ⟨_, _ | ⟨_, _ | ⟨_, _ | ⟨_, _ | ⟨_, _⟩⟩⟩⟩⟩⟩⟩⟩⟩⟩⟩⟩⟩⟩⟩⟩
    all_goals first | rfl | simp [size] at long

namespace Attribute

/-- The first attribute of a section that is not empty, and where the section goes on. The padding
may be missing at the end. -/
def nextIndexed (bytes : Bytes) : Option (Except ProtocolError (Attribute × Bytes)) := do
  if bytes.length < headerSize then return .error .malformed
  let size := (Bytes.word16 (← bytes[0]?) (← bytes[1]?)).toNat
  let kind := Bytes.word16 (← bytes[2]?) (← bytes[3]?) &&& kindMask
  if size < headerSize ∨ bytes.length < size then return .error .malformed
  let payload ← bytes.range? headerSize size
  let rest ← bytes.range? (min (align4 size) bytes.length) bytes.length
  return .ok (⟨kind, payload⟩, rest)

theorem nextIndexed_of_short {bytes : Bytes} (short : bytes.length < headerSize) :
    nextIndexed bytes = some (.error .malformed) := by
  rw [nextIndexed, if_pos short]
  rfl

theorem drop_of_padding {first second third fourth : UInt8} {rest : Bytes} {size : Nat}
    (whole : headerSize ≤ size) :
    (first :: second :: third :: fourth :: rest).drop
        (min size (first :: second :: third :: fourth :: rest).length)
      = rest.drop (size - headerSize) := by
  obtain ⟨more, rfl⟩ := Nat.exists_eq_add_of_le' whole
  rcases Nat.le_total (more + headerSize) (first :: second :: third :: fourth :: rest).length
    with inside | beyond
  · rw [Nat.min_eq_left inside, Nat.add_sub_cancel]
    rfl
  · rw [Nat.min_eq_right beyond, List.drop_length, Nat.add_sub_cancel]
    refine (List.drop_eq_nil_of_le ?_).symm
    simp only [List.length_cons, headerSize] at beyond
    omega

theorem nextIndexed_cons (sizeLow sizeHigh kindLow kindHigh : UInt8) (rest : Bytes) :
    nextIndexed (sizeLow :: sizeHigh :: kindLow :: kindHigh :: rest) =
      let size := (Bytes.word16 sizeLow sizeHigh).toNat
      if size < headerSize ∨ rest.length < size - headerSize then some (.error .malformed)
      else some (.ok (⟨Bytes.word16 kindLow kindHigh &&& kindMask, rest.take (size - headerSize)⟩,
        rest.drop (align4 size - headerSize))) := by
  have length : (sizeLow :: sizeHigh :: kindLow :: kindHigh :: rest).length
      = headerSize + rest.length := by
    simp only [List.length_cons, headerSize]
    omega
  rw [nextIndexed, if_neg (by omega)]
  simp only [List.getElem?_cons_zero, List.getElem?_cons_succ, Option.bind_eq_bind,
    Option.bind_some]
  generalize (Bytes.word16 sizeLow sizeHigh).toNat = size
  by_cases malformed : size < headerSize ∨ rest.length < size - headerSize
  · rw [if_pos malformed, if_pos (by omega)]
    rfl
  · have aligned : size ≤ align4 size := by
      unfold align4
      omega
    have payload : Bytes.range? (sizeLow :: sizeHigh :: kindLow :: kindHigh :: rest) headerSize size
        = some (rest.take (size - headerSize)) := by
      rw [Bytes.range?_of_le (by omega) (by omega), List.drop_take]
      rfl
    rw [if_neg malformed, if_neg (by omega), payload, Option.bind_some,
      Bytes.range?_length (Nat.min_le_right _ _), drop_of_padding (by omega)]
    rfl

theorem length_of_nextIndexed {bytes rest : Bytes} {item : Attribute}
    (next : nextIndexed bytes = some (.ok (item, rest))) : rest.length < bytes.length := by
  rcases bytes with _ | ⟨sizeLow, _ | ⟨sizeHigh, _ | ⟨kindLow, _ | ⟨kindHigh, later⟩⟩⟩⟩
  case cons.cons.cons.cons =>
    rw [nextIndexed_cons] at next
    dsimp only at next
    split at next
    · cases next
    · cases next
      simp only [List.length_drop, List.length_cons]
      omega
  all_goals
    rw [nextIndexed_of_short (by simp [headerSize])] at next
    cases next

/-- Splits an attribute section, one attribute after the other. -/
def parseIndexed (bytes : Bytes) : Option (Except ProtocolError (List Attribute)) :=
  if bytes.isEmpty then some (.ok [])
  else
    match _ : nextIndexed bytes with
    | none => none
    | some (.error error) => some (.error error)
    | some (.ok (item, rest)) => (parseIndexed rest).map (Except.map (item :: ·))
termination_by bytes.length
decreasing_by exact length_of_nextIndexed ‹_›

theorem parseIndexed_of_error {bytes : Bytes} {error : ProtocolError} (nonempty : bytes ≠ [])
    (next : nextIndexed bytes = some (.error error)) :
    parseIndexed bytes = some (.error error) := by
  rw [parseIndexed, if_neg (by simpa using nonempty)]
  split <;> simp_all

theorem parseIndexed_of_ok {bytes rest : Bytes} {item : Attribute} (nonempty : bytes ≠ [])
    (next : nextIndexed bytes = some (.ok (item, rest))) :
    parseIndexed bytes = (parseIndexed rest).map (Except.map (item :: ·)) := by
  rw [parseIndexed, if_neg (by simpa using nonempty)]
  split <;> simp_all

theorem parseIndexed_of_whole {sizeLow sizeHigh kindLow kindHigh : UInt8} {rest : Bytes}
    (whole : ¬ ((Bytes.word16 sizeLow sizeHigh).toNat < headerSize
      ∨ (rest.take ((Bytes.word16 sizeLow sizeHigh).toNat - headerSize)).length
        < (Bytes.word16 sizeLow sizeHigh).toNat - headerSize)) :
    parseIndexed (sizeLow :: sizeHigh :: kindLow :: kindHigh :: rest)
      = (parseIndexed (rest.drop (align4 (Bytes.word16 sizeLow sizeHigh).toNat - headerSize))).map
        (Except.map (⟨Bytes.word16 kindLow kindHigh &&& kindMask,
          rest.take ((Bytes.word16 sizeLow sizeHigh).toNat - headerSize)⟩ :: ·)) := by
  rw [List.length_take] at whole
  refine parseIndexed_of_ok (List.cons_ne_nil _ _) ?_
  rw [nextIndexed_cons]
  exact if_neg (by omega)

theorem parseIndexed_eq (bytes : Bytes) : parseIndexed bytes = some (parseAll bytes) := by
  fun_induction parseAll bytes with
  | case1 => rw [parseIndexed, if_pos List.isEmpty_nil]
  | case2 sizeLow sizeHigh kindLow kindHigh rest size payload malformed =>
    refine parseIndexed_of_error (List.cons_ne_nil _ _) ?_
    rw [List.length_take] at malformed
    rw [nextIndexed_cons, if_pos (by omega)]
  | case3 sizeLow sizeHigh kindLow kindHigh rest size payload whole attributes later ih =>
    rw [parseIndexed_of_whole whole, ih, later]
    rfl
  | case4 sizeLow sizeHigh kindLow kindHigh rest size payload whole error later ih =>
    rw [parseIndexed_of_whole whole, ih, later]
    rfl
  | case5 bytes nonempty short =>
    refine parseIndexed_of_error nonempty (nextIndexed_of_short ?_)
    rcases bytes with _ | ⟨sizeLow, _ | ⟨sizeHigh, _ | ⟨kindLow, _ | ⟨kindHigh, later⟩⟩⟩⟩
    case cons.cons.cons.cons => exact (short _ _ _ _ _ rfl).elim
    all_goals simp [headerSize]

end Attribute

/-! ### Messages -/

def Message.parseIndexed (bytes : Bytes) : Option (Except ProtocolError Message) := do
  if bytes.length < minSize then return .error (.truncated bytes.length)
  match ← Header.readIndexed bytes with
  | none => return .error (.truncated bytes.length)
  | some header =>
    if header.length.toNat ≠ bytes.length then
      return .error (.sizeMismatch header.length.toNat bytes.length)
    let command ← bytes[Header.size]?
    let attributes ← bytes.range? minSize bytes.length
    return .ok ⟨header, command, attributes⟩

theorem Message.parseIndexed_eq (bytes : Bytes) : parseIndexed bytes = some (parse bytes) := by
  rcases Nat.lt_or_ge bytes.length minSize with short | long
  · rw [parseIndexed, if_pos short, parse_of_short short]
    rfl
  · rw [parseIndexed, if_neg (Nat.not_lt.mpr long), Header.readIndexed_eq]
    rcases exists_laidOut long with ⟨message, laid⟩
    rw [laid.parse_eq, laid.read?_eq]
    simp only [Option.bind_eq_bind, Option.bind_some]
    by_cases declared : message.header.length.toNat = bytes.length
    · rw [if_pos declared, if_neg (fun differs => differs declared), Bytes.range?_length long]
      rcases laid with ⟨version, low, high, rfl⟩
      have command : (message.header.write ++ message.command :: version :: low :: high
          :: message.attributes)[Header.size]? = some message.command := by
        rw [List.getElem?_append_right (Nat.le_of_eq (Header.length_write _)), Header.length_write,
          Nat.sub_self, List.getElem?_cons_zero]
      have attributes : (message.header.write ++ message.command :: version :: low :: high
          :: message.attributes).drop minSize = message.attributes := by
        rw [minSize, ← List.drop_drop, List.drop_left' (Header.length_write _)]
        rfl
      rw [command, attributes]
      rfl
    · rw [if_neg declared, if_pos declared]
      rfl

def Notification.decodeIndexed (bytes : Bytes) (family : UInt16) :
    Option (Option Notification) := do
  match ← Header.readIndexed bytes with
  | none => return none
  | some header =>
    if header.kind ≠ family then return none
    let size := header.length.toNat
    if size < Message.minSize ∨ bytes.length < size then return none
    match ← Attribute.parseIndexed (← bytes.range? Message.minSize size) with
    | .error _ => return none
    | .ok attributes =>
      let transmitter? := (Attribute.find? transmitterKind attributes).bind MacAddress.ofBytes?
      return transmitter?.map (⟨·, bytes⟩)

theorem Notification.decodeIndexed_eq (bytes : Bytes) (family : UInt16) :
    decodeIndexed bytes family = some (decode? bytes family) := by
  rw [decodeIndexed, decode?, Header.readIndexed_eq]
  cases Header.read? bytes with
  | none => rfl
  | some header =>
    simp only [Option.bind_eq_bind, Option.bind_some]
    by_cases foreign : header.kind ≠ family
    · rw [if_pos foreign, if_neg fun whole => foreign whole.1]
      rfl
    by_cases outside : header.length.toNat < Message.minSize ∨ bytes.length < header.length.toNat
    · rw [if_neg foreign, if_pos outside, if_neg (by omega)]
      rfl
    · have own : header.kind = family := Decidable.not_not.mp foreign
      rw [if_neg foreign, if_neg outside, if_pos ⟨own, by omega, by omega⟩,
        Bytes.range?_of_le (by omega) (by omega), Option.bind_some, Attribute.parseIndexed_eq,
        Option.bind_some]
      cases Attribute.parseAll ((bytes.take header.length.toNat).drop Message.minSize) <;> rfl

def ClientMessage.decodeIndexed (bytes : Bytes) :
    Option (Except ProtocolError ClientMessage) := do
  match ← Message.parseIndexed bytes with
  | .error error => return .error error
  | .ok message =>
    if message.command = registerCommand then
      match ← Attribute.parseIndexed message.attributes with
      | .error error => return .error error
      | .ok attributes =>
        match (Attribute.find? macKind attributes).bind MacAddress.ofBytes? with
        | some mac => return .ok ⟨message.header, .register mac⟩
        | none => return .ok ⟨message.header, .missingMac⟩
    else return .ok ⟨message.header, .unrecognized message.command⟩

theorem ClientMessage.decodeIndexed_eq (bytes : Bytes) :
    decodeIndexed bytes = some (decode bytes) := by
  rw [decodeIndexed, decode, Message.parseIndexed_eq]
  cases Message.parse bytes with
  | error error => rfl
  | ok message =>
    simp only [Option.bind_eq_bind, Option.bind_some, Attribute.parseIndexed_eq]
    split
    next registers =>
      change _ = some (if _ then _ else _)
      rw [if_pos registers]
      cases Attribute.parseAll message.attributes with
      | error error => rfl
      | ok attributes =>
        dsimp only
        change _ = some (match (Attribute.find? macKind attributes).bind MacAddress.ofBytes? with
          | some mac => _
          | none => _)
        cases (Attribute.find? macKind attributes).bind MacAddress.ofBytes? <;> rfl
    next other =>
      change _ = some (if _ then _ else _)
      rw [if_neg other]
      rfl

def Delivery.decodeIndexed (bytes : Bytes) : Option (Except ProtocolError Delivery) := do
  match ← Message.parseIndexed bytes with
  | .error error => return .error error
  | .ok message =>
    if message.command ≠ deliverCommand then return .error .malformed
    match ← Attribute.parseIndexed message.attributes with
    | .error error => return .error error
    | .ok attributes =>
      match (Attribute.find? macKind attributes).bind MacAddress.ofBytes?,
          Attribute.find? packetKind attributes with
      | some mac, some packet => return .ok ⟨mac, packet⟩
      | _, _ => return .error .malformed

theorem Delivery.decodeIndexed_eq (bytes : Bytes) : decodeIndexed bytes = some (decode bytes) := by
  rw [decodeIndexed, decode, Message.parseIndexed_eq]
  cases Message.parse bytes with
  | error error => rfl
  | ok message =>
    simp only [Option.bind_eq_bind, Option.bind_some, Attribute.parseIndexed_eq]
    split
    next other =>
      change _ = some (if _ then _ else _)
      rw [if_neg other]
      rfl
    next delivers =>
      change _ = some (if _ then _ else _)
      rw [if_pos (Decidable.not_not.mp delivers)]
      cases Attribute.parseAll message.attributes with
      | error error => rfl
      | ok attributes =>
        dsimp only
        change _ = some (match (Attribute.find? macKind attributes).bind MacAddress.ofBytes?,
            Attribute.find? packetKind attributes with
          | some mac, some packet => _
          | _, _ => _)
        cases (Attribute.find? macKind attributes).bind MacAddress.ofBytes? <;>
          cases Attribute.find? packetKind attributes <;> rfl

def Acknowledgement.decodeIndexed (bytes : Bytes) : Option (Option Acknowledgement) := do
  match ← Header.readIndexed bytes with
  | none => return none
  | some header =>
    let size := header.length.toNat
    if header.kind ≠ messageKind ∨ size < Header.size + 4 ∨ bytes.length < size then return none
    let result ← bytes.range? Header.size (Header.size + 4)
    return some ⟨header.sequence, header.port,
      (Bytes.word32 (← result[0]?) (← result[1]?) (← result[2]?) (← result[3]?)).toInt32⟩

theorem Acknowledgement.decodeIndexed_eq (bytes : Bytes) :
    decodeIndexed bytes = some (decode? bytes) := by
  rw [decodeIndexed, decode?, Header.readIndexed_eq]
  cases Header.read? bytes with
  | none => rfl
  | some header =>
    simp only [Option.bind_eq_bind, Option.bind_some]
    by_cases whole : header.kind = messageKind ∧ Header.size + 4 ≤ header.length.toNat
      ∧ header.length.toNat ≤ bytes.length
    · have accepted : ¬ (header.kind ≠ messageKind ∨ header.length.toNat < Header.size + 4
          ∨ bytes.length < header.length.toNat) := by
        rintro (foreign | outside)
        · exact foreign whole.1
        · omega
      have long : 4 ≤ (bytes.drop Header.size).length := by
        rw [List.length_drop]
        omega
      rw [if_neg accepted, Bytes.range?_of_le (by omega) (by omega), List.drop_take,
        Nat.add_sub_cancel_left]
      rcases body : bytes.drop Header.size with _ | ⟨r0, _ | ⟨r1, _ | ⟨r2, _ | ⟨r3, rest⟩⟩⟩⟩
      case cons.cons.cons.cons =>
        dsimp only
        rw [if_pos whole]
        rfl
      all_goals
        rw [body] at long
        simp only [List.length_nil, List.length_cons] at long
        omega
    · have refused : header.kind ≠ messageKind ∨ header.length.toNat < Header.size + 4
          ∨ bytes.length < header.length.toNat := by
        by_cases own : header.kind = messageKind
        · have outside : ¬ (Header.size + 4 ≤ header.length.toNat
              ∧ header.length.toNat ≤ bytes.length) := fun sized => whole ⟨own, sized⟩
          omega
        · exact Or.inl own
      rw [if_pos refused]
      split
      next found _ =>
        cases found
        rw [if_neg whole]
        rfl
      next => rfl

/-- Finishes a message: its length takes the first four bytes of what is written so far. -/
def Draft.finishIndexed (draft : Draft) : Option Bytes := do
  let front ← draft.bytes.range? 0 4
  let length := Bytes.ofWord32 (UInt32.ofNat draft.bytes.length)
  if front.length = length.length then some (length ++ draft.bytes.drop 4) else none

theorem Draft.finishIndexed_eq (draft : Draft) : draft.finishIndexed = some draft.finish := by
  have long : 4 ≤ draft.bytes.length := by
    rw [length_bytes, Header.size]
    omega
  have front : ((draft.bytes.take 4).drop 0).length = 4 := by
    rw [List.drop_zero, List.length_take, Nat.min_eq_left long]
  rw [finishIndexed, Bytes.range?_of_le (Nat.zero_le _) long]
  simp only [Option.bind_eq_bind, Option.bind_some, Bytes.length_ofWord32]
  exact if_pos front

end RadioRelay
