import RadioRelay.Proofs.Wire.Sharing

/-!
# What a reader makes of a client's message

All bytes that a client can send are judged in a fixed order: first their number,
then the length that the header declares, then the command, and only for a
registration the attributes. Of several addresses in a registration the last one
counts, and it has to have six bytes. Whatever is accepted comes under the header
that the bytes begin with.
-/

namespace RadioRelay.ClientMessage

open Attribute (Item Spells LastOf)

variable {bytes : Bytes} {message : Message} {items : List Item} {mac : MacAddress}

/-! ### What decides for each outcome -/

theorem decode_of_refused {error : ProtocolError} (refused : Message.parse bytes = .error error) :
    decode bytes = .error error := by
  rw [decode, refused]
  rfl

theorem decode_of_foreign (parsed : Message.parse bytes = .ok message)
    (foreign : message.command ≠ registerCommand) :
    decode bytes = .ok ⟨message.header, .unrecognized message.command⟩ := by
  simp only [decode, parsed, bind, Except.bind, if_neg foreign]

theorem decode_of_malformed (parsed : Message.parse bytes = .ok message)
    (own : message.command = registerCommand)
    (malformed : Attribute.parseAll message.attributes = .error .malformed) :
    decode bytes = .error .malformed := by
  simp only [decode, parsed, bind, Except.bind, if_pos own, malformed]

/-- Of a registration whose attributes can be read, the last address decides. -/
theorem decode_of_spells (parsed : Message.parse bytes = .ok message)
    (own : message.command = registerCommand) (spells : Spells items message.attributes) :
    decode bytes = .ok ⟨message.header,
      match (Attribute.find? macKind (items.map Item.content)).bind MacAddress.ofBytes? with
      | some mac => .register mac
      | none => .missingMac⟩ := by
  simp only [decode, parsed, bind, Except.bind, if_pos own, spells.parseAll_eq]
  split <;> simp only [*]

theorem error_of_parse (parsed : Message.parse bytes = .ok message) {error : ProtocolError}
    (refused : decode bytes = .error error) : error = .malformed := by
  by_cases own : message.command = registerCommand
  case neg =>
    rw [decode_of_foreign parsed own] at refused
    cases refused
  rcases Attribute.spells_or_malformed message.attributes with ⟨items, spells⟩ | malformed
  · rw [decode_of_spells parsed own spells] at refused
    cases refused
  · rw [decode_of_malformed parsed own malformed] at refused
    exact (Except.error.inj refused).symm

/-! ### What each outcome says about the bytes -/

theorem decode_eq_truncated_iff :
    decode bytes = .error (.truncated bytes.length) ↔ bytes.length < Message.minSize := by
  constructor
  · intro refused
    by_contra long
    -- With both headers there, the length or the attributes are the only reasons left.
    rcases Message.exists_laidOut (Nat.le_of_not_lt long) with ⟨message, laid⟩
    have parsed := laid.parse_eq
    split at parsed
    case isTrue => cases error_of_parse parsed refused
    case isFalse =>
      rw [decode_of_refused parsed] at refused
      cases refused
  · intro short
    exact decode_of_refused (Message.parse_of_short short)

theorem decode_eq_mismatch_iff (laid : message.LaidOut bytes) :
    decode bytes = .error (.sizeMismatch message.header.length.toNat bytes.length)
      ↔ message.header.length.toNat ≠ bytes.length := by
  have parsed := laid.parse_eq
  constructor
  · intro refused declared
    rw [if_pos declared] at parsed
    cases error_of_parse parsed refused
  · intro mismatch
    rw [if_neg mismatch] at parsed
    exact decode_of_refused parsed

theorem header_of_decode (laid : message.LaidOut bytes) {read : ClientMessage}
    (decoded : decode bytes = .ok read) : read.header = message.header := by
  rcases parse_of_decode decoded with ⟨whole, parsed, header⟩
  rw [← header, (Message.laidOut_of_parse parsed).1.unique laid]

theorem decode_eq_malformed_iff (parsed : Message.parse bytes = .ok message)
    (own : message.command = registerCommand) :
    decode bytes = .error .malformed ↔ ¬∃ items, Spells items message.attributes := by
  constructor
  · rintro refused ⟨items, spells⟩
    rw [decode_of_spells parsed own spells] at refused
    cases refused
  · intro unspelled
    exact decode_of_malformed parsed own
      ((Attribute.spells_or_malformed message.attributes).resolve_left unspelled)

theorem decode_eq_register_iff (parsed : Message.parse bytes = .ok message)
    (own : message.command = registerCommand) (spells : Spells items message.attributes) :
    decode bytes = .ok ⟨message.header, .register mac⟩
      ↔ LastOf macKind mac.toBytes (items.map Item.content) := by
  rw [decode_of_spells parsed own spells, ← Attribute.bind_ofBytes?_eq_some_iff]
  cases (Attribute.find? macKind (items.map Item.content)).bind MacAddress.ofBytes? <;> simp

theorem decode_eq_missing_iff (parsed : Message.parse bytes = .ok message)
    (own : message.command = registerCommand) (spells : Spells items message.attributes) :
    decode bytes = .ok ⟨message.header, .missingMac⟩
      ↔ ¬∃ mac : MacAddress, LastOf macKind mac.toBytes (items.map Item.content) := by
  simp only [decode_of_spells parsed own spells, ← Attribute.bind_ofBytes?_eq_some_iff]
  cases (Attribute.find? macKind (items.map Item.content)).bind MacAddress.ofBytes? <;> simp

/-- All bytes are classified. Those that do not hold both headers are truncated. The others are
refused if the header declares another length than theirs. Those that are left have a request: one
with another command than that of a registration is unrecognized, whatever follows the command, a
registration is malformed if its attributes are no section, and otherwise registers the address
that the last attribute of the address' kind holds, if that one has six bytes. The header of the
bytes is kept. In particular every registration that is written is read as what it is. -/
theorem decode_classifies :
    (∀ bytes : Bytes,
      (decode bytes = .error (.truncated bytes.length) ↔ bytes.length < Message.minSize)
      ∧ (Message.minSize ≤ bytes.length → ∃ message : Message, message.LaidOut bytes
        ∧ (decode bytes = .error (.sizeMismatch message.header.length.toNat bytes.length)
          ↔ message.header.length.toNat ≠ bytes.length)
        ∧ (∀ read, decode bytes = .ok read → read.header = message.header)
        ∧ (message.header.length.toNat = bytes.length →
          (message.command ≠ registerCommand →
            decode bytes = .ok ⟨message.header, .unrecognized message.command⟩)
          ∧ (message.command = registerCommand →
            (decode bytes = .error .malformed ↔ ¬∃ items, Spells items message.attributes)
            ∧ ∀ items, Spells items message.attributes →
              (∀ mac, decode bytes = .ok ⟨message.header, .register mac⟩
                ↔ LastOf macKind mac.toBytes (items.map Item.content))
              ∧ (decode bytes = .ok ⟨message.header, .missingMac⟩
                ↔ ¬∃ mac : MacAddress,
                  LastOf macKind mac.toBytes (items.map Item.content))))))
    ∧ ∀ mac sequence port, ∃ header,
      decode (Request.encodeRegister mac sequence port) = .ok ⟨header, .register mac⟩
      ∧ header.sequence = sequence ∧ header.port = port := by
  constructor
  · intro bytes
    refine ⟨decode_eq_truncated_iff, fun long => ?_⟩
    rcases Message.exists_laidOut long with ⟨message, laid⟩
    refine ⟨message, laid, decode_eq_mismatch_iff laid, fun _ => header_of_decode laid, ?_⟩
    intro declared
    have parsed := laid.parse_eq
    rw [if_pos declared] at parsed
    refine ⟨decode_of_foreign parsed, fun own => ⟨decode_eq_malformed_iff parsed own, ?_⟩⟩
    intro items spells
    exact ⟨fun mac => decode_eq_register_iff parsed own spells,
      decode_eq_missing_iff parsed own spells⟩
  · intro mac sequence port
    exact ⟨_, decode_encodeRegister mac sequence port, Draft.header_registration mac sequence port⟩

/-- A registration with two addresses, a whole one, and one that is a byte short and has a flag in
its kind. -/
def wavering : Message :=
  ⟨⟨41, 0, requestFlag, 5, 6⟩, registerCommand,
    [10, 0, 0, 0, 1, 2, 3, 4, 5, 6, 0, 0, 9, 0, 0, 0x80, 6, 5, 4, 3, 2]⟩

def waveringBytes : Bytes :=
  wavering.header.write ++ wavering.command :: 0 :: 0 :: 0 :: wavering.attributes

theorem decode_classifies_of_wavering :
    decode waveringBytes = .ok ⟨wavering.header, .missingMac⟩
      ∧ decode (waveringBytes.take 19) = .error (.truncated 19)
      ∧ decode (waveringBytes ++ [0]) = .error (.sizeMismatch 41 42) := by
  refine ⟨?_, (decode_classifies.1 (waveringBytes.take 19)).1.mpr (by decide), ?_⟩
  · have laid : wavering.LaidOut waveringBytes := ⟨0, 0, 0, rfl⟩
    have parsed : Attribute.parseAll wavering.attributes
        = .ok [⟨macKind, [1, 2, 3, 4, 5, 6]⟩, ⟨macKind, [6, 5, 4, 3, 2]⟩] := by decide +kernel
    rcases Attribute.exists_spells_of_parseAll parsed with ⟨items, spells, contents⟩
    rcases (decode_classifies.1 waveringBytes).2 (by decide) with ⟨message, found, -, -, judged⟩
    rcases found.unique laid with rfl
    refine (((judged (by decide)).2 rfl).2 items spells).2.mpr ?_
    rw [contents]
    rintro ⟨mac, last⟩
    cases Attribute.bind_ofBytes?_eq_some_iff.mpr last
  · have laid : Message.LaidOut ⟨wavering.header, wavering.command, wavering.attributes ++ [0]⟩
        (waveringBytes ++ [0]) := ⟨0, 0, 0, rfl⟩
    rcases (decode_classifies.1 (waveringBytes ++ [0])).2 (by decide) with
      ⟨message, found, mismatched, -⟩
    rcases found.unique laid with rfl
    exact mismatched.mpr (by decide)

end RadioRelay.ClientMessage
