import RadioRelay.Proofs.Wire.RoundTrip

/-!
# Which datagrams of the kernel are forwarded

A datagram begins with a header, which declares how much of it is the message.
The address under which it is routed is read from that part alone, and has to be
the last attribute of its kind there. What follows the declared part is forwarded
with it and changes nothing else, and a datagram that lost a byte of the declared
part is not forwarded.
-/

namespace RadioRelay.Notification

open Attribute (Item Spells LastOf)

variable {bytes : Bytes} {family : UInt16} {header : Header} {notification : Notification}

/-- The address under which a message is routed. -/
def transmitter? (message : Bytes) : Option MacAddress :=
  match Attribute.parseAll (message.drop Message.minSize) with
  | .ok attributes => (Attribute.find? transmitterKind attributes).bind MacAddress.ofBytes?
  | .error _ => none

theorem transmitter?_eq_some_iff {mac : MacAddress} : transmitter? bytes = some mac
    ↔ ∃ items, Spells items (bytes.drop Message.minSize)
      ∧ LastOf transmitterKind mac.toBytes (items.map Item.content) := by
  rw [transmitter?]
  constructor
  · intro found
    split at found
    case h_1 attributes parsed =>
      rcases Attribute.exists_spells_of_parseAll parsed with ⟨items, spells, rfl⟩
      exact ⟨items, spells, Attribute.bind_ofBytes?_eq_some_iff.mp found⟩
    case h_2 => cases found
  · rintro ⟨items, spells, last⟩
    rw [spells.parseAll_eq]
    exact Attribute.bind_ofBytes?_eq_some_iff.mpr last

/-- A header declares a message of the family, and the datagram is long enough for it. -/
structure Announces (header : Header) (family : UInt16) (datagram : Bytes) : Prop where
  kind_eq : header.kind = family
  minSize_le : Message.minSize ≤ header.length.toNat
  le_length : header.length.toNat ≤ datagram.length

theorem decode?_of_announces (found : Header.read? bytes = some header)
    (announces : Announces header family bytes) :
    decode? bytes family
      = (transmitter? (bytes.take header.length.toNat)).map fun mac => ⟨mac, bytes⟩ := by
  rw [decode?, found, transmitter?]
  dsimp only
  rw [if_pos ⟨announces.kind_eq, announces.minSize_le, announces.le_length⟩]
  cases Attribute.parseAll ((bytes.take header.length.toNat).drop Message.minSize) <;> rfl

theorem decode?_of_not_announces (found : Header.read? bytes = some header)
    (unannounced : ¬Announces header family bytes) : decode? bytes family = none := by
  rw [decode?, found]
  exact if_neg fun ⟨kind, long, fits⟩ => unannounced ⟨kind, long, fits⟩

theorem decode?_eq_some_iff : decode? bytes family = some notification
    ↔ notification.frame = bytes ∧ ∃ header, Header.read? bytes = some header
      ∧ Announces header family bytes
      ∧ transmitter? (bytes.take header.length.toNat) = some notification.transmitter := by
  constructor
  · intro decoded
    cases found : Header.read? bytes with
    | none =>
      rw [decode?, found] at decoded
      cases decoded
    | some header =>
      by_cases announces : Announces header family bytes
      case neg =>
        rw [decode?_of_not_announces found announces] at decoded
        cases decoded
      rw [decode?_of_announces found announces, Option.map_eq_some_iff] at decoded
      rcases decoded with ⟨mac, routed, rfl⟩
      exact ⟨rfl, header, rfl, announces, routed⟩
  · rintro ⟨whole, header, found, announces, routed⟩
    rw [decode?_of_announces found announces, routed, Option.map_some, ← whole]

/-- A datagram that lost a part of the declared message is not forwarded. -/
theorem decode?_of_cut (found : Header.read? bytes = some header) {part : Bytes}
    (begins : part <+: bytes) (cut : part.length < header.length.toNat) :
    decode? part family = none := by
  rw [Option.eq_none_iff_forall_not_mem]
  intro notification decoded
  rcases decode?_eq_some_iff.mp decoded with ⟨-, shown, foundToo, announces, -⟩
  -- The part still begins with the whole header, which declares more than there is.
  rw [Header.read?_of_prefix foundToo begins] at found
  rcases Option.some.inj found with rfl
  exact Nat.not_le_of_lt cut announces.le_length

/-- What follows the declared message does not matter for the address. -/
theorem decode?_take_append (family : UInt16) (found : Header.read? bytes = some header)
    (long : Message.minSize ≤ header.length.toNat) (fits : header.length.toNat ≤ bytes.length)
    (tail : Bytes) :
    decode? (bytes.take header.length.toNat ++ tail) family
      = (decode? bytes family).map fun notification =>
        ⟨notification.transmitter, bytes.take header.length.toNat ++ tail⟩ := by
  have size : (bytes.take header.length.toNat).length = header.length.toNat := by
    rw [List.length_take]
    omega
  have foundToo : Header.read? (bytes.take header.length.toNat ++ tail) = some header :=
    Header.read?_append (Header.read?_take found (Nat.le_of_add_right_le long)) tail
  by_cases ofFamily : header.kind = family
  case neg =>
    rw [decode?_of_not_announces found fun announces => ofFamily announces.kind_eq,
      decode?_of_not_announces foundToo fun announces => ofFamily announces.kind_eq,
      Option.map_none]
  have taken : (bytes.take header.length.toNat ++ tail).take header.length.toNat
      = bytes.take header.length.toNat := List.take_left' size
  have longer : header.length.toNat ≤ (bytes.take header.length.toNat ++ tail).length := by
    rw [List.length_append, size]
    exact Nat.le_add_right ..
  rw [decode?_of_announces found ⟨ofFamily, long, fits⟩,
    decode?_of_announces foundToo ⟨ofFamily, long, longer⟩, taken, Option.map_map]
  rfl

theorem decode?_append (decoded : decode? bytes family = some notification) (more : Bytes) :
    decode? (bytes ++ more) family = some ⟨notification.transmitter, bytes ++ more⟩ := by
  rcases decode?_eq_some_iff.mp decoded with ⟨-, header, found, ⟨-, long, fits⟩, -⟩
  have kept := decode?_take_append family found long fits
    (bytes.drop header.length.toNat ++ more)
  rw [← List.append_assoc, List.take_append_drop, decoded] at kept
  exact kept

/-- A datagram is forwarded exactly if it begins with a header of the family, the declared length
covers both headers and is not larger than the datagram, and behind them the declared part holds a
section in which the last attribute of the transmitter's kind has the six bytes of an address. It is
forwarded whole and under that address. A datagram that ends before the declared length is not
forwarded; what stands behind the declared part, and what is appended, does not change the
address. -/
theorem decode?_exact (bytes : Bytes) (family : UInt16) :
    (∀ notification, decode? bytes family = some notification ↔
      notification.frame = bytes ∧ ∃ (header : Header) (rest : Bytes), bytes = header.write ++ rest
        ∧ header.kind = family
        ∧ Message.minSize ≤ header.length.toNat ∧ header.length.toNat ≤ bytes.length
        ∧ ∃ items, Spells items ((bytes.take header.length.toNat).drop Message.minSize)
          ∧ LastOf transmitterKind notification.transmitter.toBytes (items.map Item.content))
    ∧ (∀ (header : Header) (rest : Bytes), bytes = header.write ++ rest →
      (∀ part, part <+: bytes → part.length < header.length.toNat → decode? part family = none)
      ∧ (Message.minSize ≤ header.length.toNat → header.length.toNat ≤ bytes.length →
        ∀ tail, decode? (bytes.take header.length.toNat ++ tail) family
          = (decode? bytes family).map fun notification =>
            ⟨notification.transmitter, bytes.take header.length.toNat ++ tail⟩))
    ∧ ∀ notification more, decode? bytes family = some notification →
      decode? (bytes ++ more) family = some ⟨notification.transmitter, bytes ++ more⟩ := by
  refine ⟨?_, ?_, fun _ more decoded => decode?_append decoded more⟩
  · intro notification
    rw [decode?_eq_some_iff]
    apply and_congr_right
    intro _
    constructor
    · rintro ⟨header, found, ⟨kind, long, fits⟩, routed⟩
      rcases Header.read?_eq_some_iff.mp found with ⟨rest, split⟩
      exact ⟨header, rest, split, kind, long, fits, transmitter?_eq_some_iff.mp routed⟩
    · rintro ⟨header, rest, split, kind, long, fits, last⟩
      exact ⟨header, Header.read?_eq_some_iff.mpr ⟨rest, split⟩, ⟨kind, long, fits⟩,
        transmitter?_eq_some_iff.mpr last⟩
  · intro header rest split
    have found := Header.read?_eq_some_iff.mpr ⟨rest, split⟩
    exact ⟨fun part begins cut => decode?_of_cut found begins cut,
      fun long fits tail => decode?_take_append family found long fits tail⟩

/-- A datagram that declares two transmitters, the second one with a flag in its kind and without
padding, and has a third one behind the declared part. -/
def overhanging : Bytes :=
  Header.write ⟨42, 28, 0, 7, 0⟩
    ++ [2, 1, 0, 0, 10, 0, 2, 0, 9, 9, 9, 9, 9, 9, 0, 0, 10, 0, 2, 0x40, 1, 2, 3, 4, 5, 6,
      10, 0, 2, 0, 7, 7, 7, 7, 7, 7]

theorem decode?_exact_of_overhanging :
    decode? overhanging 28 = some ⟨⟨1, 2, 3, 4, 5, 6⟩, overhanging⟩
      ∧ decode? (overhanging.take 41) 28 = none
      ∧ decode? (overhanging.take 42 ++ [0xff]) 28
        = some ⟨⟨1, 2, 3, 4, 5, 6⟩, overhanging.take 42 ++ [0xff]⟩
      ∧ decode? (overhanging ++ [0, 0]) 28
        = some ⟨⟨1, 2, 3, 4, 5, 6⟩, overhanging ++ [0, 0]⟩ := by
  rcases decode?_exact overhanging 28 with ⟨accepted, bounded, extended⟩
  have parsed : Attribute.parseAll ((overhanging.take 42).drop Message.minSize)
      = .ok [⟨2, [9, 9, 9, 9, 9, 9]⟩, ⟨2, [1, 2, 3, 4, 5, 6]⟩] := by decide +kernel
  rcases Attribute.exists_spells_of_parseAll parsed with ⟨items, spells, contents⟩
  have last : LastOf transmitterKind [1, 2, 3, 4, 5, 6] (items.map Item.content) :=
    ⟨[⟨2, [9, 9, 9, 9, 9, 9]⟩], [], contents, by simp⟩
  have decoded := (accepted ⟨⟨1, 2, 3, 4, 5, 6⟩, overhanging⟩).mpr
    ⟨rfl, ⟨42, 28, 0, 7, 0⟩, _, rfl, rfl, by decide, by decide, items, spells, last⟩
  rcases bounded ⟨42, 28, 0, 7, 0⟩ _ rfl with ⟨cut, replaced⟩
  have other := replaced (by decide) (by decide) [0xff]
  rw [decoded] at other
  exact ⟨decoded, cut (overhanging.take 41) (List.take_prefix ..) (by decide), other,
    extended _ [0, 0] decoded⟩

end RadioRelay.Notification
