import RadioRelay.Proofs.Wire.Grammar
import RadioRelay.Proofs.Wire.Layout

/-!
# Messages under construction

Attributes are written to a draft one after the other, each with zeros behind it.
The writer counts these zeros from the start of the message, the reader of
sections from the start of the attribute. Both counts agree because every
attribute starts at a multiple of four bytes: the headers of a generic message
take up twenty bytes, and an attribute with its zeros keeps the draft aligned. So
the attributes of a finished message are read back as they were attached.
-/

namespace RadioRelay

namespace Attribute

variable {item : Attribute} {items : List Attribute}

/-- The kind has no flags, and the 16-bit length can announce the payload. -/
structure Writable (item : Attribute) : Prop where
  kind_lt : item.kind.toNat < 0x4000
  length_le : item.payload.length ≤ maxPayload

theorem length_write (item : Attribute) :
    item.write.length = headerSize + item.payload.length := by
  simp only [write, List.length_append, Bytes.length_ofWord16, headerSize]

/-- An attribute with the zeros that a section needs behind it. -/
def padded (item : Attribute) : Bytes :=
  item.write ++ List.replicate (paddingSize item.write.length) 0

theorem length_padded (item : Attribute) :
    item.padded.length = align4 (headerSize + item.payload.length) := by
  rw [padded, List.length_append, List.length_replicate, length_write, align4_eq_add]

/-- The number of bytes that attributes take up in a section, the zeros behind the last one
included. -/
def sectionSize (items : List Attribute) : Nat :=
  (items.map fun item => align4 (headerSize + item.payload.length)).sum

theorem length_flatMap_padded (items : List Attribute) :
    (items.flatMap padded).length = sectionSize items := by
  simp only [List.length_flatMap, length_padded, sectionSize]

theorem four_dvd_length_padded (item : Attribute) : 4 ∣ item.padded.length := by
  rw [length_padded]
  exact Nat.dvd_mul_left ..

/-- The bytes of a written attribute are a complete item that says what the attribute says. -/
theorem Writable.exists_item (writable : item.Writable) :
    ∃ spelled : Item, spelled.Complete ∧ spelled.bytes = item.padded ∧ spelled.content = item := by
  have size : (UInt16.ofNat (headerSize + item.payload.length)).toNat
      = headerSize + item.payload.length := by
    have fits := writable.length_le
    rw [UInt16.toNat_ofNat']
    apply Nat.mod_eq_of_lt
    simp only [maxPayload, headerSize] at fits ⊢
    omega
  let spelled : Item := ⟨UInt16.ofNat (headerSize + item.payload.length), item.kind, item.payload,
    List.replicate (paddingSize item.write.length) 0, size, by
      rw [List.length_replicate, size, length_write]⟩
  refine ⟨spelled, ?_, ?_, ?_⟩
  · rw [Item.complete_iff]
    simp only [spelled, List.length_replicate, size, length_write]
  · simp only [spelled, Item.bytes, padded, write, List.append_assoc]
  · simp only [spelled, Item.content, and_kindMask writable.kind_lt]

theorem exists_spells (writable : ∀ item ∈ items, item.Writable) :
    ∃ spelled, Spells spelled (items.flatMap padded) ∧ spelled.map Item.content = items := by
  induction items with
  | nil => exact ⟨[], spells_nil_iff.mpr rfl, rfl⟩
  | cons item items ih =>
    rw [List.forall_mem_cons] at writable
    rcases ih writable.2 with ⟨later, spells, contents⟩
    rcases writable.1.exists_item with ⟨first, complete, bytes, content⟩
    have split : (item :: items).flatMap padded = first.bytes ++ items.flatMap padded := by
      rw [bytes, List.flatMap_cons]
    refine ⟨first :: later, spells_cons_iff.mpr ⟨_, split, .inl complete, spells⟩, ?_⟩
    rw [List.map_cons, contents, content]

theorem parseAll_flatMap_padded (writable : ∀ item ∈ items, item.Writable) :
    parseAll (items.flatMap padded) = .ok items := by
  rcases exists_spells writable with ⟨spelled, spells, contents⟩
  rw [spells.parseAll_eq, contents]

end Attribute

theorem Drafting.runOn_bind {α β : Type} (first : Drafting α) (next : α → Drafting β)
    (draft : Draft) :
    (first >>= next).runOn draft = match first.runOn draft with
      | (.ok value, written) => (next value).runOn written
      | (.error error, written) => (.error error, written) := by
  simp only [Drafting.runOn, ExceptT.run_bind, StateT.run_bind]
  rcases StateT.run first.run draft with ⟨result, written⟩
  cases result <;> rfl

theorem Draft.length_header {draft : Draft}
    (small : Header.size + draft.body.length < 4294967296) :
    draft.header.length.toNat = draft.finish.length := by
  rw [length_finish]
  simp only [header, UInt32.toNat_ofNat']
  exact Nat.mod_eq_of_lt small

/-- A finished generic message is read back with its header, command and attributes. -/
theorem Message.parse_finish (draft : Draft) {command version low high : UInt8}
    {attributes : Bytes} (body : draft.body = command :: version :: low :: high :: attributes)
    (small : Header.size + draft.body.length < 4294967296) :
    Message.parse draft.finish = .ok ⟨draft.header, command, attributes⟩ := by
  have laid : Message.LaidOut ⟨draft.header, command, attributes⟩ draft.finish :=
    ⟨version, low, high, by rw [Draft.finish_eq, body]⟩
  rw [laid.parse_eq, if_pos (Draft.length_header small)]

namespace Draft

variable {draft : Draft} {kind : UInt16} {payload : Bytes} {items : List Attribute}

theorem runOn_attach_of_long (tooLong : Attribute.maxPayload < payload.length) :
    (attach kind payload).runOn draft = (.error (.attributeTooLarge payload.length), draft) := by
  unfold attach
  rw [if_pos tooLong]
  rfl

theorem runOn_attach_of_fits (fits : payload.length ≤ Attribute.maxPayload) :
    (attach kind payload).runOn draft
      = (.ok (), (draft.append (Attribute.write ⟨kind, payload⟩)).pad) := by
  unfold attach
  rw [if_neg (Nat.not_lt.mpr fits)]
  rfl

@[simp]
theorem bytes_append (draft : Draft) (bytes : Bytes) :
    (draft.append bytes).bytes = draft.bytes ++ bytes := by
  simp only [Draft.bytes, append, List.append_assoc]

/-- The next attribute would start at a multiple of four bytes. -/
def Aligned (draft : Draft) : Prop := 4 ∣ draft.bytes.length

theorem aligned_generic (kind flags : UInt16) (sequence port : UInt32) (command version : UInt8) :
    (generic kind flags sequence port command version).Aligned := by
  rw [Aligned, length_bytes]
  exact ⟨5, rfl⟩

theorem Aligned.append_padded (aligned : draft.Aligned) (item : Attribute) :
    (draft.append item.padded).Aligned := by
  rw [Aligned, bytes_append, List.length_append]
  exact Nat.dvd_add aligned item.four_dvd_length_padded

theorem Aligned.pad_append_write (aligned : draft.Aligned) (item : Attribute) :
    (draft.append item.write).pad = draft.append item.padded := by
  -- The writer rounds up the length of the draft, the reader that of the attribute.
  have zeros : align4 (draft.append item.write).bytes.length
      - (draft.append item.write).bytes.length = Attribute.paddingSize item.write.length := by
    rw [bytes_append, List.length_append, Attribute.align4_eq_add, Nat.add_sub_cancel_left]
    rw [Aligned] at aligned
    unfold Attribute.paddingSize
    omega
  rw [pad, zeros]
  simp only [append, Attribute.padded, List.append_assoc]

theorem Aligned.runOn_attach (aligned : draft.Aligned)
    (fits : payload.length ≤ Attribute.maxPayload) :
    (attach kind payload).runOn draft
      = (.ok (), draft.append (Attribute.padded ⟨kind, payload⟩)) := by
  rw [runOn_attach_of_fits fits, aligned.pad_append_write]

def attachAll (items : List Attribute) : Drafting Unit :=
  items.forM fun item => attach item.kind item.payload

theorem Aligned.runOn_attachAll (aligned : draft.Aligned)
    (fits : ∀ item ∈ items, item.payload.length ≤ Attribute.maxPayload) :
    (attachAll items).runOn draft
      = (.ok (), draft.append (items.flatMap Attribute.padded)) := by
  -- Each attribute leaves a draft that is aligned again, so the induction is over all of these.
  induction items generalizing draft with
  | nil =>
    rw [List.flatMap_nil, append, List.append_nil]
    rfl
  | cons item items ih =>
    rw [List.forall_mem_cons] at fits
    have attached : (attach item.kind item.payload).runOn draft
        = (.ok (), draft.append item.padded) := aligned.runOn_attach fits.1
    have goesOn := ih (aligned.append_padded item) fits.2
    rw [attachAll, List.forM_eq_forM, List.forM_cons, Drafting.runOn_bind, attached]
    rw [attachAll, List.forM_eq_forM] at goesOn
    dsimp only
    rw [goesOn]
    simp only [append, List.flatMap_cons, List.append_assoc]

/-- Attributes that are attached to a generic message are read back from it, behind the header and
the command that were chosen, and of each kind the last one is found. An attribute that is too long
is refused and leaves the draft as it was. -/
theorem attachAll_exact :
    (∀ (kind flags : UInt16) (sequence port : UInt32) (command version : UInt8)
        (items : List Attribute), (∀ item ∈ items, item.Writable) →
      Message.minSize + Attribute.sectionSize items < 2 ^ 32 →
      ∃ draft header attributes,
        (attachAll items).runOn (generic kind flags sequence port command version) = (.ok (), draft)
        ∧ draft.finish.length = Message.minSize + Attribute.sectionSize items
        ∧ Header.read? draft.finish = some header
        ∧ header.length.toNat = draft.finish.length
        ∧ header.kind = kind ∧ header.flags = flags
        ∧ header.sequence = sequence ∧ header.port = port
        ∧ Message.parse draft.finish = .ok ⟨header, command, attributes⟩
        ∧ Attribute.parseAll attributes = .ok items
        ∧ ∀ asked,
          (∀ payload, Attribute.find? asked items = some payload
            ↔ Attribute.LastOf asked payload items)
          ∧ (Attribute.find? asked items = none ↔ ∀ item ∈ items, item.kind ≠ asked))
    ∧ ∀ (draft : Draft) (kind : UInt16) (payload : Bytes),
      Attribute.maxPayload < payload.length →
        (attach kind payload).runOn draft
          = (.error (.attributeTooLarge payload.length), draft) := by
  refine ⟨?_, fun _ _ _ tooLong => runOn_attach_of_long tooLong⟩
  intro kind flags sequence port command version items writable total
  let draft := (generic kind flags sequence port command version).append
    (items.flatMap Attribute.padded)
  have attached := (aligned_generic kind flags sequence port command version).runOn_attachAll
    fun item itemMem => (writable item itemMem).length_le
  have size : draft.finish.length = Message.minSize + Attribute.sectionSize items := by
    simp only [length_finish, draft, append, generic, List.length_append, List.length_cons,
      List.length_nil, Attribute.length_flatMap_padded, Message.minSize]
    omega
  have small : Header.size + draft.body.length < 4294967296 := by
    rw [← length_finish, size]
    exact total
  have parsed : Message.parse draft.finish
      = .ok ⟨draft.header, command, items.flatMap Attribute.padded⟩ :=
    Message.parse_finish draft rfl small
  exact ⟨draft, draft.header, items.flatMap Attribute.padded, attached, size, read?_finish draft,
    length_header small, rfl, rfl, rfl, rfl, parsed, Attribute.parseAll_flatMap_padded writable,
    fun asked => ⟨fun payload => Attribute.find?_eq_some_iff, Attribute.find?_eq_none_iff⟩⟩

/-- Three attributes of one kind, two of them without payload, and one whose payload looks like
an attribute of that kind. -/
def echoes : List Attribute :=
  [⟨7, []⟩, ⟨0x3fff, [10, 0, 7, 0, 1, 2]⟩, ⟨7, [1, 2, 3]⟩, ⟨0, [4]⟩, ⟨7, []⟩]

theorem attachAll_exact_of_echoes :
    (∃ draft header attributes,
      (attachAll echoes).runOn (generic 31 5 0xffffffff 9 3 1) = (.ok (), draft)
      ∧ draft.finish.length = 56 ∧ header.length.toNat = 56 ∧ header.sequence = 0xffffffff
      ∧ Message.parse draft.finish = .ok ⟨header, 3, attributes⟩
      ∧ Attribute.parseAll attributes = .ok echoes
      ∧ Attribute.find? 7 echoes = some [] ∧ Attribute.find? 8 echoes = none)
    ∧ (attach 7 (List.replicate 65532 0)).runOn (generic 31 5 0xffffffff 9 3 1)
      = (.error (.attributeTooLarge 65532), generic 31 5 0xffffffff 9 3 1) := by
  constructor
  · have writable : ∀ item ∈ echoes, item.Writable := by
      simp only [echoes, List.forall_mem_cons]
      exact ⟨⟨by decide, by decide⟩, ⟨by decide, by decide⟩, ⟨by decide, by decide⟩,
        ⟨by decide, by decide⟩, ⟨by decide, by decide⟩, by simp⟩
    rcases attachAll_exact.1 31 5 0xffffffff 9 3 1 echoes writable (by decide) with
      ⟨draft, header, attributes, attached, size, -, declared, -, -, sequence, -, parsed, read,
        found⟩
    have length : draft.finish.length = 56 := size
    refine ⟨draft, header, attributes, attached, length, declared.trans length, sequence, parsed,
      read, ((found 7).1 []).mpr ?_, (found 8).2.mpr (by decide)⟩
    exact ⟨echoes.take 4, [], rfl, by simp⟩
  · have long := List.length_replicate (n := 65532) (a := (0 : UInt8))
    have refused := attachAll_exact.2 (generic 31 5 0xffffffff 9 3 1) 7 (List.replicate 65532 0)
    rw [long] at refused
    exact refused (by decide)

end Draft

end RadioRelay
