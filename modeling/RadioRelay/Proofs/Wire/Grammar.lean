import Mathlib.Data.Nat.Bitwise
import Mathlib.Data.Set.Subsingleton
import RadioRelay.MacAddress
import RadioRelay.Wire.Attribute

/-!
# The grammar of attribute sections

An attribute section is a sequence of items. An item is a size, a kind, the
payload that the size announces, and padding up to a multiple of four bytes,
which only the last item may lack. The reader of sections accepts exactly the
bytes that are such a sequence. It reads every item, whatever its padding, and no
bytes are two different sequences. Of several attributes of one kind the last one
counts.
-/

namespace RadioRelay

theorem Bytes.ofWord16_inj {word other : UInt16} (same : ofWord16 word = ofWord16 other) :
    word = other := by
  simp only [ofWord16, List.cons.injEq, and_true] at same
  rw [← word16_ofNat word, ← word16_ofNat other, same.1, same.2]

namespace Attribute

theorem and_kindMask {kind : UInt16} (small : kind.toNat < 0x4000) : kind &&& kindMask = kind := by
  apply UInt16.toNat_inj.mp
  rw [UInt16.toNat_and]
  change kind.toNat &&& (2 ^ 14 - 1) = kind.toNat
  rw [Nat.and_two_pow_sub_one_eq_mod]
  exact Nat.mod_eq_of_lt small

/-- How a section is read that starts with a size and a kind. -/
theorem parseAll_header (size kind : UInt16) (rest : Bytes) :
    parseAll (Bytes.ofWord16 size ++ (Bytes.ofWord16 kind ++ rest)) =
      if size.toNat < headerSize ∨ (rest.take (size.toNat - headerSize)).length
        < size.toNat - headerSize then .error .malformed
      else (parseAll (rest.drop (align4 size.toNat - headerSize))).map
        (⟨kind &&& kindMask, rest.take (size.toNat - headerSize)⟩ :: ·) := by
  simp only [Bytes.ofWord16, List.cons_append, List.nil_append]
  rw [parseAll]
  simp only [Bytes.word16_ofNat]
  cases parseAll (rest.drop (align4 size.toNat - headerSize)) <;> rfl

/-- The number of bytes from the end of something to the next multiple of four. -/
def paddingSize (size : Nat) : Nat := (4 - size % 4) % 4

theorem align4_eq_add (size : Nat) : align4 size = size + paddingSize size := by
  unfold align4 paddingSize
  omega

/-- An attribute as it lies in a section. -/
structure Item where
  /-- The length of the header and the payload together. -/
  size : UInt16
  /-- The kind with its two flags. -/
  kind : UInt16
  payload : Bytes
  padding : Bytes
  size_eq : size.toNat = headerSize + payload.length
  padding_le : padding.length ≤ paddingSize size.toNat

namespace Item

def bytes (item : Item) : Bytes :=
  Bytes.ofWord16 item.size ++ (Bytes.ofWord16 item.kind ++ (item.payload ++ item.padding))

def content (item : Item) : Attribute := ⟨item.kind &&& kindMask, item.payload⟩

/-- Nothing of the padding is missing. -/
def Complete (item : Item) : Prop := 4 ∣ item.bytes.length

variable {item : Item} {rest : Bytes}

theorem length_bytes (item : Item) : item.bytes.length = item.size.toNat + item.padding.length := by
  rw [item.size_eq, headerSize]
  simp only [bytes, List.length_append, Bytes.length_ofWord16]
  omega

theorem complete_iff : item.Complete ↔ item.padding.length = paddingSize item.size.toNat := by
  have short := item.padding_le
  rw [Complete, length_bytes]
  unfold paddingSize at short ⊢
  omega

theorem bytes_ne_nil (item : Item) : item.bytes ≠ [] := by
  simp [bytes, Bytes.ofWord16]

theorem drop_padding (ends : item.Complete ∨ rest = []) :
    (item.padding ++ rest).drop (paddingSize item.size.toNat) = rest := by
  rcases ends with complete | rfl
  · exact List.drop_left' (complete_iff.mp complete)
  · rw [List.append_nil]
    exact List.drop_eq_nil_of_le item.padding_le

/-- An item is the first one that is read. -/
theorem parseAll_bytes_append (ends : item.Complete ∨ rest = []) :
    parseAll (item.bytes ++ rest) = (parseAll rest).map (item.content :: ·) := by
  have announced : item.size.toNat - headerSize = item.payload.length := by
    rw [item.size_eq]
    exact Nat.add_sub_cancel_left ..
  have skipped : align4 item.size.toNat - headerSize
      = item.payload.length + paddingSize item.size.toNat := by
    have size := item.size_eq
    rw [align4_eq_add]
    omega
  have payload : (item.payload ++ (item.padding ++ rest)).take item.payload.length
      = item.payload := List.take_left
  have behind : (item.payload ++ (item.padding ++ rest)).drop
      (item.payload.length + paddingSize item.size.toNat) = rest := by
    rw [← List.drop_drop, List.drop_left]
    exact drop_padding ends
  have fits : ¬(item.size.toNat < headerSize ∨ item.payload.length < item.payload.length) := by
    rw [item.size_eq]
    omega
  simp only [bytes, List.append_assoc]
  rw [parseAll_header, announced, skipped, payload, behind, if_neg fits]
  rfl

/-- Bytes start with at most one item that leaves room for the next one. -/
theorem bytes_append_inj {first second : Item} {rest other : Bytes}
    (same : first.bytes ++ rest = second.bytes ++ other) (ends : first.Complete ∨ rest = [])
    (endsToo : second.Complete ∨ other = []) : first = second ∧ rest = other := by
  simp only [bytes, List.append_assoc] at same
  rcases List.append_inj same rfl with ⟨sizes, same⟩
  rcases List.append_inj same rfl with ⟨kinds, same⟩
  have size := Bytes.ofWord16_inj sizes
  -- The size tells how long the payload is, and with it where the padding begins.
  have lengths : first.payload.length = second.payload.length := by
    have firstSize := first.size_eq
    have secondSize := second.size_eq
    rw [size] at firstSize
    omega
  rcases List.append_inj same lengths with ⟨payload, same⟩
  have rests : rest = other := by
    rw [← drop_padding ends, same, size, drop_padding endsToo]
  rw [rests] at same
  cases first
  cases second
  simp only [mk.injEq]
  exact ⟨⟨size, Bytes.ofWord16_inj kinds, payload, List.append_cancel_right same⟩, rests⟩

/-- An item is found wherever a header fits and announces no more than there is. -/
theorem exists_of_fits {size : UInt16} (kind : UInt16) (large : headerSize ≤ size.toNat)
    (fits : size.toNat - headerSize ≤ rest.length) :
    ∃ item : Item, (item.Complete ∨ rest.drop (align4 size.toNat - headerSize) = [])
      ∧ Bytes.ofWord16 size ++ (Bytes.ofWord16 kind ++ rest)
        = item.bytes ++ rest.drop (align4 size.toNat - headerSize) := by
  have skipped : align4 size.toNat - headerSize
      = (size.toNat - headerSize) + paddingSize size.toNat := by
    rw [align4_eq_add]
    omega
  have announced : size.toNat = headerSize + (rest.take (size.toNat - headerSize)).length := by
    rw [List.length_take]
    omega
  refine ⟨⟨size, kind, rest.take (size.toNat - headerSize),
    (rest.drop (size.toNat - headerSize)).take (paddingSize size.toNat), announced,
    List.length_take_le ..⟩, ?_, ?_⟩
  · rw [complete_iff, skipped, ← List.drop_drop, List.drop_eq_nil_iff]
    dsimp only
    rw [List.length_take]
    omega
  · simp only [bytes, List.append_assoc]
    rw [skipped, ← List.drop_drop, List.take_append_drop, List.take_append_drop]

end Item

/-- Bytes are items one after the other, of which only the last one may lack padding. -/
structure Spells (items : List Item) (bytes : Bytes) : Prop where
  bytes_eq : bytes = items.flatMap Item.bytes
  complete : ∀ item ∈ items.dropLast, item.Complete

variable {items : List Item} {bytes : Bytes} {attributes : List Attribute}

theorem spells_nil_iff : Spells [] bytes ↔ bytes = [] :=
  ⟨Spells.bytes_eq, fun empty => ⟨empty, by simp⟩⟩

theorem spells_cons_iff {item : Item} : Spells (item :: items) bytes ↔
    ∃ rest, bytes = item.bytes ++ rest ∧ (item.Complete ∨ rest = []) ∧ Spells items rest := by
  constructor
  · rintro ⟨rfl, complete⟩
    refine ⟨items.flatMap Item.bytes, rfl, ?_, rfl, ?_⟩
    · cases items with
      | nil => exact Or.inr rfl
      | cons next later => exact Or.inl (complete item (by simp))
    · intro other otherMem
      cases items with
      | nil => cases otherMem
      | cons next later => exact complete other (List.mem_cons_of_mem _ otherMem)
  · rintro ⟨_, rfl, ends, rfl, complete⟩
    refine ⟨rfl, ?_⟩
    cases items with
    | nil => simp
    | cons next later =>
      have goesOn : (next :: later).flatMap Item.bytes ≠ [] := by simp [Item.bytes_ne_nil]
      rw [List.dropLast_cons_cons, List.forall_mem_cons]
      exact ⟨ends.resolve_right goesOn, complete⟩

theorem Spells.parseAll_eq (spells : Spells items bytes) :
    parseAll bytes = .ok (items.map Item.content) := by
  induction items generalizing bytes with
  | nil =>
    rw [spells_nil_iff.mp spells, parseAll]
    rfl
  | cons item items ih =>
    rcases spells_cons_iff.mp spells with ⟨rest, rfl, ends, later⟩
    rw [Item.parseAll_bytes_append ends, ih later]
    rfl

/-- The items of a section are determined by its bytes. -/
theorem Spells.unique {other : List Item} (spells : Spells items bytes)
    (spellsToo : Spells other bytes) : items = other := by
  induction items generalizing bytes other with
  | nil =>
    rw [spells_nil_iff.mp spells] at spellsToo
    cases other with
    | nil => rfl
    | cons item later =>
      rcases spells_cons_iff.mp spellsToo with ⟨rest, empty, -⟩
      simp [item.bytes_ne_nil] at empty
  | cons item items ih =>
    rcases spells_cons_iff.mp spells with ⟨rest, rfl, ends, later⟩
    cases other with
    | nil => simp [spells_nil_iff, item.bytes_ne_nil] at spellsToo
    | cons next others =>
      rcases spells_cons_iff.mp spellsToo with ⟨_, same, endsToo, laterToo⟩
      rcases Item.bytes_append_inj same ends endsToo with ⟨rfl, rfl⟩
      rw [ih later laterToo]

/-- The reader gives up only on bytes that are no section. -/
theorem spells_or_malformed (bytes : Bytes) :
    (∃ items, Spells items bytes) ∨ parseAll bytes = .error .malformed := by
  -- Along the reader itself: where it goes on there is room for one more item.
  fun_induction parseAll bytes with
  | case1 => exact Or.inl ⟨[], spells_nil_iff.mpr rfl⟩
  | case2 => exact Or.inr rfl
  | case3 sizeLow sizeHigh kindLow kindHigh rest size payload fits later parsed ih =>
    left
    rcases ih with ⟨items, spells⟩ | failed
    · rw [List.length_take] at fits
      have large : headerSize ≤ (Bytes.word16 sizeLow sizeHigh).toNat := by omega
      have room : (Bytes.word16 sizeLow sizeHigh).toNat - headerSize ≤ rest.length := by omega
      obtain ⟨item, ends, found⟩ := Item.exists_of_fits (Bytes.word16 kindLow kindHigh) large room
      simp only [Bytes.ofWord16_word16, List.cons_append, List.nil_append] at found
      exact ⟨item :: items, spells_cons_iff.mpr ⟨_, found, ends, spells⟩⟩
    · rw [parsed] at failed
      cases failed
  | case4 sizeLow sizeHigh kindLow kindHigh rest size payload fits error refused ih =>
    right
    rcases ih with ⟨items, spells⟩ | failed
    · rw [spells.parseAll_eq] at refused
      cases refused
    · rw [← refused, failed]
  | case5 => exact Or.inr rfl

theorem exists_spells_of_parseAll (parsed : parseAll bytes = .ok attributes) :
    ∃ items, Spells items bytes ∧ items.map Item.content = attributes := by
  rcases spells_or_malformed bytes with ⟨items, spells⟩ | malformed
  · rw [spells.parseAll_eq] at parsed
    exact ⟨items, spells, Except.ok.inj parsed⟩
  · rw [malformed] at parsed
    cases parsed

/-- A section is read exactly if it is a sequence of items, of which only the last one may lack
padding. There is one such sequence, and what is read are its attributes in order. All other bytes
are malformed. -/
theorem parseAll_grammar (bytes : Bytes) :
    (∀ attributes, parseAll bytes = .ok attributes ↔
      ∃ items, Spells items bytes ∧ attributes = items.map Item.content)
    ∧ {items | Spells items bytes}.Subsingleton
    ∧ (parseAll bytes = .error .malformed ↔ ¬∃ items, Spells items bytes) := by
  refine ⟨?_, ?_, ?_⟩
  · intro attributes
    constructor
    · intro parsed
      rcases spells_or_malformed bytes with ⟨items, spells⟩ | malformed
      · rw [spells.parseAll_eq] at parsed
        exact ⟨items, spells, (Except.ok.inj parsed).symm⟩
      · rw [malformed] at parsed
        cases parsed
    · rintro ⟨items, spells, rfl⟩
      exact spells.parseAll_eq
  · intro items spells other spellsToo
    exact spells.unique spellsToo
  · constructor
    · rintro malformed ⟨items, spells⟩
      rw [spells.parseAll_eq] at malformed
      cases malformed
    · intro none
      exact (spells_or_malformed bytes).resolve_left none

/-- The flags of the first kind are not read, and the last item lacks two of its three bytes of
padding. -/
example : parseAll [8, 0, 1, 0xc0, 1, 2, 3, 4, 5, 0, 2, 0, 9, 0xff]
    = .ok [⟨1, [1, 2, 3, 4]⟩, ⟨2, [9]⟩] := by
  decide +kernel

/-! ### The last attribute of a kind -/

variable {kind : UInt16} {payload : Bytes} {mac : MacAddress}

def LastOf (kind : UInt16) (payload : Bytes) (attributes : List Attribute) : Prop :=
  ∃ earlier later, attributes = earlier ++ ⟨kind, payload⟩ :: later
    ∧ ∀ item ∈ later, item.kind ≠ kind

theorem find?_eq_some_iff : find? kind attributes = some payload
    ↔ LastOf kind payload attributes := by
  rw [find?, Option.map_eq_some_iff]
  constructor
  · rintro ⟨item, found, rfl⟩
    rcases List.find?_eq_some_iff_append.mp found with ⟨isKind, later, earlier, split, others⟩
    have isKind : item.kind = kind := by simpa using isKind
    refine ⟨earlier.reverse, later.reverse, ?_, ?_⟩
    · rw [← isKind, ← List.reverse_inj, split]
      simp
    · intro other otherMem
      simpa using others other (List.mem_reverse.mp otherMem)
  · rintro ⟨earlier, later, rfl, others⟩
    refine ⟨⟨kind, payload⟩, List.find?_eq_some_iff_append.mpr
      ⟨by simp, later.reverse, earlier.reverse, by simp, ?_⟩, rfl⟩
    intro other otherMem
    simpa using others other (List.mem_reverse.mp otherMem)

theorem find?_eq_none_iff : find? kind attributes = none
    ↔ ∀ item ∈ attributes, item.kind ≠ kind := by
  simp [find?]

theorem bind_ofBytes?_eq_some_iff : (find? kind attributes).bind MacAddress.ofBytes? = some mac
    ↔ LastOf kind mac.toBytes attributes := by
  rw [Option.bind_eq_some_iff, ← find?_eq_some_iff]
  constructor
  · rintro ⟨payload, found, read⟩
    rw [found, MacAddress.ofBytes?_eq_some_iff.mp read]
  · intro found
    exact ⟨mac.toBytes, found, MacAddress.ofBytes?_toBytes mac⟩

end Attribute

end RadioRelay
