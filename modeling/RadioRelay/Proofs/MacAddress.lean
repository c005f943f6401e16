import Mathlib.Data.List.Forall2
import Mathlib.Tactic.IntervalCases
import RadioRelay.MacAddress

/-!
# The text of hardware addresses

An address is written as six groups of two hexadecimal digits with single colons between them.
Texts of this form, and no others, are read (`MacAddress.parse_exact`). They differ from the text of
the address at most in the case of their letters, so no two addresses have the same text.
-/

namespace RadioRelay

def hexAlphabet : List Char := "0123456789abcdefABCDEF".toList

/-- Six groups of two hexadecimal digits, with a colon between one group and the next. -/
def MacAddress.Spelled (text : String) : Prop :=
  ∃ groups : List (List Char), groups.length = 6
    ∧ (∀ group ∈ groups, group.length = 2 ∧ ∀ digit ∈ group, digit ∈ hexAlphabet)
    ∧ text.toList = [':'].intercalate groups

/-! ### Digits -/

/-- Every digit has a value below sixteen, and that value is written as the digit in lower case. -/
theorem hexValue?_of_mem {digit : Char} (known : digit ∈ hexAlphabet) :
    ∃ value < 16, hexValue? digit = some value ∧ Nat.digitChar value = digit.toLower := by
  have each : hexAlphabet.all fun digit => (hexValue? digit).any fun value =>
      value < 16 ∧ Nat.digitChar value = digit.toLower := by decide
  have here := List.all_eq_true.mp each digit known
  cases valued : hexValue? digit with
  | none =>
    rw [valued] at here
    cases here
  | some value =>
    rw [valued] at here
    rcases of_decide_eq_true here with ⟨small, written⟩
    exact ⟨value, small, rfl, written⟩

theorem mem_of_hexValue? {digit : Char} {value : Nat} (valued : hexValue? digit = some value) :
    digit ∈ hexAlphabet := by
  have each : ∀ code ≤ 'f'.toNat, (hexValue? (Char.ofNat code)).isSome →
      Char.ofNat code ∈ hexAlphabet := by decide
  have last : digit ≤ 'f' := by
    unfold hexValue? at valued
    split_ifs at valued with decimal lower upper
    · exact Char.le_trans decimal.2 (by decide)
    · exact lower.2
    · exact Char.le_trans upper.2 (by decide)
  have here := each digit.toNat last
  rw [Char.ofNat_toNat, valued] at here
  exact here rfl

theorem hexValue?_digitChar {value : Nat} (small : value < 16) :
    hexValue? (Nat.digitChar value) = some value := by
  interval_cases value <;> rfl

/-! ### Groups -/

theorem splitAt_eq_splitOn (separator : Char) (text : List Char) :
    splitAt separator text = text.splitOn separator := by
  induction text with
  | nil => rw [List.splitOn_nil]; rfl
  | cons char rest ih =>
    rw [splitAt, ih, List.splitOn_cons_eq_if_modifyHead]
    cases pieces : rest.splitOn separator with
    | nil => exact absurd pieces (List.splitOn_ne_nil _ _)
    | cons piece pieces => simp

namespace MacAddress

variable {mac : MacAddress} {text : String} {group : List Char} {byte : UInt8}

theorem octet_hexDigits (byte : UInt8) : octet (hexDigits byte) = .ok byte := by
  have bound := byte.toNat_lt
  have whole : 16 * (byte.toNat / 16) + byte.toNat % 16 = byte.toNat := by omega
  simp only [hexDigits, octet, hexValue?_digitChar (by omega : byte.toNat / 16 < 16),
    hexValue?_digitChar (by omega : byte.toNat % 16 < 16), whole, UInt8.ofNat_toNat]

/-- Two digits are read as the byte that is written like them but for the case of letters. -/
theorem octet_of_digits (two : group.length = 2) (known : ∀ digit ∈ group, digit ∈ hexAlphabet) :
    ∃ byte, octet group = .ok byte ∧ hexDigits byte = group.map Char.toLower := by
  rcases List.length_eq_two.mp two with ⟨high, low, rfl⟩
  rw [List.forall_mem_cons, List.forall_mem_singleton] at known
  rcases hexValue?_of_mem known.1 with ⟨highValue, highSmall, highValued, highWritten⟩
  rcases hexValue?_of_mem known.2 with ⟨lowValue, lowSmall, lowValued, lowWritten⟩
  have value : (UInt8.ofNat (16 * highValue + lowValue)).toNat = 16 * highValue + lowValue :=
    UInt8.toNat_ofNat_of_lt' (by change _ < 256; omega)
  refine ⟨UInt8.ofNat (16 * highValue + lowValue), ?_, ?_⟩
  · simp only [octet, highValued, lowValued]
  · have highPart : (16 * highValue + lowValue) / 16 = highValue := by omega
    have lowPart : (16 * highValue + lowValue) % 16 = lowValue := by omega
    simp only [hexDigits, value, highPart, lowPart, highWritten, lowWritten, List.map_cons,
      List.map_nil]

theorem digits_of_octet (read : octet group = .ok byte) :
    group.length = 2 ∧ ∀ digit ∈ group, digit ∈ hexAlphabet := by
  unfold octet at read
  split at read
  · split at read
    next highValued lowValued =>
      rw [List.forall_mem_cons, List.forall_mem_singleton]
      exact ⟨rfl, mem_of_hexValue? highValued, mem_of_hexValue? lowValued⟩
    next => cases read
  · cases read

/-! ### Whole texts -/

theorem bind_eq_ok {α β : Type} {first : Except MacTextError α} {second : α → Except MacTextError β}
    {result : β} :
    first >>= second = .ok result ↔ ∃ value, first = .ok value ∧ second value = .ok result := by
  cases first with
  | error error => simp [bind, Except.bind]
  | ok value => simp [bind, Except.bind]

theorem exists_toBytes {bytes : Bytes} (six : bytes.length = 6) :
    ∃ mac : MacAddress, mac.toBytes = bytes := by
  rcases bytes with _ | ⟨first, _ | ⟨second, _ | ⟨third, _ | ⟨fourth, _ | ⟨fifth, _ | ⟨sixth,
    rest⟩⟩⟩⟩⟩⟩
  all_goals simp at six
  subst six
  exact ⟨⟨first, second, third, fourth, fifth, sixth⟩, rfl⟩

/-- A text is read group by group. -/
theorem parse_eq_ok_iff :
    parse text = .ok mac ↔
      List.Forall₂ (fun group byte => octet group = .ok byte) (text.toList.splitOn ':')
        mac.toBytes := by
  unfold parse
  rw [splitAt_eq_splitOn]
  split
  next first second third fourth fifth sixth split =>
    rw [split]
    rcases mac with ⟨_, _, _, _, _, _⟩
    simp only [bind_eq_ok, pure, Except.pure, Except.ok.injEq, MacAddress.mk.injEq, toBytes,
      List.forall₂_cons, List.Forall₂.nil, and_true]
    constructor
    · rintro ⟨_, h1, _, h2, _, h3, _, h4, _, h5, _, h6, rfl, rfl, rfl, rfl, rfl, rfl⟩
      exact ⟨h1, h2, h3, h4, h5, h6⟩
    · rintro ⟨h1, h2, h3, h4, h5, h6⟩
      exact ⟨_, h1, _, h2, _, h3, _, h4, _, h5, _, h6, rfl, rfl, rfl, rfl, rfl, rfl⟩
  next other =>
    constructor
    · intro read
      cases read
    · intro read
      simp only [toBytes, List.forall₂_cons_right_iff, List.forall₂_nil_right_iff] at read
      rcases read with ⟨_, _, -, ⟨_, _, -, ⟨_, _, -, ⟨_, _, -, ⟨_, _, -, ⟨_, _, -, rfl, rfl⟩, rfl⟩,
        rfl⟩, rfl⟩, rfl⟩, six⟩
      exact absurd six (other _ _ _ _ _ _)

theorem map_intercalate {α β : Type} (change : α → β) (separator : α) (pieces : List (List α)) :
    ([separator].intercalate pieces).map change
      = [change separator].intercalate (pieces.map (List.map change)) := by
  induction pieces with
  | nil => rfl
  | cons piece pieces ih =>
    cases pieces with
    | nil => simp
    | cons next pieces => simp [ih]

/-- Groups of two digits are read as bytes that are written like them but for the case of
letters. -/
theorem exists_octets {groups : List (List Char)}
    (digits : ∀ group ∈ groups, group.length = 2 ∧ ∀ digit ∈ group, digit ∈ hexAlphabet) :
    ∃ bytes, List.Forall₂ (fun group byte => octet group = .ok byte) groups bytes
      ∧ bytes.map hexDigits = groups.map (List.map Char.toLower) := by
  induction groups with
  | nil => exact ⟨[], .nil, rfl⟩
  | cons group groups ih =>
    rw [List.forall_mem_cons] at digits
    rcases octet_of_digits digits.1.1 digits.1.2 with ⟨byte, read, written⟩
    rcases ih digits.2 with ⟨bytes, reads, rest⟩
    exact ⟨byte :: bytes, .cons read reads, congrArg₂ List.cons written rest⟩

theorem parse_of_spelled (spelled : Spelled text) :
    ∃ mac, parse text = .ok mac ∧ mac.toText = text.toLower := by
  rcases spelled with ⟨groups, six, digits, written⟩
  rcases exists_octets digits with ⟨bytes, reads, lowered⟩
  rcases exists_toBytes (reads.length_eq.symm.trans six) with ⟨mac, rfl⟩
  have split : text.toList.splitOn ':' = groups := by
    rw [written]
    apply List.splitOn_intercalate
    · intro group groupMem colon
      have known := (digits group groupMem).2 ':' colon
      revert known
      decide
    · rintro rfl
      cases six
  have lower : text.toLower.toList = text.toList.map Char.toLower := String.toList_map
  refine ⟨mac, parse_eq_ok_iff.mpr (split ▸ reads), ?_⟩
  rw [← String.toList_inj, toText, String.toList_ofList, lower, written, map_intercalate, toChars,
    lowered]
  rfl

theorem spelled_of_parse (read : parse text = .ok mac) : Spelled text := by
  have reads := parse_eq_ok_iff.mp read
  refine ⟨text.toList.splitOn ':', reads.length_eq, ?_, (List.intercalate_splitOn ':').symm⟩
  intro group groupMem
  rcases List.mem_iff_getElem.mp groupMem with ⟨index, inside, rfl⟩
  exact digits_of_octet (reads.get inside (reads.length_eq ▸ inside))

theorem parse_toText (mac : MacAddress) : parse mac.toText = .ok mac := by
  have separate : ∀ group ∈ mac.toBytes.map hexDigits, ':' ∉ group := by
    rw [List.forall_mem_map]
    intro byte _ colon
    have read := digits_of_octet (octet_hexDigits byte)
    have known := read.2 ':' colon
    revert known
    decide
  rw [parse_eq_ok_iff, toText, String.toList_ofList, toChars,
    List.splitOn_intercalate ':' separate (by simp [toBytes]), List.forall₂_map_left_iff,
    List.forall₂_same]
  exact fun byte _ => octet_hexDigits byte

theorem toText_inj {first second : MacAddress} : first.toText = second.toText ↔ first = second := by
  constructor
  · intro same
    have read := first.parse_toText
    rw [same, second.parse_toText] at read
    exact (Except.ok.inj read).symm
  · rintro rfl
    rfl

/-- A text is the text of an address exactly if it is six groups of two hexadecimal digits with
single colons between them. The address is then written like it but for the case of letters, the
text of every address is read as that address, and no two addresses have the same text. -/
theorem parse_exact :
    (∀ text, (∃ mac, parse text = .ok mac) ↔ Spelled text)
      ∧ (∀ text mac, parse text = .ok mac ↔ Spelled text ∧ mac.toText = text.toLower)
      ∧ (∀ mac : MacAddress, parse mac.toText = .ok mac)
      ∧ ∀ first second : MacAddress, first.toText = second.toText ↔ first = second := by
  refine ⟨?_, ?_, parse_toText, fun _ _ => toText_inj⟩
  · intro text
    constructor
    · rintro ⟨mac, read⟩
      exact spelled_of_parse read
    · intro spelled
      rcases parse_of_spelled spelled with ⟨mac, read, -⟩
      exact ⟨mac, read⟩
  · intro text mac
    constructor
    · intro read
      have spelled := spelled_of_parse read
      rcases parse_of_spelled spelled with ⟨other, readAgain, written⟩
      rw [read] at readAgain
      cases readAgain
      exact ⟨spelled, written⟩
    · rintro ⟨spelled, written⟩
      rcases parse_of_spelled spelled with ⟨other, read, writtenAlike⟩
      rw [← written, toText_inj] at writtenAlike
      rw [read, writtenAlike]

example : parse "AA:bb:CC:dd:EE:ff" = .ok ⟨0xaa, 0xbb, 0xcc, 0xdd, 0xee, 0xff⟩ := by decide

example : parse "+a:bb:cc:dd:ee:ff" = .error (.octet "+a") := by decide

end MacAddress

end RadioRelay
