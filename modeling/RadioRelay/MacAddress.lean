import RadioRelay.Bytes

/-!
# Hardware addresses

A 48-bit hardware address is the key by which frames are routed. Its text is
six groups of two hexadecimal digits, separated by colons.
-/

namespace RadioRelay

/-- Six octets, the first one transmitted first. -/
structure MacAddress where
  first : UInt8
  second : UInt8
  third : UInt8
  fourth : UInt8
  fifth : UInt8
  sixth : UInt8
  deriving DecidableEq, Repr

inductive MacTextError
  /-- The text does not have six groups. -/
  | format (text : String)
  /-- A group is not two hexadecimal digits. -/
  | octet (group : String)
  deriving DecidableEq, Repr

def MacTextError.message : MacTextError → String
  | .format text => s!"invalid MAC format: {text}"
  | .octet group => s!"invalid MAC octet: {group}"

def hexValue? (digit : Char) : Option Nat :=
  if '0' ≤ digit ∧ digit ≤ '9' then some (digit.toNat - 48)
  else if 'a' ≤ digit ∧ digit ≤ 'f' then some (digit.toNat - 87)
  else if 'A' ≤ digit ∧ digit ≤ 'F' then some (digit.toNat - 55)
  else none

def hexDigits (byte : UInt8) : List Char :=
  [Nat.digitChar (byte.toNat / 16), Nat.digitChar (byte.toNat % 16)]

def splitAt (separator : Char) : List Char → List (List Char)
  | [] => [[]]
  | char :: rest =>
    match splitAt separator rest with
    | [] => [[char]]
    | piece :: pieces =>
      if char = separator then [] :: piece :: pieces else (char :: piece) :: pieces

namespace MacAddress

def toBytes (mac : MacAddress) : Bytes :=
  [mac.first, mac.second, mac.third, mac.fourth, mac.fifth, mac.sixth]

/-- The address with the given octets; anything but six bytes is refused. -/
def ofBytes? : Bytes → Option MacAddress
  | [first, second, third, fourth, fifth, sixth] =>
    some ⟨first, second, third, fourth, fifth, sixth⟩
  | _ => none

def toChars (mac : MacAddress) : List Char :=
  [':'].intercalate (mac.toBytes.map hexDigits)

def toText (mac : MacAddress) : String := String.ofList mac.toChars

/-- The byte written as two hexadecimal digits. -/
def octet (group : List Char) : Except MacTextError UInt8 :=
  match group with
  | [high, low] =>
    match hexValue? high, hexValue? low with
    | some highValue, some lowValue => .ok (UInt8.ofNat (16 * highValue + lowValue))
    | _, _ => .error (.octet (String.ofList group))
  | _ => .error (.octet (String.ofList group))

/-- Reads the text of an address. The number of groups is judged first, then
each group from left to right. -/
def parse (text : String) : Except MacTextError MacAddress :=
  match splitAt ':' text.toList with
  | [first, second, third, fourth, fifth, sixth] => do
    return ⟨← octet first, ← octet second, ← octet third, ← octet fourth, ← octet fifth,
      ← octet sixth⟩
  | _ => .error (.format text)

/-- The order of addresses is the order of their octets, the first one first. -/
def order (left right : MacAddress) : Ordering :=
  compare (left.toBytes.map (·.toNat)) (right.toBytes.map (·.toNat))

@[simp]
theorem length_toBytes (mac : MacAddress) : mac.toBytes.length = 6 := rfl

@[simp]
theorem ofBytes?_toBytes (mac : MacAddress) : ofBytes? mac.toBytes = some mac := rfl

theorem ofBytes?_eq_some_iff {bytes : Bytes} {mac : MacAddress} :
    ofBytes? bytes = some mac ↔ bytes = mac.toBytes := by
  constructor
  · intro accepted
    unfold ofBytes? at accepted
    split at accepted
    · cases accepted
      rfl
    · contradiction
  · rintro rfl
    rfl

end MacAddress

end RadioRelay
