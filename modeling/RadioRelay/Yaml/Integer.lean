import RadioRelay.MacAddress
import RadioRelay.Yaml.Entries

/-!
# Integers

An integer is written in decimal without leading zeros, or after `0x`, `0o` or
`0b` in another base.
-/

namespace RadioRelay.Yaml

def numberBound : Nat := 18446744073709551616

/-- The number that one or more digits of a base stand for, if it is below the
bound. -/
def digits? (base : Nat) (digits : List Char) : Option Nat :=
  if digits.isEmpty then none
  else digits.foldlM (fun number digit => do
    let value ← hexValue? digit
    let number := base * number + value
    if value < base ∧ number < numberBound then some number else none) 0

def magnitude? : List Char → Option Nat
  | '0' :: 'x' :: digits => digits? 16 digits
  | '0' :: 'o' :: digits => digits? 8 digits
  | '0' :: 'b' :: digits => digits? 2 digits
  | '0' :: _ :: _ => none
  | digits => digits? 10 digits

/-- The number that a text stands for; a plus sign is allowed. -/
def natural? : List Char → Option Nat
  | '+' :: rest => magnitude? rest
  | chars => magnitude? chars

/-- The number that a text stands for; a sign is allowed. -/
def integer? : List Char → Option Int
  | '-' :: rest => (magnitude? rest).map fun number => -(number : Int)
  | chars => (natural? chars).map fun number => (number : Int)

namespace Scalar

def integerTag : String := "tag:yaml.org,2002:int"

/-- Whether a scalar may stand for an integer: it is plain, or it is literal and
marked as one. -/
def mayBeInteger (scalar : Scalar) : Bool :=
  scalar.style = .plain || (scalar.style = .literal && scalar.tag = some integerTag)

def int32? (scalar : Scalar) : Option Int := do
  if !scalar.mayBeInteger then none
  let number ← integer? scalar.text.toList
  if -2147483648 ≤ number ∧ number ≤ 2147483647 then return number else none

def word64? (scalar : Scalar) : Option Nat := do
  if !scalar.mayBeInteger then none
  natural? scalar.text.toList

end Scalar

end RadioRelay.Yaml
