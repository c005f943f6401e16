/-!
# Sizes on the command line

A size is a decimal number of 64 bits. Leading zeros and a plus sign are
allowed.
-/

namespace RadioRelay.CommandLine

def sizeBound : Nat := 18446744073709551616

def ofDigits? (digits : List Char) : Option Nat :=
  digits.foldlM (fun number digit =>
    let number := 10 * number + (digit.toNat - 48)
    if number < sizeBound then some number else none) 0

def size? (text : String) : Option Nat :=
  let digits := match text.toList with
    | '+' :: rest => rest
    | chars => chars
  if digits.isEmpty ∨ !digits.all (·.isDigit) then none else ofDigits? digits

end RadioRelay.CommandLine
