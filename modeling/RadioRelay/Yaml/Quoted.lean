import RadioRelay.MacAddress
import RadioRelay.Yaml.Folding

/-!
# Quoted scalars

Between single quotes only the quote itself is special: it is written twice.
Between double quotes a backslash starts an escape, which may also join lines.
-/

namespace RadioRelay.Yaml.Quoted

def simpleEscape? : Char → Option Char
  | '0' => some '\x00'
  | 'a' => some '\x07'
  | 'b' => some '\x08'
  | 't' | '\t' => some '\t'
  | 'n' => some '\n'
  | 'v' => some '\x0b'
  | 'f' => some '\x0c'
  | 'r' => some '\r'
  | 'e' => some '\x1b'
  | ' ' => some ' '
  | '"' => some '"'
  | '/' => some '/'
  | '\\' => some '\\'
  | 'N' => some '\u0085'
  | '_' => some '\u00a0'
  | 'L' => some '\u2028'
  | 'P' => some '\u2029'
  | _ => none

def escapeLength? : Char → Option Nat
  | 'x' => some 2
  | 'u' => some 4
  | 'U' => some 8
  | _ => none

def hexNumber? (digits : List Char) : Option Nat :=
  digits.foldlM (fun number digit => (hexValue? digit).map (16 * number + ·)) 0

def escape? : Text → Option (Char × Text)
  | [] => none
  | letter :: rest =>
    match simpleEscape? letter.char, escapeLength? letter.char with
    | some char, _ => some (char, rest)
    | none, none => none
    | none, some length => do
      let digits := Text.chars (rest.take length)
      if digits.length < length then none
      let number ← hexNumber? digits
      if number.isValidChar then return (Char.ofNat number, rest.drop length) else none

/-- The word at the start of a text between single quotes, and the rest. -/
def singleWord : Text → List Char × Text
  | [] => ([], [])
  | next :: rest =>
    if isSpace next.char then ([], next :: rest)
    else if next.char = '\'' then
      match rest with
      | second :: after =>
        if second.char = '\'' then
          let (chars, rest) := singleWord after
          ('\'' :: chars, rest)
        else ([], next :: rest)
      | [] => ([], next :: rest)
    else
      let (chars, rest) := singleWord rest
      (next.char :: chars, rest)

/-- The word at the start of a text between double quotes, whether an escaped
line end follows it, and the rest. The bound is on the number of characters. -/
def doubleWord? : Nat → Text → Option (List Char × Bool × Text)
  | 0, text => some ([], false, text)
  | _, [] => some ([], false, [])
  | bound + 1, next :: rest =>
    if isSpace next.char ∨ next.char = '"' then some ([], false, next :: rest)
    else if next.char = '\\' then
      if Text.endsLine rest then some ([], true, rest.drop 1)
      else do
        let (char, rest) ← escape? rest
        let (chars, escaped, rest) ← doubleWord? bound rest
        return (char :: chars, escaped, rest)
    else do
      let (chars, escaped, rest) ← doubleWord? bound rest
      return (next.char :: chars, escaped, rest)

/-- The words up to the closing quote, put together, and the text after it. The
bound is on the number of words. -/
def words? (quote : Char) : Nat → Text → Option (List Char × Text)
  | 0, _ => none
  | bound + 1, text =>
    if text.atMarker ∨ text.isEmpty then none
    else do
      let (word, escaped, rest) ←
        if quote = '"' then doubleWord? text.size text
        else
          let (word, rest) := singleWord text
          some (word, false, rest)
      if rest.startsWith quote then return (word, rest.drop 1)
      let (gap, rest) ← Gap.take? 0 escaped rest
      let (more, rest) ← words? quote bound rest
      return (word ++ (if escaped then gap.breaks else gap.fold) ++ more, rest)

/-- The scalar after an opening quote, and the text after the closing one. -/
def scan? (quote : Char) (text : Text) : Option (List Char × Text) :=
  words? quote (text.size + 1) text

end RadioRelay.Yaml.Quoted
