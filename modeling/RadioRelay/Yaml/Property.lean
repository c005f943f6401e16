import RadioRelay.MacAddress
import RadioRelay.Yaml.Text
import RadioRelay.Yaml.Token

/-!
# Directives, anchors and tags

The parts that say something about a document or a node and are not its
content.
-/

namespace RadioRelay.Yaml.Property

def isTagChar (char : Char) : Bool :=
  isWordChar char || char ∈ [';', '/', '?', ':', '@', '&', '=', '+', '$', '.', '!', '~', '*',
    '\'', '(', ')']

/-- Whether a character may occur in a tag that is written out in full. -/
def isUriChar (char : Char) : Bool := isTagChar char || char ∈ [',', '[', ']']

/-- The byte of an escape: a percent sign and two hexadecimal digits. -/
def escapedByte? : Text → Option (UInt8 × Text)
  | mark :: high :: low :: rest => do
    if mark.char ≠ '%' then none
    return (UInt8.ofNat (16 * (← hexValue? high.char) + (← hexValue? low.char)), rest)
  | _ => none

/-- The bytes of so many escapes that go on with a character. -/
def escapedTail? : Nat → Text → Option (Bytes × Text)
  | 0, text => some ([], text)
  | count + 1, text => do
    let (byte, rest) ← escapedByte? text
    if byte.toNat / 64 ≠ 2 then none
    let (bytes, rest) ← escapedTail? count rest
    return (byte :: bytes, rest)

/-- How many bytes of a character come after its first one. -/
def tailLength? (lead : UInt8) : Option Nat :=
  if lead < 0x80 then some 0
  else if 0xc0 ≤ lead ∧ lead < 0xe0 then some 1
  else if 0xe0 ≤ lead ∧ lead < 0xf0 then some 2
  else if 0xf0 ≤ lead ∧ lead < 0xf8 then some 3
  else none

/-- The character whose bytes are written as escapes. Bytes that look like a
character and are none stand for the replacement character. -/
def escapedChar? (text : Text) : Option (List Char × Text) := do
  let (lead, rest) ← escapedByte? text
  let (tail, rest) ← escapedTail? (← tailLength? lead) rest
  let string := String.fromUTF8? ⟨(lead :: tail).toArray⟩
  return ((string.map (·.toList)).getD ['\ufffd'], rest)

/-- The longest beginning of a text of a class of characters and of escapes, and
the rest. The bound is on the number of characters. -/
def uriWithin? (class? : Char → Bool) : Nat → Text → Option (List Char × Text)
  | 0, text => some ([], text)
  | _, [] => some ([], [])
  | bound + 1, next :: rest => do
    if next.char = '%' then
      let (chars, rest) ← escapedChar? (next :: rest)
      let (more, rest) ← uriWithin? class? bound rest
      return (chars ++ more, rest)
    else if class? next.char then
      let (more, rest) ← uriWithin? class? bound rest
      return (next.char :: more, rest)
    else some ([], next :: rest)

/-- The longest beginning of a text of a class of characters and of escapes, and
the rest. -/
def uri? (class? : Char → Bool) (text : Text) : Option (List Char × Text) :=
  uriWithin? class? text.size text

def endsName : Text → Bool
  | [] => true
  | next :: _ => isSpace next.char || next.char ∈ ['?', ':', ',', ']', '}', '%', '@', '`']

/-- The name of an anchor or an alias after its indicator. -/
def name? (text : Text) : Option (String × Text) :=
  let (name, rest) := text.spanOf isWordChar
  if name.isEmpty ∨ !endsName rest then none else some (String.ofList name, rest)

/-- The handle of a tag after its first exclamation mark: what there is up to
the second one, and whether there is a second one. -/
def handle (text : Text) : List Char × Bool × Text :=
  let (name, rest) := text.spanOf isWordChar
  if rest.startsWith '!' then ('!' :: name ++ ['!'], true, rest.drop 1)
  else ('!' :: name, false, rest)

def endsTag (inFlow : Bool) (text : Text) : Bool :=
  text.endsWord || (inFlow && text.startsWith ',')

/-- What a tag says of what is written in it: a zero character ends it. -/
def upToZero (chars : List Char) : String := String.ofList (chars.takeWhile (· ≠ '\x00'))

def tag? (inFlow : Bool) (text : Text) : Option (Token × Text) := do
  let (token, rest) ←
    if text.startsWith '<' then do
      let (uri, rest) ← uri? isUriChar (text.drop 1)
      if uri.isEmpty ∨ !rest.startsWith '>' then none
      some (Token.tag "" (upToZero uri), rest.drop 1)
    else do
      let (name, closed, rest) := handle text
      let (suffix, rest) ← uri? isTagChar rest
      if closed then
        if suffix.isEmpty then none
        some (Token.tag (String.ofList name) (upToZero suffix), rest)
      else
        let suffix := upToZero (name.drop 1 ++ suffix)
        if suffix.isEmpty then some (Token.tag "" "!", rest)
        else some (Token.tag "!" suffix, rest)
  if endsTag inFlow rest then return (token, rest) else none

def number? (text : Text) : Option (Nat × Text) :=
  let (digits, rest) := text.spanOf (·.isDigit)
  if digits.isEmpty ∨ 9 < digits.length then none
  else some (digits.foldl (fun number digit => 10 * number + (digit.toNat - 48)) 0, rest)

def version? (text : Text) : Option (Token × Text) := do
  let (major, rest) ← number? text.dropBlanks
  if !rest.startsWith '.' then none
  let (minor, rest) ← number? (rest.drop 1)
  return (.version major minor, rest)

def tagHandle? (text : Text) : Option (Token × Text) := do
  let text := text.dropBlanks
  if !text.startsWith '!' then none
  let (name, closed, rest) := handle (text.drop 1)
  if (!closed && name ≠ ['!']) || !(rest.head?.any fun next => isBlank next.char) then none
  let (start, rest) ← uri? isUriChar rest.dropBlanks
  if start.isEmpty ∨ !rest.endsWord then none
  return (.tagHandle (String.ofList name) (upToZero start), rest)

/-- The directive after its percent sign, up to the end of the line. -/
def directive? (text : Text) : Option (Token × Text) := do
  let (name, rest) := text.spanOf isWordChar
  if !rest.endsWord then none
  let (token, rest) ←
    if name = "YAML".toList then version? rest
    else if name = "TAG".toList then tagHandle? rest
    else none
  return (token, ← rest.finishLine?)

end RadioRelay.Yaml.Property
