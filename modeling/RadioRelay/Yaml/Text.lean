/-!
# Text with positions

Indentation carries meaning, so every character is kept with its line and
column. All line ends are brought to one form first.
-/

namespace RadioRelay.Yaml

/-- A character and where it stands, counted from zero. -/
structure Placed where
  char : Char
  line : Nat
  column : Nat
  /-- How many characters there are from this one to the end. -/
  left : Nat
  deriving DecidableEq, Repr

/-- A text in which every character knows its place. -/
abbrev Text := List Placed

/-- Whether a character may occur at all. Control characters may not. -/
def isAllowed (char : Char) : Bool :=
  let code := char.toNat
  char = '\t' || char = '\n' || char = '\r' || (0x20 ≤ code && code ≤ 0x7e) || code = 0x85
    || (0xa0 ≤ code && code ≤ 0xfffd) || 0x10000 ≤ code

def isBreak (char : Char) : Bool := char = '\n' || char = '\u2028' || char = '\u2029'

def isBlank (char : Char) : Bool := char = ' ' || char = '\t'

def isSpace (char : Char) : Bool := isBlank char || isBreak char

/-- Whether a mark of the byte order stands at the start of a line. Between
tokens it means nothing there, but it takes up the first column. -/
def Placed.isByteOrderMark (next : Placed) : Bool := next.column = 0 && next.char = '\ufeff'

/-- Whether a character may occur in the name of an anchor or a directive. -/
def isWordChar (char : Char) : Bool := char.isAlphanum || char = '_' || char = '-'

/-- Writes every common line end as a line feed. -/
def unifyBreaks : List Char → List Char
  | '\r' :: '\n' :: rest => '\n' :: unifyBreaks rest
  | char :: rest =>
    (if char = '\r' ∨ char = '\u0085' then '\n' else char) :: unifyBreaks rest
  | [] => []

def place (line column left : Nat) : List Char → Text
  | [] => []
  | char :: rest =>
    ⟨char, line, column, left⟩ ::
      if isBreak char then place (line + 1) 0 (left - 1) rest
      else place line (column + 1) (left - 1) rest

namespace Text

/-- Reads a text. Characters that are not allowed refuse the whole. -/
def ofString? (string : String) : Option Text :=
  let chars := unifyBreaks string.toList
  if string.toList.all isAllowed then some (place 0 0 chars.length chars) else none

def size : Text → Nat
  | [] => 0
  | next :: _ => next.left

def chars (text : Text) : List Char := text.map (·.char)

/-- The longest beginning of a text of a class of characters, and the rest. -/
def spanOf (class? : Char → Bool) (text : Text) : List Char × Text :=
  (chars (text.takeWhile fun next => class? next.char), text.dropWhile fun next => class? next.char)

def dropBlanks (text : Text) : Text := text.dropWhile fun next => isBlank next.char

def endsWord : Text → Bool
  | [] => true
  | next :: _ => isSpace next.char

def endsLine : Text → Bool
  | [] => true
  | next :: _ => isBreak next.char

def startsWith (char : Char) : Text → Bool
  | [] => false
  | next :: _ => next.char = char

/-- Whether three times a certain character at the start of a line, and nothing
else, comes next. -/
def isMarker (mark : Char) : Text → Bool
  | first :: second :: third :: rest =>
    first.column = 0 && first.char = mark && second.char = mark && third.char = mark
      && endsWord rest
  | _ => false

def atMarker (text : Text) : Bool := text.isMarker '-' || text.isMarker '.'

/-- Goes over the blanks and the comment up to the end of the line, which it
takes too. Anything else on the line is refused. -/
def finishLine? (text : Text) : Option Text :=
  let text := dropBlanks text
  let text := if startsWith '#' text then text.dropWhile (!isBreak ·.char) else text
  if endsLine text then some (text.drop 1) else none

end Text

end RadioRelay.Yaml
