import RadioRelay.Yaml.Text

/-!
# Block scalars

A block scalar is the indented lines below its header. The header tells whether
line ends are kept or folded, what becomes of the line ends at the end, and
possibly how far the lines are indented.
-/

namespace RadioRelay.Yaml.Block

/-- What becomes of the line ends after the last line with text. -/
inductive Chomping
  | strip
  /-- One of them is kept. -/
  | clip
  | keep
  deriving DecidableEq, Repr

structure BlockHeader where
  chomping : Chomping
  /-- By how much the lines are indented more than what is around. -/
  increment : Option Nat
  deriving DecidableEq, Repr

def chomping? : Text → Option (Chomping × Text)
  | [] => none
  | next :: rest =>
    if next.char = '+' then some (.keep, rest)
    else if next.char = '-' then some (.strip, rest)
    else none

/-- The indentation indicator at the start of a text, if there is one. Zero is
refused. -/
def increment? : Text → Option (Option Nat × Text)
  | [] => some (none, [])
  | next :: rest =>
    if next.char = '0' then none
    else if next.char.isDigit then some (some (next.char.toNat - 48), rest)
    else some (none, next :: rest)

/-- The header after its first indicator. The other two come in either order. -/
def header? (text : Text) : Option (BlockHeader × Text) := do
  match chomping? text with
  | some (chomping, rest) =>
    let (increment, rest) ← increment? rest
    return (⟨chomping, increment⟩, ← rest.finishLine?)
  | none =>
    let (increment, rest) ← increment? text
    let (chomping, rest) := match increment, chomping? rest with
      | some _, some found => found
      | _, _ => (.clip, rest)
    return (⟨chomping, increment⟩, ← rest.finishLine?)

/-- The text without the spaces to the left of a column. Without a column all
spaces go. -/
def dropIndentation (column : Option Nat) : Text → Text
  | [] => []
  | next :: rest =>
    if next.char = ' ' ∧ column.all (next.column < ·) then dropIndentation column rest
    else next :: rest

/-- The line ends of the empty lines at the start of a text, the deepest
indentation met, and the rest. The bound is on the number of lines. -/
def emptyLines? (column : Option Nat) :
    Nat → Nat → Text → Option (List Char × Nat × Text)
  | 0, deepest, text => some ([], deepest, text)
  | bound + 1, deepest, text =>
    match dropIndentation column text with
    | [] => some ([], deepest, [])
    | next :: rest =>
      let deepest := max deepest next.column
      if next.char = '\t' ∧ column.all (next.column < ·) then none
      else if isBreak next.char then do
        let (breaks, deepest, rest) ← emptyLines? column bound deepest rest
        return (next.char :: breaks, deepest, rest)
      else some ([], deepest, next :: rest)

/-- The end of a block: the text before it, the line end after that text, and
those of the empty lines that follow. -/
structure Scanned where
  chars : List Char
  lastBreak : List Char
  trailing : List Char
  rest : Text

/-- What stands between two lines: the line ends, folded unless one of the
lines starts with a blank. -/
def joint (isLiteral blankAround : Bool) (lineBreak trailing : List Char) : List Char :=
  if !isLiteral && lineBreak = ['\n'] && !blankAround then
    if trailing.isEmpty then [' '] else trailing
  else lineBreak ++ trailing

/-- The lines of a block that starts at a column. What came before is told by
the line end, those of the empty lines after it, and whether the line started
with a blank. The bound is on the number of lines. -/
def lines? (isLiteral : Bool) (column : Nat) :
    Nat → List Char → List Char → Bool → Text → Option Scanned
  | 0, lineBreak, trailing, _, text => some ⟨[], lineBreak, trailing, text⟩
  | _, lineBreak, trailing, _, [] => some ⟨[], lineBreak, trailing, []⟩
  | bound + 1, lineBreak, trailing, blankBefore, next :: rest =>
    if next.column ≠ column then some ⟨[], lineBreak, trailing, next :: rest⟩
    else do
      let blank := isBlank next.char
      let (line, rest) := Text.spanOf (!isBreak ·) (next :: rest)
      let lineBreak' := Text.chars (rest.take 1)
      let (trailing', _, rest) ←
        emptyLines? (some column) (Text.size rest + 1) 0 (rest.drop 1)
      let scanned ← lines? isLiteral column bound lineBreak' trailing' blank rest
      return { scanned with
        chars := joint isLiteral (blankBefore || blank) lineBreak trailing ++ line
          ++ scanned.chars }

def Scanned.chomp (scanned : Scanned) : Chomping → List Char
  | .strip => scanned.chars
  | .clip => scanned.chars ++ scanned.lastBreak
  | .keep => scanned.chars ++ scanned.lastBreak ++ scanned.trailing

/-- The block after its first indicator, and the text after it. `indent` is the
column of what is around, or negative. -/
def scan? (isLiteral : Bool) (indent : Int) (text : Text) : Option (List Char × Text) := do
  let (header, text) ← header? text
  let column := header.increment.map fun increment => (max indent 0).toNat + increment
  let (breaks, deepest, text) ← emptyLines? column (text.size + 1) 0 text
  let column := column.getD (max (max deepest (indent + 1).toNat) 1)
  let scanned ← lines? isLiteral column (text.size + 1) [] breaks false text
  return (scanned.chomp header.chomping, scanned.rest)

end RadioRelay.Yaml.Block
