import RadioRelay.Yaml.Block
import RadioRelay.Yaml.Plain
import RadioRelay.Yaml.Property
import RadioRelay.Yaml.Quoted

/-!
# From text to tokens

Whether a scalar is a key shows only when its colon comes. Until then the place
where the key would begin is remembered, one for every level of brackets; a
colon puts the token of the key, and that of the mapping if it is a new one, at
that place. A key has to fit on one line.
-/

namespace RadioRelay.Yaml

/-- A place at which a key may turn out to begin. -/
structure KeyPlace where
  /-- How many tokens come before it. -/
  tokens : Nat
  line : Nat
  column : Nat
  /-- Whether nothing but a key can begin there. -/
  isRequired : Bool
  deriving DecidableEq, Repr

structure Lexer where
  rest : Text
  /-- The tokens so far, the latest first. -/
  tokens : List Token
  count : Nat
  /-- The columns of the open block collections, the innermost first, below
  them a negative one. -/
  indents : List Int
  /-- Where a key may begin, for every level of brackets, the innermost first. -/
  keys : List (Option KeyPlace)
  keyAllowed : Bool

namespace Lexer

def maxKeyLength : Nat := 1024

def maxDepth : Nat := 128

def start (text : Text) : Lexer where
  rest := text
  tokens := []
  count := 0
  indents := [-1]
  keys := [none]
  keyAllowed := true

def inFlow (lexer : Lexer) : Bool :=
  match lexer.keys with
  | _ :: _ :: _ => true
  | _ => false

def indent (lexer : Lexer) : Int := lexer.indents.head?.getD (-1)

def emit (lexer : Lexer) (token : Token) : Lexer :=
  { lexer with tokens := token :: lexer.tokens, count := lexer.count + 1 }

def take (lexer : Lexer) (token : Token) (rest : Text) : Lexer :=
  { lexer.emit token with rest := rest }

/-- Adds a token so that a given number of tokens comes before it. -/
def emitAfter (lexer : Lexer) (count : Nat) (token : Token) : Lexer :=
  let later := lexer.count - count
  { lexer with
    tokens := lexer.tokens.take later ++ token :: lexer.tokens.drop later
    count := lexer.count + 1 }

/-- Goes over blanks, line ends, comments and marks of the byte order. A new
line outside brackets allows a key. -/
def skip (inFlow : Bool) : (inComment keyAllowed : Bool) → Text → Bool × Text
  | _, keyAllowed, [] => (keyAllowed, [])
  | inComment, keyAllowed, next :: rest =>
    if isBreak next.char then skip inFlow false (keyAllowed || !inFlow) rest
    else if inComment then skip inFlow true keyAllowed rest
    else if next.isByteOrderMark ∨ next.char = ' '
        ∨ (next.char = '\t' ∧ (inFlow ∨ !keyAllowed)) then
      skip inFlow false keyAllowed rest
    else if next.char = '#' then skip inFlow true keyAllowed rest
    else (keyAllowed, next :: rest)

/-- Gives up the places of keys that did not come in time. A required one must
not be given up. -/
def dropStaleKeys? (lexer : Lexer) (next : Placed) : Option Lexer := do
  let keys ← lexer.keys.mapM fun key? =>
    match key? with
    | none => some none
    | some key =>
      if key.line < next.line ∨ key.column + maxKeyLength < next.column then
        if key.isRequired then none else some none
      else some (some key)
  return { lexer with keys := keys }

/-- Gives up the innermost place of a key, unless it is required. -/
def dropKey? (lexer : Lexer) : Option Lexer :=
  if lexer.keys.head?.join.any (·.isRequired) then none
  else some { lexer with keys := none :: lexer.keys.drop 1 }

/-- Remembers that a key may begin here, if one is allowed. -/
def markKey? (lexer : Lexer) (next : Placed) : Option Lexer :=
  if lexer.keyAllowed then do
    let lexer ← lexer.dropKey?
    let key : KeyPlace := ⟨lexer.count, next.line, next.column,
      !lexer.inFlow && lexer.indent = next.column⟩
    return { lexer with keys := some key :: lexer.keys.drop 1 }
  else some lexer

def allowKey (lexer : Lexer) (allowed : Bool) : Lexer := { lexer with keyAllowed := allowed }

/-- Opens a block collection at a column, unless one is open there. Its token
comes after a given number of tokens. -/
def openBlock (lexer : Lexer) (column count : Nat) (token : Token) : Lexer :=
  if !lexer.inFlow ∧ lexer.indent < column then
    { lexer.emitAfter count token with indents := column :: lexer.indents }
  else lexer

/-- Closes the block collections to the right of a column. -/
def closeTo (lexer : Lexer) (column : Int) : Lexer :=
  if lexer.inFlow then lexer
  else
    let closed := (lexer.indents.takeWhile (column < ·)).length
    { lexer with
      indents := lexer.indents.drop closed
      tokens := List.replicate closed .blockEnd ++ lexer.tokens
      count := lexer.count + closed }

/-- Takes the beginning of a bracket, unless there are too many levels. -/
def openFlow? (lexer : Lexer) (next : Placed) (token : Token) (rest : Text) :
    Option Lexer := do
  if maxDepth < lexer.keys.length then none
  let lexer ← lexer.markKey? next
  return { lexer.take token rest with keys := none :: lexer.keys, keyAllowed := true }

def closeFlow? (lexer : Lexer) (token : Token) (rest : Text) : Option Lexer := do
  let lexer ← lexer.dropKey?
  let keys := if lexer.inFlow then lexer.keys.drop 1 else lexer.keys
  return { lexer.take token rest with keys := keys, keyAllowed := false }

/-- Takes an indicator that begins a line's content, a dash or a question mark.
Outside brackets it may open a collection. -/
def takeIndicator? (lexer : Lexer) (next : Placed) (collection token : Token) (rest : Text) :
    Option Lexer := do
  if !lexer.inFlow ∧ !lexer.keyAllowed then none
  let lexer := lexer.openBlock next.column lexer.count collection
  let lexer ← lexer.dropKey?
  return lexer.take token rest

/-- Takes the colon of a key that has begun at a place. -/
def takeColonOf (lexer : Lexer) (key : KeyPlace) (rest : Text) : Lexer :=
  let lexer := lexer.emitAfter key.tokens .key
  let lexer := lexer.openBlock key.column key.tokens .blockMapping
  { lexer.take .value rest with
    keys := none :: lexer.keys.drop 1
    keyAllowed := false }

def takeColon? (lexer : Lexer) (next : Placed) (rest : Text) : Option Lexer :=
  match lexer.keys.head?.join with
  | some key => some (lexer.takeColonOf key rest)
  | none =>
    if !lexer.inFlow ∧ !lexer.keyAllowed then none
    else
      let lexer := lexer.openBlock next.column lexer.count .blockMapping
      some ((lexer.take .value rest).allowKey !lexer.inFlow)

/-- Takes an alias, an anchor, a tag or a scalar that may be a key. -/
def takeNode? (lexer : Lexer) (next : Placed) (scanned : Option (Token × Text)) :
    Option Lexer := do
  let (token, rest) ← scanned
  return ((← lexer.markKey? next).take token rest).allowKey false

def takePlain? (lexer : Lexer) (next : Placed) : Option Lexer := do
  let (chars, broken, rest) ← Plain.scan? lexer.inFlow (lexer.indent + 1) lexer.rest
  let lexer ← lexer.takeNode? next (some (.scalar (String.ofList chars) .plain, rest))
  return lexer.allowKey broken

def takeBlock? (lexer : Lexer) (style : Style) (rest : Text) : Option Lexer := do
  let lexer ← lexer.dropKey?
  let (chars, rest) ← Block.scan? (style = .literal) lexer.indent rest
  return (lexer.take (.scalar (String.ofList chars) style) rest).allowKey true

/-- Takes what stands at the start of a line and concerns the whole document. -/
def takeDocumentToken? (lexer : Lexer) (scanned : Option (Token × Text)) : Option Lexer := do
  let lexer ← (lexer.closeTo (-1)).dropKey?
  let (token, rest) ← scanned
  return (lexer.take token rest).allowKey false

def takeToken? (lexer : Lexer) (next : Placed) (rest : Text) : Option Lexer :=
  let text := next :: rest
  let node := lexer.takeNode? next
  let separated := lexer.inFlow || Text.endsWord rest
  if next.column = 0 ∧ next.char = '%' then
    lexer.takeDocumentToken? (Property.directive? rest)
  else if Text.isMarker '-' text then
    lexer.takeDocumentToken? (some (.documentStart, text.drop 3))
  else if Text.isMarker '.' text then
    lexer.takeDocumentToken? (some (.documentEnd, text.drop 3))
  else match next.char with
    | '[' => lexer.openFlow? next .flowSequence rest
    | '{' => lexer.openFlow? next .flowMapping rest
    | ']' => lexer.closeFlow? .flowSequenceEnd rest
    | '}' => lexer.closeFlow? .flowMappingEnd rest
    | ',' => do return ((← lexer.dropKey?).take .comma rest).allowKey true
    | '*' => node ((Property.name? rest).map fun (name, rest) => (.alias name, rest))
    | '&' => node ((Property.name? rest).map fun (name, rest) => (.anchor name, rest))
    | '!' => node (Property.tag? lexer.inFlow rest)
    | '\'' => node ((Quoted.scan? '\'' rest).map fun (chars, rest) =>
        (.scalar (String.ofList chars) .quoted, rest))
    | '"' => node ((Quoted.scan? '"' rest).map fun (chars, rest) =>
        (.scalar (String.ofList chars) .quoted, rest))
    | char =>
      if char = '-' ∧ Text.endsWord rest then do
        return (← lexer.takeIndicator? next .blockSequence .item rest).allowKey true
      else if char = '?' ∧ separated then do
        return (← lexer.takeIndicator? next .blockMapping .key rest).allowKey !lexer.inFlow
      else if char = ':' ∧ separated then lexer.takeColon? next rest
      else if char = '|' ∧ !lexer.inFlow then lexer.takeBlock? .literal rest
      else if char = '>' ∧ !lexer.inFlow then lexer.takeBlock? .folded rest
      else if Plain.startsAt lexer.inFlow text then lexer.takePlain? next
      else none

/-- Closes everything at the end of a text. -/
def finish? (lexer : Lexer) : Option (List Token) :=
  if lexer.keys.any fun key? => key?.any (·.isRequired) then none
  else some (lexer.closeTo (-1)).tokens.reverse

/-- Takes tokens until the text is over. The bound is on their number. -/
def run? : Nat → Lexer → Option (List Token)
  | 0, _ => none
  | bound + 1, lexer =>
    let (keyAllowed, rest) := skip lexer.inFlow false lexer.keyAllowed lexer.rest
    let lexer := { lexer with keyAllowed := keyAllowed, rest := rest }
    match rest with
    | [] => lexer.finish?
    | next :: rest => do
      let lexer ← lexer.dropStaleKeys? next
      run? bound (← (lexer.closeTo next.column).takeToken? next rest)

end Lexer

def tokens? (text : Text) : Option (List Token) :=
  (Lexer.start text).run? (text.size + 1)

end RadioRelay.Yaml
