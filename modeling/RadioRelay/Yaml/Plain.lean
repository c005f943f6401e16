import RadioRelay.Yaml.Folding

/-!
# Plain scalars

A plain scalar goes on, over line ends too, until something follows that cannot
belong to it: a colon or a number sign with a space, a line that is not
indented enough, a document marker, or a flow indicator inside brackets.
-/

namespace RadioRelay.Yaml.Plain

def isFlowIndicator (char : Char) : Bool := char ∈ [',', '[', ']', '{', '}']

/-- Whether a character inside brackets must not follow a colon directly. -/
def clashesWithColon (char : Char) : Bool := char = '?' || isFlowIndicator char

def startsAt (inFlow : Bool) : Text → Bool
  | [] => false
  | next :: rest =>
    let char := next.char
    let isIndicator := char ∈ ['-', '?', ':', ',', '[', ']', '{', '}', '#', '&', '*', '!', '|',
      '>', '\'', '"', '%', '@', '`']
    (!isSpace char && !isIndicator)
      || (char = '-' && !(rest.head?.any fun after => isBlank after.char))
      || (!inFlow && (char = '?' || char = ':') && !Text.endsWord rest)

/-- The word at the start of a text, and the rest. -/
def word? (inFlow : Bool) : Text → Option (List Char × Text)
  | [] => some ([], [])
  | next :: rest =>
    if isSpace next.char then some ([], next :: rest)
    else if inFlow ∧ next.char = ':' ∧ (rest.head?.any fun after => clashesWithColon after.char)
    then none
    else if (next.char = ':' ∧ Text.endsWord rest) ∨ (inFlow ∧ isFlowIndicator next.char) then
      some ([], next :: rest)
    else do
      let (chars, rest) ← word? inFlow rest
      return (next.char :: chars, rest)

/-- The words that belong to a scalar, put together, what follows, and whether
that starts a new line. The bound is on the number of words. -/
def words? (inFlow : Bool) (floor : Int) : Nat → Text → Option (List Char × Bool × Text)
  | 0, text => some ([], false, text)
  | bound + 1, text =>
    if text.atMarker ∨ text.startsWith '#' then some ([], false, text)
    else do
      let (word, rest) ← word? inFlow text
      if rest.isEmpty ∨ !rest.endsWord then return (word, false, rest)
      let (gap, rest) ← Gap.take? floor false rest
      let broken := !gap.breaks.isEmpty
      let outside := !inFlow && rest.head?.all fun next => next.column < floor
      if outside then return (word, broken, rest)
      let (more, brokenLater, rest) ← words? inFlow floor bound rest
      if more.isEmpty then return (word, broken, rest)
      return (word ++ gap.fold ++ more, brokenLater, rest)

/-- The plain scalar at the start of a text. `floor` is the least column of its
lines after the first. -/
def scan? (inFlow : Bool) (floor : Int) (text : Text) : Option (List Char × Bool × Text) :=
  words? inFlow floor text.size text

end RadioRelay.Yaml.Plain
