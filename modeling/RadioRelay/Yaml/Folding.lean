import RadioRelay.Yaml.Text

/-!
# Gaps between words

Where a text is folded, a single line end between words stands for a space, and
of several line ends the first one is dropped.
-/

namespace RadioRelay.Yaml

structure Gap where
  /-- The blanks before the first line end. -/
  blanks : List Char
  breaks : List Char
  deriving DecidableEq, Repr

namespace Gap

def foldBreaks : List Char → List Char
  | ['\n'] => [' ']
  | '\n' :: more => more
  | breaks => breaks

/-- What a gap stands for. Around line ends blanks do not count. -/
def fold (gap : Gap) : List Char :=
  if gap.breaks.isEmpty then gap.blanks else foldBreaks gap.breaks

/-- The gap at the start of a text, and what follows it. `broken` tells whether
a line has just ended; then a tab to the left of the column `floor` is refused. -/
def take? (floor : Int) (broken : Bool) : Text → Option (Gap × Text)
  | [] => some (⟨[], []⟩, [])
  | next :: rest =>
    if isBreak next.char then do
      let (gap, rest) ← take? floor true rest
      return (⟨[], next.char :: gap.breaks⟩, rest)
    else if isBlank next.char then
      if broken then
        if next.char = '\t' ∧ next.column < floor then none else take? floor true rest
      else do
        let (gap, rest) ← take? floor false rest
        return (⟨next.char :: gap.blanks, gap.breaks⟩, rest)
    else some (⟨[], []⟩, next :: rest)

end Gap

end RadioRelay.Yaml
