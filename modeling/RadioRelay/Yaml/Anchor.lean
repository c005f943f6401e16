import RadioRelay.Yaml.Token

/-!
# Anchors and aliases

The number of an anchor is how many different anchors there were before it. An
alias stands for the last node in the whole document whose anchor has the number
of its own. So an anchor that is used anew shares its number with the next
anchor that is new, and its aliases stand for what comes under that one.
-/

namespace RadioRelay.Yaml

/-- A scalar: its text, how it was written, and its tag if it has one. -/
structure Scalar where
  text : String
  style : Style
  tag : Option String
  deriving DecidableEq, Repr

/-- The scalar that stands where nothing was written. -/
def Scalar.missing : Scalar := ⟨"", .plain, none⟩

inductive Node
  | scalar (scalar : Scalar)
  /-- Whatever has an anchor of this number. -/
  | alias (number : Nat)
  deriving DecidableEq, Repr

structure Names where
  anchors : List (String × Nat)
  /-- What stands under the numbers, the latest first. A collection is no
  scalar. -/
  targets : List (Nat × Option Scalar)
  handles : List (String × String)

namespace Names

/-- The handles that need no directive. -/
def standardHandles : List (String × String) := [("!", "!"), ("!!", "tag:yaml.org,2002:")]

/-- The full form of a tag; its handle must be known. -/
def resolve? (names : Names) (handle suffix : String) : Option String :=
  if handle = "" then some suffix
  else (names.handles.lookup handle).map (· ++ suffix)

def remember (names : Names) (anchor : Option String) (target : Option Scalar) : Names :=
  match anchor with
  | none => names
  | some name =>
    let number := names.anchors.length
    { names with
      anchors := (name, number) :: names.anchors.filter (·.1 ≠ name)
      targets := (number, target) :: names.targets }

def scalar? (names : Names) : Node → Option Scalar
  | .scalar scalar => some scalar
  | .alias number => (names.targets.lookup number).join

end Names

end RadioRelay.Yaml
