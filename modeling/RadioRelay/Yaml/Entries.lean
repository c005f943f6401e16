import RadioRelay.Yaml.Anchor
import RadioRelay.Yaml.Lexer

/-!
# Documents of entries

The documents read here are flat: one mapping, written in block or in flow
style, whose keys and values are scalars. A document without content has no
entries. Anything else is refused.
-/

namespace RadioRelay.Yaml

structure Entry where
  key : Scalar
  value : Scalar
  deriving DecidableEq, Repr

/-- The anchor and the tag in front of a node, in either order. -/
def properties? (names : Names) :
    List Token → Option (Option String × Option String × List Token)
  | .anchor name :: .tag handle suffix :: rest
  | .tag handle suffix :: .anchor name :: rest => do
    return (some name, some (← names.resolve? handle suffix), rest)
  | .anchor name :: rest => some (some name, none, rest)
  | .tag handle suffix :: rest => do
    return (none, some (← names.resolve? handle suffix), rest)
  | rest => some (none, none, rest)

def Token.opensCollection : Token → Bool
  | .blockSequence | .blockMapping | .flowSequence | .flowMapping | .item => true
  | _ => false

/-- The node at the start of some tokens, which must be no collection.
Properties alone make an empty scalar. -/
def node? (names : Names) (tokens : List Token) : Option (Node × Names × List Token) := do
  if let .alias name :: rest := tokens then
    return (.alias (← names.anchors.lookup name), names, rest)
  let (anchor, tag, rest) ← properties? names tokens
  match rest with
  | .scalar text style :: rest =>
    let scalar : Scalar := ⟨text, style, tag⟩
    return (.scalar scalar, names.remember anchor (some scalar), rest)
  | _ =>
    if (rest.head?.any (·.opensCollection)) || (anchor.isNone && tag.isNone) then none
    let scalar : Scalar := ⟨"", .plain, tag⟩
    return (.scalar scalar, names.remember anchor (some scalar), rest)

/-- The node at the start of some tokens, or the missing scalar if a token comes
that can follow it. -/
def nodeOrMissing? (follows : Token → Bool) (names : Names) (tokens : List Token) :
    Option (Node × Names × List Token) :=
  if tokens.head?.any follows then some (.scalar .missing, names, tokens)
  else node? names tokens

def valueOf? (follows : Token → Bool) (names : Names) :
    List Token → Option (Node × Names × List Token)
  | .value :: rest => nodeOrMissing? follows names rest
  | tokens => some (.scalar .missing, names, tokens)

def Token.followsInBlock : Token → Bool
  | .key | .value | .blockEnd => true
  | _ => false

def Token.followsValue : Token → Bool
  | .comma | .flowMappingEnd => true
  | _ => false

def Token.followsKey (token : Token) : Bool := token = .value || token.followsValue

/-- The keys and values of a mapping, what the names in it stand for, and the
tokens after it. -/
structure Mapping where
  nodes : List (Node × Node)
  names : Names
  rest : List Token

def Mapping.cons (key value : Node) (mapping : Mapping) : Mapping :=
  { mapping with nodes := (key, value) :: mapping.nodes }

/-- A block mapping after its first token. The bound is on the number of
entries. -/
def blockMapping? (names : Names) : Nat → List Token → Option Mapping
  | 0, _ => none
  | _, .blockEnd :: rest => some ⟨[], names, rest⟩
  | bound + 1, .key :: rest => do
    let (key, names, rest) ← nodeOrMissing? Token.followsInBlock names rest
    let (value, names, rest) ← valueOf? Token.followsInBlock names rest
    return (← blockMapping? names bound rest).cons key value
  | _, _ => none

/-- The tokens after the comma between two entries; there is none in front of
the first entry. -/
def nextInFlow? (isFirst : Bool) : List Token → Option (List Token)
  | .comma :: rest => if isFirst then none else some rest
  | tokens => if isFirst then some tokens else none

/-- One key and value of a flow mapping. Without a question mark or a colon
there is only a key. -/
def flowEntry? (names : Names) : List Token → Option (Node × Node × Names × List Token)
  | .key :: rest => do
    let (key, names, rest) ← nodeOrMissing? Token.followsKey names rest
    let (value, names, rest) ← valueOf? Token.followsValue names rest
    return (key, value, names, rest)
  | tokens => do
    let (key, names, rest) ← node? names tokens
    return (key, .scalar .missing, names, rest)

/-- A flow mapping after its first token. The bound is on the number of
entries. -/
def flowMapping? (names : Names) :
    (isFirst : Bool) → Nat → List Token → Option Mapping
  | _, 0, _ => none
  | _, _, .flowMappingEnd :: rest => some ⟨[], names, rest⟩
  | isFirst, bound + 1, tokens => do
    let tokens ← nextInFlow? isFirst tokens
    match tokens with
    | .flowMappingEnd :: rest => return ⟨[], names, rest⟩
    | _ =>
      let (key, value, names, rest) ← flowEntry? names tokens
      return (← flowMapping? names false bound rest).cons key value

def Mapping.entries? (mapping : Mapping) : Option (List Entry) :=
  mapping.nodes.mapM fun (key, value) => do
    return ⟨← mapping.names.scalar? key, ← mapping.names.scalar? value⟩

def content? (names : Names) (tokens : List Token) : Option (List Entry × List Token) := do
  let (anchor, _, rest) ← properties? names tokens
  let names' := names.remember anchor none
  match rest with
  | .blockMapping :: rest =>
    let mapping ← blockMapping? names' (rest.length + 1) rest
    return (← mapping.entries?, mapping.rest)
  | .flowMapping :: rest =>
    let mapping ← flowMapping? names' true (rest.length + 1) rest
    return (← mapping.entries?, mapping.rest)
  | _ =>
    match ← node? names tokens with
    | (.scalar ⟨"", .plain, _⟩, _, rest) => return ([], rest)
    | _ => none

/-- The handles of the directives at the start of some tokens. A directive must
not be repeated, and versions other than 1.1 and 1.2 are refused. -/
def directives? (hasVersion : Bool) (handles : List (String × String)) :
    List Token → Option (List (String × String) × List Token)
  | .version major minor :: rest =>
    if hasVersion ∨ major ≠ 1 ∨ (minor ≠ 1 ∧ minor ≠ 2) then none
    else directives? true handles rest
  | .tagHandle handle start :: rest =>
    if handles.any (·.1 = handle) then none
    else directives? hasVersion ((handle, start) :: handles) rest
  | rest => some (handles, rest)

def isOver : List Token → Bool
  | [] => true
  | .version _ _ :: _ | .tagHandle _ _ :: _ | .documentStart :: _ | .documentEnd :: _ => true
  | _ => false

def document? (tokens : List Token) : Option (List Entry × List Token) := do
  let (handles, rest) ← directives? false [] tokens
  let names : Names := ⟨[], [], handles ++ Names.standardHandles⟩
  match rest with
  | .documentStart :: rest => if isOver rest then return ([], rest) else content? names rest
  | _ => if rest.length = tokens.length then content? names tokens else none

def entries? (string : String) : Option (List Entry) := do
  let text ← Text.ofString? string
  let tokens ← tokens? text
  if tokens.isEmpty then return []
  let (entries, rest) ← document? tokens
  if rest.all (· = .documentEnd) then return entries else none

end RadioRelay.Yaml
