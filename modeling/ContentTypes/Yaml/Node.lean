import ContentTypes.Yaml.Token

/-!
The tree that tokens describe: scalars, sequences, mappings, and references to anchored nodes. A
node that is missing is an empty plain scalar.
-/

namespace ContentTypes.Yaml

inductive Node where
  | scalar (text : String) (style : Style) (tag : Option String)
  | sequence (items : List Node)
  | mapping (entries : List (Node × Node))
  /-- A reference to the node of a number. -/
  | alias (number : Nat)
  deriving Inhabited

def Node.missing : Node := .scalar "" .plain none

structure Anchors where
  numbers : List (String × Nat) := []
  nodes : List (Nat × Node) := []
  deriving Inhabited

namespace Anchors

def declare (a : Anchors) (name : String) : Anchors :=
  -- A name that is used again loses its old meaning.
  { a with numbers := (name, a.numbers.length) :: a.numbers }

def close (a : Anchors) (number : Nat) (n : Node) : Anchors :=
  { a with nodes := (number, n) :: a.nodes }

def resolve? (a : Anchors) : Node → Option Node
  | .alias number => a.nodes.lookup number
  | n => some n

end Anchors

abbrev Handles := List (List Char × List Char)

def Handles.standard : Handles := [(['!'], ['!']), ("!!".toList, "tag:yaml.org,2002:".toList)]

structure Properties where
  anchor : Option String := none
  tag : Option String := none

def expandTag (handles : Handles) (handle suffix : List Char) : Option String :=
  if handle.isEmpty then some (String.ofList suffix)
  else (handles.lookup handle).map fun expansion => String.ofList (expansion ++ suffix)

def readProperties (handles : Handles) : List Token → Option (Properties × List Token)
  | .anchor name :: .tag handle suffix :: rest =>
    (expandTag handles handle suffix).map fun tag =>
      ({ anchor := some (String.ofList name), tag := some tag }, rest)
  | .tag handle suffix :: .anchor name :: rest =>
    (expandTag handles handle suffix).map fun tag =>
      ({ anchor := some (String.ofList name), tag := some tag }, rest)
  | .anchor name :: rest => some ({ anchor := some (String.ofList name) }, rest)
  | .tag handle suffix :: rest =>
    (expandTag handles handle suffix).map fun tag => ({ tag := some tag }, rest)
  | ts => some ({}, ts)

abbrev Parsed (α : Type) := α × List Token × Anchors

def Properties.scalarTag (p : Properties) : Option String :=
  -- The mark alone leaves a scalar without a tag.
  if p.tag = some "!" then none else p.tag

/-- Where a node stands decides what may begin there and what means that it is missing. -/
inductive Place where
  /-- The node of a document or of a sequence entry. -/
  | block
  /-- A key or value of a mapping, where a sequence needs no indentation. -/
  | blockMapping
  | flow
  deriving DecidableEq

def Place.inBlock (p : Place) : Bool := p != .flow

def emptyNode (p : Properties) (ts : List Token) (anchors : Anchors) : Option (Parsed Node) :=
  if p.anchor.isSome || p.tag.isSome then some (.scalar "" .plain p.scalarTag, ts, anchors)
  else none

def afterComma : List Token → Option (List Token)
  | .flowEntry :: rest => some rest
  | _ => none

mutual

def parseNode (handles : Handles) : Nat → Place → List Token → Anchors → Option (Parsed Node)
  | 0, _, _, _ => none
  | _ + 1, _, .alias name :: rest, anchors =>
    (anchors.numbers.lookup (String.ofList name)).map fun number => (.alias number, rest, anchors)
  | fuel + 1, place, ts, anchors => do
    let (p, ts) ← readProperties handles ts
    match p.anchor with
    | none => parseContent handles fuel place p ts anchors
    | some name =>
      let (n, ts, after) ← parseContent handles fuel place p ts (anchors.declare name)
      return (n, ts, after.close anchors.numbers.length n)

def parseContent (handles : Handles) :
    Nat → Place → Properties → List Token → Anchors → Option (Parsed Node)
  | 0, _, _, _, _ => none
  | fuel + 1, place, p, ts, anchors =>
    match ts with
    | .scalar text style :: rest =>
      some (.scalar (String.ofList text) style p.scalarTag, rest, anchors)
    | .flowSequenceStart :: rest => parseFlowSequence handles fuel true rest anchors []
    | .flowMappingStart :: rest => parseFlowMapping handles fuel true rest anchors []
    | .blockSequenceStart :: rest =>
      if place.inBlock then parseBlockSequence handles fuel rest anchors []
      else emptyNode p ts anchors
    | .blockMappingStart :: rest =>
      if place.inBlock then parseBlockMapping handles fuel rest anchors []
      else emptyNode p ts anchors
    | .blockEntry :: _ =>
      -- A sequence in a mapping needs no indentation, and so it has no end of its own.
      if place = .blockMapping then parseBareSequence handles fuel ts anchors []
      else emptyNode p ts anchors
    | _ => emptyNode p ts anchors

def parseBlockSequence (handles : Handles) :
    Nat → List Token → Anchors → List Node → Option (Parsed Node)
  | 0, _, _, _ => none
  | fuel + 1, ts, anchors, reversed =>
    match ts with
    | .blockEntry :: .blockEntry :: rest =>
      parseBlockSequence handles fuel (.blockEntry :: rest) anchors (.missing :: reversed)
    | .blockEntry :: .blockEnd :: rest =>
      some (.sequence (.missing :: reversed).reverse, rest, anchors)
    | .blockEntry :: rest => do
      let (n, ts, anchors) ← parseNode handles fuel .block rest anchors
      parseBlockSequence handles fuel ts anchors (n :: reversed)
    | .blockEnd :: rest => some (.sequence reversed.reverse, rest, anchors)
    | _ => none

def parseBareSequence (handles : Handles) :
    Nat → List Token → Anchors → List Node → Option (Parsed Node)
  | 0, _, _, _ => none
  | fuel + 1, ts, anchors, reversed =>
    match ts with
    | .blockEntry :: rest =>
      match rest with
      | .blockEntry :: _ | .key :: _ | .value :: _ | .blockEnd :: _ =>
        parseBareSequence handles fuel rest anchors (.missing :: reversed)
      | _ => do
        let (n, ts, anchors) ← parseNode handles fuel .block rest anchors
        parseBareSequence handles fuel ts anchors (n :: reversed)
    | _ => some (.sequence reversed.reverse, ts, anchors)

def parseBlockPart (handles : Handles) : Nat → List Token → Anchors → Option (Parsed Node)
  | 0, _, _ => none
  | fuel + 1, ts, anchors =>
    match ts with
    | .key :: _ | .value :: _ | .blockEnd :: _ => some (.missing, ts, anchors)
    | _ => parseNode handles fuel .blockMapping ts anchors

def parseBlockValue (handles : Handles) : Nat → List Token → Anchors → Option (Parsed Node)
  | 0, _, _ => none
  | fuel + 1, ts, anchors =>
    match ts with
    | .value :: rest => parseBlockPart handles fuel rest anchors
    | _ => some (.missing, ts, anchors)

def parseBlockMapping (handles : Handles) :
    Nat → List Token → Anchors → List (Node × Node) → Option (Parsed Node)
  | 0, _, _, _ => none
  | fuel + 1, ts, anchors, reversed =>
    match ts with
    | .blockEnd :: rest => some (.mapping reversed.reverse, rest, anchors)
    | .key :: rest => do
      let (k, ts, anchors) ← parseBlockPart handles fuel rest anchors
      let (v, ts, anchors) ← parseBlockValue handles fuel ts anchors
      parseBlockMapping handles fuel ts anchors ((k, v) :: reversed)
    | _ => none

def parseFlowSequence (handles : Handles) :
    Nat → Bool → List Token → Anchors → List Node → Option (Parsed Node)
  | 0, _, _, _, _ => none
  | fuel + 1, first, ts, anchors, reversed =>
    match ts with
    | .flowSequenceEnd :: rest => some (.sequence reversed.reverse, rest, anchors)
    | _ =>
      match (if first then some ts else afterComma ts) with
      | none => none
      | some (.flowSequenceEnd :: rest) => some (.sequence reversed.reverse, rest, anchors)
      | some (.key :: rest) => do
        let (k, ts, anchors) ← parseFlowKey handles fuel rest anchors
        let (v, ts, anchors) ← parseFlowValue handles fuel ts anchors
        -- An entry with a key is a mapping of this one entry.
        parseFlowSequence handles fuel false ts anchors (.mapping [(k, v)] :: reversed)
      | some ts => do
        let (n, ts, anchors) ← parseNode handles fuel .flow ts anchors
        parseFlowSequence handles fuel false ts anchors (n :: reversed)

/-- The key of an entry inside brackets. Where it is missing the token in its place is passed
over. -/
def parseFlowKey (handles : Handles) : Nat → List Token → Anchors → Option (Parsed Node)
  | 0, _, _ => none
  | fuel + 1, ts, anchors =>
    match ts with
    | .value :: rest | .flowEntry :: rest | .flowSequenceEnd :: rest =>
      some (.missing, rest, anchors)
    | _ => parseNode handles fuel .flow ts anchors

def parseFlowValue (handles : Handles) : Nat → List Token → Anchors → Option (Parsed Node)
  | 0, _, _ => none
  | fuel + 1, ts, anchors =>
    match ts with
    | .value :: rest =>
      match rest with
      | .flowEntry :: _ | .flowSequenceEnd :: _ | .flowMappingEnd :: _ =>
        some (.missing, rest, anchors)
      | _ => parseNode handles fuel .flow rest anchors
    | _ => some (.missing, ts, anchors)

def parseFlowMapping (handles : Handles) :
    Nat → Bool → List Token → Anchors → List (Node × Node) → Option (Parsed Node)
  | 0, _, _, _, _ => none
  | fuel + 1, first, ts, anchors, reversed =>
    match ts with
    | .flowMappingEnd :: rest => some (.mapping reversed.reverse, rest, anchors)
    | _ =>
      match (if first then some ts else afterComma ts) with
      | none => none
      | some (.flowMappingEnd :: rest) => some (.mapping reversed.reverse, rest, anchors)
      | some (.key :: rest) => do
        let (k, ts, anchors) ← parseBraceKey handles fuel rest anchors
        let (v, ts, anchors) ← parseFlowValue handles fuel ts anchors
        parseFlowMapping handles fuel false ts anchors ((k, v) :: reversed)
      | some ts => do
        let (k, ts, anchors) ← parseNode handles fuel .flow ts anchors
        parseFlowMapping handles fuel false ts anchors ((k, .missing) :: reversed)

def parseBraceKey (handles : Handles) : Nat → List Token → Anchors → Option (Parsed Node)
  | 0, _, _ => none
  | fuel + 1, ts, anchors =>
    match ts with
    | .value :: _ | .flowEntry :: _ | .flowMappingEnd :: _ => some (.missing, ts, anchors)
    | _ => parseNode handles fuel .flow ts anchors

end

/-- The expansions that directives in front of a document declare. A version may be given once, and
a handle may be declared once. -/
def readDirectives : Bool → Handles → List Token → Option (Handles × List Token)
  | versioned, handles, .version major minor :: rest =>
    if versioned || major ≠ 1 || (minor ≠ 1 && minor ≠ 2) then none
    else readDirectives true handles rest
  | versioned, handles, .tagAbbreviation handle expansion :: rest =>
    if (handles.lookup handle).isSome then none
    else readDirectives versioned (handles ++ [(handle, expansion)]) rest
  | _, handles, ts => some (handles, ts)

def lastDocument (n : Node) (ts : List Token) (anchors : Anchors) : Option (Node × Anchors) :=
  if ts.all (· == .documentEnd) then some (n, anchors) else none

def parseDocument (handles : Handles) (ts : List Token) : Option (Node × Anchors) := do
  let (n, ts, anchors) ← parseNode (handles ++ .standard) (4 * ts.length + 8) .block ts {}
  lastDocument n ts anchors

/-- The node of a text with one document, together with its anchors. A text without a document has
the missing node. -/
def document? (ts : List Token) : Option (Node × Anchors) :=
  match ts with
  | [] => some (.missing, {})
  | .version .. :: _ | .tagAbbreviation .. :: _ | .documentStart :: _ => do
    let (handles, ts) ← readDirectives false [] ts
    match ts with
    | .documentStart :: rest =>
      match rest with
      | [] | .version .. :: _ | .tagAbbreviation .. :: _ | .documentStart :: _
      | .documentEnd :: _ =>
        lastDocument .missing rest {}
      | _ => parseDocument handles rest
    | _ => none
  | _ => parseDocument [] ts

end ContentTypes.Yaml
