import ContentTypes.Text.Hexadecimal
import ContentTypes.Yaml.Cursor

/-!
Scalars as they are written: plain, between single or double quotes, or as a block of lines. Reading
one gives its text and the place after it. Lines of a plain or quoted scalar are folded.
-/

namespace ContentTypes.Yaml

inductive Style where
  | plain
  | singleQuoted
  | doubleQuoted
  | literal
  | folded
  deriving DecidableEq, Inhabited

/-- Blanks and breaks between two parts of a scalar. -/
structure Gap where
  /-- The blanks, as long as no break was met. -/
  blanks : List Char := []
  /-- Whether a break was met. -/
  broken : Bool := false
  /-- What the first break reads as. An escaped break reads as nothing. -/
  first : List Char := []
  /-- What the other breaks read as. -/
  others : List Char := []
  deriving Inhabited

namespace Gap

def text (g : Gap) : List Char :=
  if !g.broken then g.blanks
  -- A single line feed folds into a space; of several the first one is dropped.
  else if g.first = ['\n'] then (if g.others.isEmpty then [' '] else g.others)
  else g.first ++ g.others

def addBlank (g : Gap) (c : Char) : Gap :=
  if g.broken then g else { g with blanks := g.blanks ++ [c] }

def addBreak (g : Gap) (t : List Char) : Gap :=
  if g.broken then { g with others := g.others ++ t } else { broken := true, first := t }

end Gap

/-- Reads the blanks and breaks at a place. Where a margin is given, a tab in front of it on a new
line is refused. -/
def readGap (margin : Option Nat) : Nat → Cursor → Gap → Option (Gap × Cursor)
  | 0, _, _ => none
  | fuel + 1, c, g =>
    match c.head? with
    | none => some (g, c)
    | some x =>
      if isSpaceOrTab x then
        if x = '\t' && g.broken && margin.any (c.column < ·) then none
        else readGap margin fuel c.skip (g.addBlank x)
      else if isBreak x then readGap margin fuel c.skipBreak (g.addBreak c.breakText)
      else some (g, c)

abbrev Scanned := Option (List Char × Cursor)

def scanSingle : Nat → Cursor → List Char → Scanned
  | 0, _, _ => none
  | fuel + 1, c, reversed =>
    match c.head? with
    | none => none
    | some x =>
      if c.atMarker then none
      else if isSpaceOrTab x || isBreak x then
        match readGap none (c.rest.length + 1) c {} with
        | none => none
        | some (g, c) => scanSingle fuel c (g.text.reverse ++ reversed)
      else if x = '\'' then
        -- A quote that is written twice is part of the text.
        if c.holds 1 (· = '\'') then scanSingle fuel (c.skip 2) ('\'' :: reversed)
        else some (reversed.reverse, c.skip)
      else scanSingle fuel c.skip (x :: reversed)

def escape? (x : Char) : Option Char :=
  match x with
  | '0' => some (Char.ofNat 0)
  | 'a' => some (Char.ofNat 7)
  | 'b' => some (Char.ofNat 8)
  | 't' | '\t' => some '\t'
  | 'n' => some '\n'
  | 'v' => some (Char.ofNat 0x0B)
  | 'f' => some (Char.ofNat 0x0C)
  | 'r' => some '\r'
  | 'e' => some (Char.ofNat 0x1B)
  | ' ' => some ' '
  | '"' => some '"'
  | '/' => some '/'
  | '\\' => some '\\'
  | 'N' => some (Char.ofNat 0x85)
  | '_' => some (Char.ofNat 0xA0)
  | 'L' => some (Char.ofNat 0x2028)
  | 'P' => some (Char.ofNat 0x2029)
  | _ => none

def escapeLength? (x : Char) : Option Nat :=
  match x with
  | 'x' => some 2
  | 'u' => some 4
  | 'U' => some 8
  | _ => none

def charOfCode? (n : Nat) : Option Char := if n.isValidChar then some (Char.ofNat n) else none

def escapedCode? (c : Cursor) (length : Nat) : Option Char :=
  if c.rest.length < length then none
  else (Text.hexValue? (c.rest.take length)).bind charOfCode?

def scanDouble : Nat → Cursor → List Char → Scanned
  | 0, _, _ => none
  | fuel + 1, c, reversed =>
    match c.head? with
    | none => none
    | some x =>
      if c.atMarker then none
      else if isSpaceOrTab x || isBreak x then
        match readGap none (c.rest.length + 1) c {} with
        | none => none
        | some (g, c) => scanDouble fuel c (g.text.reverse ++ reversed)
      else if x = '"' then some (reversed.reverse, c.skip)
      else if x = '\\' then
        match c.ahead? 1 with
        | none => none
        | some e =>
          if isBreak e then
            match readGap none (c.rest.length + 1) c.skip.skipBreak { broken := true } with
            | none => none
            | some (g, c) => scanDouble fuel c (g.text.reverse ++ reversed)
          else
            match escape? e, escapeLength? e with
            | some y, _ => scanDouble fuel (c.skip 2) (y :: reversed)
            | none, some length =>
              match escapedCode? (c.skip 2) length with
              | some y => scanDouble fuel (c.skip (2 + length)) (y :: reversed)
              | none => none
            | none, none => none
      else scanDouble fuel c.skip (x :: reversed)

/-- A plain scalar, the place after it and the blanks after it, and whether a new line was begun. -/
structure PlainScan where
  text : List Char
  after : Cursor
  newLine : Bool

def isFlowIndicator (x : Char) : Bool :=
  x = ',' || x = '[' || x = ']' || x = '\x7b' || x = '\x7d'

/-- The rest of a plain scalar. `gap` holds the blanks in front of the place. The scalar ends where
a comment or a value begins, at a bracket or comma inside brackets, and in front of a line that is
not indented beyond the margin. -/
def scanPlain (flow : Bool) (margin : Nat) :
    Nat → Cursor → List Char → Option Gap → Option PlainScan
  | 0, _, _, _ => none
  | fuel + 1, c, reversed, gap =>
    let stop : Option PlainScan := some ⟨reversed.reverse, c, gap.any (·.broken)⟩
    match c.head? with
    | none => stop
    | some x =>
      if c.atMarker then stop
      else if gap.isSome && x = '#' then stop
      else if isSpaceOrTab x || isBreak x then
        match readGap (some margin) (c.rest.length + 1) c {} with
        | none => none
        | some (g, c) =>
          if !flow && c.column < margin then some ⟨reversed.reverse, c, g.broken⟩
          else scanPlain flow margin fuel c reversed (some g)
      else if flow && x = ':' && c.holds 1 (fun y => isFlowIndicator y || y = '?') then none
      else if (x = ':' && c.gapAt 1) || (flow && isFlowIndicator x) then stop
      else
        let between := match gap with
          | some g => g.text
          | none => []
        scanPlain flow margin fuel c.skip (x :: (between.reverse ++ reversed)) none

inductive Chomping where
  | strip
  | clip
  | keep
  deriving DecidableEq, Inhabited

structure BlockHead where
  chomping : Chomping := .clip
  increment : Option Nat := none

def chomping? (x : Char) : Option Chomping :=
  if x = '+' then some .keep else if x = '-' then some .strip else none

def BlockHead.addDigit (h : BlockHead) (c : Cursor) : Option (BlockHead × Cursor) :=
  match c.head? with
  | some x =>
    -- An indentation has one digit, from one to nine.
    if x = '0' then none
    else if x.isDigit then some ({ h with increment := some (x.toNat - 0x30) }, c.skip)
    else some (h, c)
  | none => some (h, c)

def BlockHead.addChomping (h : BlockHead) (c : Cursor) : BlockHead × Cursor :=
  match c.head?.bind chomping? with
  | some k => ({ h with chomping := k }, c.skip)
  | none => (h, c)

def readBlockHead (c : Cursor) : Option (BlockHead × Cursor) :=
  match c.head?.bind chomping? with
  | some k => BlockHead.addDigit { chomping := k } c.skip
  | none =>
    match BlockHead.addDigit {} c with
    | none => none
    | some (h, c) => if h.increment.isSome then some (h.addChomping c) else some (h, c)

def skipIndent (limit : Option Nat) (c : Cursor) : Cursor :=
  let spaces := (c.rest.takeWhile (· = ' ')).length
  c.skip (match limit with
    | some n => min spaces (n - c.column)
    | none => spaces)

/-- Reads empty lines in front of a line of a block, together with its indentation. `widest` is the
greatest column met, from which an indentation that is not known is found. -/
def readBlockBreaks (indent : Option Nat) : Nat → Cursor → List Char → Nat →
    Option (List Char × Nat × Cursor)
  | 0, _, _, _ => none
  | fuel + 1, c, breaks, widest =>
    let c := skipIndent indent c
    let widest := max widest c.column
    if c.isAt '\t' && indent.all (c.column < ·) then none
    else if c.breakAt 0 then
      readBlockBreaks indent fuel c.skipBreak (breaks ++ c.breakText) widest
    else some (breaks, widest, c)

/-- The lines of a block. `pending` holds the break after the line before, and `others` the empty
lines after that. -/
def scanBlockLines (folded : Bool) (indent : Nat) (chomping : Chomping) :
    Nat → Cursor → List Char → List Char → List Char → Bool → Scanned
  | 0, _, _, _, _, _ => none
  | fuel + 1, c, text, pending, others, blankBefore =>
    if c.column = indent && !c.atEnd then
      let blank := c.blankAt 0
      let joint :=
        -- A break is folded between two lines that both begin without a blank.
        if folded && pending = ['\n'] && !blankBefore && !blank then
          (if others.isEmpty then [' '] else [])
        else pending
      let line := c.taken fun x => !isBreak x
      let ending := c.skipToBreak
      match readBlockBreaks (some indent) (ending.rest.length + 1) ending.skipBreak [] 0 with
      | none => none
      | some (breaks, _, c) =>
        scanBlockLines folded indent chomping fuel c (text ++ joint ++ others ++ line)
          ending.breakText breaks blank
    else
      let ending := match chomping with
        | .strip => []
        | .clip => pending
        | .keep => pending ++ others
      some (text ++ ending, c)

/-- A block after its indicator. An indentation that is not written is the one of the first line
that is not empty, and at least one beyond the margin. -/
def scanBlock (folded : Bool) (margin : Nat) (c : Cursor) : Scanned := do
  let (head, c) ← readBlockHead c
  let c := c.skipWhile isSpaceOrTab
  let c := if c.isAt '#' then c.skipToBreak else c
  if !c.gapAt 0 then none
  let c := if c.breakAt 0 then c.skipBreak else c
  let written := head.increment.map (margin - 1 + ·)
  let (breaks, widest, c) ← readBlockBreaks written (c.rest.length + 1) c [] 0
  let indent := written.getD (max widest (max margin 1))
  scanBlockLines folded indent head.chomping (c.rest.length + 2) c [] [] breaks false

end ContentTypes.Yaml
