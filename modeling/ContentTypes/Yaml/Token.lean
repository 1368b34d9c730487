import ContentTypes.Text.Source
import ContentTypes.Yaml.Scalar

/-!
The tokens of a text. Indentation becomes tokens that open and close blocks. A mapping key is known
to be one only when its colon is met, so a place where a key could begin is remembered, and the
tokens that announce the key are put in there afterwards.
-/

namespace ContentTypes.Yaml

inductive Token where
  | version (major minor : Nat)
  | tagAbbreviation (handle expansion : List Char)
  | documentStart
  | documentEnd
  | blockSequenceStart
  | blockMappingStart
  | blockEnd
  | flowSequenceStart
  | flowSequenceEnd
  | flowMappingStart
  | flowMappingEnd
  | blockEntry
  | flowEntry
  | key
  | value
  | alias (name : List Char)
  | anchor (name : List Char)
  | tag (handle suffix : List Char)
  | scalar (text : List Char) (style : Style)
  deriving DecidableEq, Inhabited

/-- A place where a key may have begun. -/
structure KeyPlace where
  /-- Whether nothing but a key can stand there. -/
  required : Bool
  /-- How many tokens come before it. -/
  position : Nat
  index : Nat
  line : Nat
  column : Nat

/-- What has been read of a text. Margins are one more than the column of a block; the outermost is
zero. -/
structure Scanner where
  cursor : Cursor
  tokens : List Token := []
  margin : Nat := 0
  /-- The margins of the blocks around. -/
  margins : List Nat := []
  /-- The possible key of the text outside of all brackets, or inside the innermost ones. -/
  keyPlace : Option KeyPlace := none
  /-- The possible keys of the brackets around. -/
  keyPlaces : List (Option KeyPlace) := []
  /-- Whether a key may begin here. -/
  keyAllowed : Bool := true

namespace Scanner

def inFlow (s : Scanner) : Bool := !s.keyPlaces.isEmpty

def emit (s : Scanner) (t : Token) : Scanner := { s with tokens := s.tokens ++ [t] }

def emitAt (s : Scanner) (position : Nat) (ts : List Token) : Scanner :=
  { s with tokens := s.tokens.take position ++ ts ++ s.tokens.drop position }

def allowKey (s : Scanner) (allowed : Bool) : Scanner := { s with keyAllowed := allowed }

def moveTo (s : Scanner) (c : Cursor) : Scanner := { s with cursor := c }

def advance (s : Scanner) (n : Nat := 1) : Scanner := s.moveTo (s.cursor.skip n)

def unrollWith (s : Scanner) (target : Nat) : List Nat → Scanner
  | [] => s
  | outer :: rest =>
    if s.margin ≤ target then s
    else unrollWith { s.emit .blockEnd with margin := outer, margins := rest } target rest

def unroll (s : Scanner) (target : Nat) : Scanner :=
  if s.inFlow then s else s.unrollWith target s.margins

def roll (s : Scanner) (column : Nat) (position : Option Nat) (t : Token) : Scanner :=
  if s.inFlow || column < s.margin then s
  else
    let s := { s with margin := column + 1, margins := s.margin :: s.margins }
    match position with
    | some n => s.emitAt n [t]
    | none => s.emit t

/-- Gives up the possible key, unless nothing else could have been meant. -/
def dropKey (s : Scanner) : Option Scanner :=
  match s.keyPlace with
  | some k => if k.required then none else some { s with keyPlace := none }
  | none => some s

def saveKey (s : Scanner) : Option Scanner :=
  if !s.keyAllowed then some s
  else do
    let s ← s.dropKey
    let c := s.cursor
    -- At the column of its block nothing but a key can go on with the mapping.
    let required := !s.inFlow && s.margin == c.column + 1
    let place : KeyPlace := ⟨required, s.tokens.length, c.index, c.line, c.column⟩
    return { s with keyPlace := some place }

def keyExpired (c : Cursor) (k : KeyPlace) : Bool := k.line < c.line || k.index + 1024 < c.index

def expireKey (c : Cursor) : Option KeyPlace → Option (Option KeyPlace)
  | none => some none
  -- A key has to be met by its colon on the same line, and within 1024 characters.
  | some k => if keyExpired c k then (if k.required then none else some none) else some (some k)

def expireKeys (s : Scanner) : Option Scanner := do
  let keyPlace ← expireKey s.cursor s.keyPlace
  let keyPlaces ← s.keyPlaces.mapM (expireKey s.cursor)
  return { s with keyPlace, keyPlaces }

/-- Moves to the next token, over blanks, comments and breaks. After a break outside of brackets a
key may begin. A tab does not count as a blank where a key may begin. -/
def skipToToken : Nat → Scanner → Scanner
  | 0, s => s
  | fuel + 1, s =>
    let c := s.cursor
    let c := if c.column = 0 && c.holds 0 isByteOrderMark then c.skip else c
    let c := c.skipWhile fun x => x = ' ' || (x = '\t' && (s.inFlow || !s.keyAllowed))
    let c := if c.isAt '#' then c.skipToBreak else c
    if c.breakAt 0 then
      skipToToken fuel { s with cursor := c.skipBreak, keyAllowed := s.keyAllowed || !s.inFlow }
    else s.moveTo c

end Scanner

def readVersionPart (c : Cursor) : Option (Nat × Cursor) :=
  let digits := c.taken Char.isDigit
  if digits.isEmpty || 9 < digits.length then none
  else some (digits.foldl (fun n d => 10 * n + (d.toNat - 0x30)) 0, c.skip digits.length)

/-- Characters of a tag apart from letters and digits. Brackets and commas are among them only where
the tag is delimited. -/
def isTagChar (delimited : Bool) (x : Char) : Bool :=
  isWordChar x || (";/?:@&=+$.%!~*'()".toList.contains x) || (delimited && ",[]".toList.contains x)

def escapedByte? : List Char → Option UInt8
  | '%' :: a :: b :: _ => (Text.hexValue? [a, b]).map .ofNat
  | _ => none

def encodedLength? (b : UInt8) : Option Nat :=
  if b.toNat < 0x80 then some 1
  else if b.toNat / 0x20 = 6 then some 2
  else if b.toNat / 0x10 = 0xE then some 3
  else if b.toNat / 8 = 0x1E then some 4
  else none

def escapedBytes? : Nat → List Char → Option (List UInt8)
  | 0, _ => some []
  | n + 1, s => do
    let b ← escapedByte? s
    let rest ← escapedBytes? n (s.drop 3)
    return b :: rest

def continues (bytes : List UInt8) : Bool := bytes.tail.all fun b => b.toNat / 0x40 = 2

def charsOfBytes (bytes : List UInt8) : List Char :=
  (Text.Source.ofBytes bytes).map (·.getD (Char.ofNat 0xFFFD))

def readTagChars (delimited : Bool) : Nat → Cursor → List Char → Option (List Char × Cursor)
  | 0, _, _ => none
  | fuel + 1, c, text =>
    match c.head? with
    | some '%' => do
      -- An escaped character comes with all of its bytes, and the first one tells how many.
      let length ← (escapedByte? c.rest).bind encodedLength?
      let bytes ← escapedBytes? length c.rest
      if !continues bytes then none
      readTagChars delimited fuel (c.skip (3 * length)) (text ++ charsOfBytes bytes)
    | some x =>
      if isTagChar delimited x then readTagChars delimited fuel c.skip (text ++ [x])
      else some (text, c)
    | none => some (text, c)

def readTagSuffix (delimited : Bool) (start : List Char) (c : Cursor) :
    Option (List Char × Cursor) := do
  let (text, after) ← readTagChars delimited (c.rest.length + 1) c start
  if text.isEmpty then none
  return (text, after)

def readTagHandle (c : Cursor) : Option (List Char × Cursor) :=
  if !c.isAt '!' then none
  else
    let name := c.skip.taken isWordChar
    let after := c.skip.skip name.length
    if after.isAt '!' then some ('!' :: name ++ ['!'], after.skip)
    else some ('!' :: name, after)

def readTag (flow : Bool) (c : Cursor) : Option (Token × Cursor) := do
  let (handle, suffix, after) ←
    if c.holds 1 (· = '<') then do
      let (suffix, after) ← readTagSuffix true [] (c.skip 2)
      if !after.isAt '>' then none
      pure ([], suffix, after.skip)
    else do
      let (handle, after) ← readTagHandle c
      if 1 < handle.length && handle.getLast? = some '!' then
        let (suffix, after) ← readTagSuffix false [] after
        pure (handle, suffix, after)
      else
        let (suffix, after) ← readTagChars false (after.rest.length + 1) after handle.tail
        -- The mark alone is a tag of its own.
        if suffix.isEmpty then pure ([], ['!'], after) else pure (['!'], suffix, after)
  if (flow && after.isAt ',') || after.gapAt 0 then some (.tag handle suffix, after) else none

def readAnchorName (c : Cursor) : Option (List Char × Cursor) :=
  let name := c.taken isWordChar
  let after := c.skip name.length
  if name.isEmpty then none
  else if after.gapAt 0 || after.holds 0 ("?:,]\x7d%@\x60".toList.contains ·) then
    some (name, after)
  else none

def endDirective (c : Cursor) : Option Cursor :=
  let c := c.skipWhile isSpaceOrTab
  let c := if c.isAt '#' then c.skipToBreak else c
  if !c.gapAt 0 then none
  else some (if c.breakAt 0 then c.skipBreak else c)

def readDirective (c : Cursor) : Option (Token × Cursor) := do
  let name := c.taken isWordChar
  let c := c.skip name.length
  if !c.gapAt 0 then none
  let c := c.skipWhile isSpaceOrTab
  if name = "YAML".toList then
    let (major, c) ← readVersionPart c
    if !c.isAt '.' then none
    let (minor, c) ← readVersionPart c.skip
    return (.version major minor, ← endDirective c)
  else if name = "TAG".toList then
    let (handle, c) ← readTagHandle c
    if handle ≠ ['!'] && handle.getLast? ≠ some '!' then none
    if !c.blankAt 0 then none
    let (expansion, c) ← readTagSuffix true [] (c.skipWhile isSpaceOrTab)
    if !c.gapAt 0 then none
    return (.tagAbbreviation handle expansion, ← endDirective c)
  else none

def isIndicator (x : Char) : Bool := "-?:,[]\x7b\x7d#&*!|>'\"%@\x60".toList.contains x

def beginsPlain (flow : Bool) (c : Cursor) : Bool :=
  (!c.gapAt 0 && !c.holds 0 isIndicator) || (c.isAt '-' && !c.blankAt 1) ||
    (!flow && (c.isAt '?' || c.isAt ':') && !c.gapAt 1)

namespace Scanner

def outside (s : Scanner) (read : Cursor → Option (Token × Cursor)) : Option Scanner := do
  let s ← (s.unroll 0).dropKey
  let (t, c) ← read s.cursor
  return ((s.allowKey false).moveTo c).emit t

def marker (s : Scanner) (t : Token) : Option Scanner :=
  s.outside fun c => some (t, c.skip 3)

def openFlow (s : Scanner) (t : Token) : Option Scanner := do
  let s ← s.saveKey
  return { (s.advance.emit t) with
    keyAllowed := true, keyPlace := none, keyPlaces := s.keyPlace :: s.keyPlaces }

def closeFlow (s : Scanner) (t : Token) : Option Scanner := do
  let s ← s.dropKey
  let s := match s.keyPlaces with
    | outer :: rest => { s with keyPlace := outer, keyPlaces := rest }
    | [] => s
  return (s.allowKey false).advance.emit t

def flowEntry (s : Scanner) : Option Scanner := do
  let s ← s.dropKey
  return (s.allowKey true).advance.emit .flowEntry

def openBlock (s : Scanner) (t : Token) : Option Scanner :=
  if s.inFlow then some s
  else if s.keyAllowed then some (s.roll s.cursor.column none t)
  else none

def blockEntry (s : Scanner) : Option Scanner := do
  let s ← (← s.openBlock .blockSequenceStart).dropKey
  return (s.allowKey true).advance.emit .blockEntry

def explicitKey (s : Scanner) : Option Scanner := do
  let s ← (← s.openBlock .blockMappingStart).dropKey
  return (s.allowKey !s.inFlow).advance.emit .key

def value (s : Scanner) : Option Scanner := do
  let s ← match s.keyPlace with
    | some k =>
      -- What could have been a key is one, and its tokens go in where it began.
      let s := { s with keyPlace := none, keyAllowed := false }.emitAt k.position [.key]
      pure (s.roll k.column (some k.position) .blockMappingStart)
    | none => do
      let s ← s.openBlock .blockMappingStart
      pure (s.allowKey !s.inFlow)
  return s.advance.emit .value

def keyToken (s : Scanner) (read : Cursor → Option (Token × Cursor)) : Option Scanner := do
  let s ← s.saveKey
  let (t, c) ← read s.cursor
  return ((s.allowKey false).moveTo c).emit t

def block (s : Scanner) (style : Style) : Option Scanner := do
  let s ← s.dropKey
  let (text, c) ← scanBlock (style = .folded) s.margin s.cursor.skip
  return ((s.allowKey true).moveTo c).emit (.scalar text style)

def plain (s : Scanner) : Option Scanner := do
  let s ← s.saveKey
  let p ← scanPlain s.inFlow s.margin (s.cursor.rest.length + 1) s.cursor [] none
  return ((s.allowKey p.newLine).moveTo p.after).emit (.scalar p.text .plain)

def quoted (style : Style) (scan : Nat → Cursor → List Char → Scanned) (c : Cursor) :
    Option (Token × Cursor) :=
  (scan (c.rest.length + 1) c.skip []).map fun r => (.scalar r.1 style, r.2)

def named (t : List Char → Token) (c : Cursor) : Option (Token × Cursor) :=
  (readAnchorName c.skip).map fun r => (t r.1, r.2)

def token (s : Scanner) : Option Scanner :=
  let c := s.cursor
  if c.column = 0 && c.isAt '%' then s.outside fun c => readDirective c.skip
  else if c.atMarker && c.isAt '-' then s.marker .documentStart
  else if c.atMarker then s.marker .documentEnd
  else if c.isAt '[' then s.openFlow .flowSequenceStart
  else if c.isAt '\x7b' then s.openFlow .flowMappingStart
  else if c.isAt ']' then s.closeFlow .flowSequenceEnd
  else if c.isAt '\x7d' then s.closeFlow .flowMappingEnd
  else if c.isAt ',' then s.flowEntry
  else if c.isAt '-' && c.gapAt 1 then s.blockEntry
  else if c.isAt '?' && (s.inFlow || c.gapAt 1) then s.explicitKey
  else if c.isAt ':' && (s.inFlow || c.gapAt 1) then s.value
  else if c.isAt '*' then s.keyToken (named .alias)
  else if c.isAt '&' then s.keyToken (named .anchor)
  else if c.isAt '!' then s.keyToken (readTag s.inFlow)
  else if c.isAt '|' && !s.inFlow then s.block .literal
  else if c.isAt '>' && !s.inFlow then s.block .folded
  else if c.isAt '\'' then s.keyToken (quoted .singleQuoted scanSingle)
  else if c.isAt '"' then s.keyToken (quoted .doubleQuoted scanDouble)
  else if beginsPlain s.inFlow c then s.plain
  else none

def run : Nat → Scanner → Option (List Token)
  | 0, _ => none
  | fuel + 1, s => do
    let s ← (skipToToken (s.cursor.rest.length + 1) s).expireKeys
    if s.cursor.atEnd then
      let s ← (s.unroll 0).dropKey
      return s.tokens
    else
      let s ← (s.unroll (s.cursor.column + 1)).token
      run fuel s

end Scanner

def tokens? (text : List Char) : Option (List Token) :=
  if text.all isAllowed then Scanner.run (text.length + 2) { cursor := { rest := text } } else none

end ContentTypes.Yaml
