import ContentTypes.Yaml.Meaning
import ContentTypes.Yaml.Scalar

/-!
How a string is written as a scalar. The style is chosen by what the string would mean without
quotes, and gives way to quotes where the string would not be read back.
-/

namespace ContentTypes.Yaml

def isWritable (c : Char) : Bool :=
  c = '\n' || (0x20 ≤ c.toNat && c.toNat ≤ 0x7E) ||
    (0xA0 ≤ c.toNat && c.toNat ≤ 0xFFFD && !isByteOrderMark c) || 0x10000 ≤ c.toNat

def hasAdjacent (first second : Char → Bool) : List Char → Bool
  | a :: b :: rest => (first a && second b) || hasAdjacent first second (b :: rest)
  | _ => false

def isSpaceChar (c : Char) : Bool := c = ' '

def isSpaceOrBreak (c : Char) : Bool := isSpaceChar c || isBreak c

def gapNext (s : List Char) : Bool := s.head?.all fun c => isSpaceOrTab c || isBreak c

/-- Whether a string holds a mark after its first character that ends a plain scalar: a colon in
front of a gap, or a number sign after one. -/
def hasInnerMark : Char → List Char → Bool
  | _, [] => false
  | before, c :: rest =>
    (c = ':' && gapNext rest) || (c = '#' && (isSpaceOrTab before || isBreak before)) ||
      hasInnerMark c rest

def hasLeadingMark : List Char → Bool
  | [] => false
  | c :: rest =>
    "#,[]\x7b\x7d&*!|>'\"%@\x60".toList.contains c ||
      ((c = '?' || c = ':' || c = '-') && gapNext rest)

def startsLikeMarker (s : List Char) : Bool :=
  ['-', '-', '-'].isPrefixOf s || ['.', '.', '.'].isPrefixOf s

def hasMark (s : List Char) : Bool :=
  startsLikeMarker s || hasLeadingMark s ||
    match s with
    | [] => false
    | c :: rest => hasInnerMark c rest

def hasUnwritable (s : List Char) : Bool := s.any fun c => !isWritable c

def hasLostSpace (s : List Char) : Bool := hasAdjacent isSpaceChar isBreak s

def plainAllowed (s : List Char) : Bool :=
  !s.head?.any isSpaceOrBreak && !s.getLast?.any isSpaceOrBreak && !s.any isBreak &&
    !hasUnwritable s && !hasMark s

def singleAllowed (s : List Char) : Bool :=
  !hasAdjacent isBreak isSpaceChar s && !hasLostSpace s && !hasUnwritable s

def literalAllowed (s : List Char) : Bool :=
  !s.getLast?.any isSpaceChar && !hasLostSpace s && !hasUnwritable s

def preferredStyle (s : List Char) : Style :=
  -- A string that would mean something else without quotes gets them.
  if s.contains '\n' then .literal else if needsQuotes s then .singleQuoted else .plain

/-- The style that a string is written in. Double quotes can hold everything. -/
def writtenStyle (preferred : Style) (s : List Char) : Style :=
  let quoted := if singleAllowed s then Style.singleQuoted else .doubleQuoted
  match preferred with
  | .plain => if plainAllowed s then .plain else quoted
  | .literal => if literalAllowed s then .literal else .doubleQuoted
  | .singleQuoted => quoted
  | style => style

def indentation (n : Nat) : List Char := List.replicate n ' '

/-- The inside of single quotes. A quote is written twice, and so is the first line feed of several
breaks; a line begins with the indentation. -/
def singleChars (indent : Nat) : Bool → List Char → List Char
  | newLine, [] => if newLine then indentation indent else []
  | newLine, c :: rest =>
    if isBreak c then
      (if !newLine && c = '\n' then ['\n', c] else [c]) ++ singleChars indent true rest
    else
      (if newLine && !isSpaceChar c then indentation indent else []) ++
        (if c = '\'' then ['\'', c] else [c]) ++
        singleChars indent (newLine && isSpaceChar c) rest

def upperHexDigit (n : Nat) : Char :=
  if n < 10 then Char.ofNat (0x30 + n) else Char.ofNat (0x37 + n)

def hexChars : Nat → Nat → List Char
  | 0, _ => []
  | count + 1, n => hexChars count (n / 16) ++ [upperHexDigit (n % 16)]

def escapeLetter? (c : Char) : Option Char :=
  match c.toNat with
  | 0x00 => some '0'
  | 0x07 => some 'a'
  | 0x08 => some 'b'
  | 0x09 => some 't'
  | 0x0A => some 'n'
  | 0x0B => some 'v'
  | 0x0C => some 'f'
  | 0x0D => some 'r'
  | 0x1B => some 'e'
  | 0x22 => some '"'
  | 0x5C => some '\\'
  | 0x85 => some 'N'
  | 0xA0 => some '_'
  | 0x2028 => some 'L'
  | 0x2029 => some 'P'
  | _ => none

def escapeChars (c : Char) : List Char :=
  '\\' :: match escapeLetter? c with
    | some letter => [letter]
    | none =>
      if c.toNat ≤ 0xFF then 'x' :: hexChars 2 c.toNat
      else if c.toNat ≤ 0xFFFF then 'u' :: hexChars 4 c.toNat
      else 'U' :: hexChars 8 c.toNat

def doubleChar (c : Char) : List Char :=
  if !isWritable c || isBreak c || c = '"' || c = '\\' then escapeChars c else [c]

def literalChars (indent : Nat) : Bool → List Char → List Char
  | _, [] => []
  | newLine, c :: rest =>
    -- An empty line is not indented.
    if isBreak c then c :: literalChars indent true rest
    else (if newLine then indentation indent else []) ++ c :: literalChars indent false rest

def indentHint (s : List Char) : List Char := if s.head?.any isSpaceOrBreak then ['2'] else []

/-- How the breaks at the end of a block are kept: none of them, the only one, or all. -/
def chompHint (s : List Char) : List Char :=
  match s.reverse with
  | last :: rest =>
    if !isBreak last then ['-']
    else if rest.head?.all isBreak then ['+'] else []
  | [] => ['-']

def scalarChars (indent : Nat) (style : Style) (s : List Char) : List Char :=
  match style with
  | .singleQuoted => '\'' :: singleChars indent false s ++ ['\'']
  | .doubleQuoted => '"' :: s.flatMap doubleChar ++ ['"']
  | .literal => '|' :: indentHint s ++ chompHint s ++ '\n' :: literalChars indent true s
  | _ => s

def entryChars (key : List Char) (written : List Char) : List Char :=
  -- A block ends its last line itself.
  key ++ ':' :: ' ' :: written ++ (if written.getLast?.any isBreak then [] else ['\n'])

def stringEntry (key : String) (value : String) : List Char :=
  let s := value.toList
  entryChars key.toList (scalarChars 2 (writtenStyle (preferredStyle s) s) s)

end ContentTypes.Yaml
