/-!
Characters of YAML and places in a text. A place knows its line and column, because indentation is a
matter of columns and a key has to fit on one line.
-/

namespace ContentTypes.Yaml

def isSpaceOrTab (c : Char) : Bool := c = ' ' || c = '\t'

def isBreak (c : Char) : Bool :=
  c = '\n' || c = '\r' || c.toNat = 0x85 || c.toNat = 0x2028 || c.toNat = 0x2029

def isWordChar (c : Char) : Bool := c.isAlphanum || c = '_' || c = '-'

def isAllowed (c : Char) : Bool :=
  c = '\t' || c = '\n' || c = '\r' || (0x20 ≤ c.toNat && c.toNat ≤ 0x7E) || c.toNat = 0x85 ||
    (0xA0 ≤ c.toNat && c.toNat ≤ 0xFFFD) || 0x10000 ≤ c.toNat

def isByteOrderMark (c : Char) : Bool := c.toNat = 0xFEFF

structure Cursor where
  rest : List Char
  index : Nat := 0
  line : Nat := 0
  column : Nat := 0
  deriving Inhabited

namespace Cursor

def ahead? (c : Cursor) (n : Nat) : Option Char := c.rest[n]?

def head? (c : Cursor) : Option Char := c.rest.head?

def atEnd (c : Cursor) : Bool := c.rest.isEmpty

def holds (c : Cursor) (n : Nat) (test : Char → Bool) : Bool := (c.ahead? n).any test

def isAt (c : Cursor) (x : Char) : Bool := c.holds 0 (· = x)

def blankAt (c : Cursor) (n : Nat) : Bool := c.holds n isSpaceOrTab

def breakAt (c : Cursor) (n : Nat) : Bool := c.holds n isBreak

def gapAt (c : Cursor) (n : Nat) : Bool :=
  match c.ahead? n with
  | none => true
  | some x => isSpaceOrTab x || isBreak x

def skip (c : Cursor) (n : Nat := 1) : Cursor :=
  ⟨c.rest.drop n, c.index + n, c.line, c.column + n⟩

def skipBreak (c : Cursor) : Cursor :=
  match c.rest with
  -- The two characters of one line end are one break.
  | '\r' :: '\n' :: rest => ⟨rest, c.index + 2, c.line + 1, 0⟩
  | _ :: rest => ⟨rest, c.index + 1, c.line + 1, 0⟩
  | [] => c

/-- What a break reads as. The two separators keep their identity. -/
def breakText (c : Cursor) : List Char :=
  match c.rest with
  | [] => []
  | x :: _ => if x.toNat = 0x2028 || x.toNat = 0x2029 then [x] else ['\n']

def skipWhile (c : Cursor) (test : Char → Bool) : Cursor := c.skip (c.rest.takeWhile test).length

def taken (c : Cursor) (test : Char → Bool) : List Char := c.rest.takeWhile test

def skipToBreak (c : Cursor) : Cursor := c.skipWhile fun x => !isBreak x

def atMarker (c : Cursor) : Bool :=
  c.column = 0 && (['-', '-', '-'].isPrefixOf c.rest || ['.', '.', '.'].isPrefixOf c.rest) &&
    c.gapAt 3

end Cursor

end ContentTypes.Yaml
