/-!
What a plain scalar means when nothing says that it is a string: null, a truth value, a whole number
or a number with a fraction or exponent. A writer has to quote a string that would mean something
else.
-/

namespace ContentTypes.Yaml

def isNullWord (s : List Char) : Bool :=
  s = "null".toList || s = "Null".toList || s = "NULL".toList || s = "~".toList

def isBoolWord (s : List Char) : Bool :=
  ["true", "True", "TRUE", "false", "False", "FALSE"].any (·.toList = s)

def afterMark? : List Char → List Char → Option (List Char)
  | [], s => some s
  | _ :: _, [] => none
  | m :: mark, c :: s => if c = m then afterMark? mark s else none

def isSign (c : Char) : Bool := c = '+' || c = '-'

def startsWithSign (s : List Char) : Bool := s.head?.any isSign

/-- Digits that begin with a zero and go on, perhaps after a sign. They are no number. -/
def isPadded (s : List Char) : Bool :=
  match (if startsWithSign s then s.tail else s) with
  | '0' :: c :: rest => (c :: rest).all Char.isDigit
  | _ => false

def digitValue? (radix : Nat) (c : Char) : Option Nat :=
  let v :=
    if c.isDigit then c.toNat - 0x30
    else if 'a' ≤ c && c ≤ 'z' then c.toNat - 0x57
    else if 'A' ≤ c && c ≤ 'Z' then c.toNat - 0x37
    else radix
  if v < radix then some v else none

def digitsValue? (radix : Nat) (s : List Char) : Option Nat :=
  if s.isEmpty then none else s.foldlM (fun n c => (digitValue? radix c).map (radix * n + ·)) 0

def below (limit : Nat) (n : Nat) : Option Nat := if n < limit then some n else none

def markedValue? (mark : List Char) (radix limit : Nat) (s : List Char) : Option Nat :=
  (afterMark? mark s).bind fun digits => (digitsValue? radix digits).bind (below limit)

def notationValue? (sign : List Char) (limit : Nat) (s : List Char) : Option Nat :=
  markedValue? (sign ++ ['0', 'x']) 16 limit s <|> markedValue? (sign ++ ['0', 'o']) 8 limit s <|>
    markedValue? (sign ++ ['0', 'b']) 2 limit s

def natural? (limit : Nat) (s : List Char) : Option Nat :=
  let unsigned := if s.head? = some '+' then s.tail else s
  notationValue? [] limit unsigned <|>
    (if startsWithSign unsigned || isPadded s then none
      else (digitsValue? 10 unsigned).bind (below limit))

def magnitude? (limit : Nat) (s : List Char) : Option Nat :=
  notationValue? ['-'] (limit + 1) s <|>
    (if isPadded s then none else markedValue? ['-'] 10 (limit + 1) s)

def isWholeNumber (s : List Char) : Bool :=
  (natural? (Nat.pow 2 128) s).isSome || (magnitude? (Nat.pow 2 127) s).isSome

def isExponentMark (c : Char) : Bool := c = 'e' || c = 'E'

def exponent? : List Char → Option Int
  | [] => some 0
  | c :: rest =>
    if isExponentMark c then
      match rest with
      | '-' :: digits => (digitsValue? 10 digits).map fun n => -(n : Int)
      | '+' :: digits => (digitsValue? 10 digits).map fun n => (n : Int)
      | digits => (digitsValue? 10 digits).map fun n => (n : Int)
    else none

/-- Whether `digits * 10 ^ exponent` is read as a finite double-precision number. Beyond the middle
between the greatest one and the next power of two it is not. -/
def isFiniteDecimal (digits : Nat) (exponent : Int) : Bool :=
  let length : Int := (Nat.toDigits 10 digits).length
  if digits = 0 || length + exponent ≤ 308 then true
  else if 310 ≤ length + exponent then false
  else
    digits * Nat.pow 10 exponent.toNat <
      (Nat.pow 2 1024 - Nat.pow 2 970) * Nat.pow 10 (-exponent).toNat

def isDecimal (s : List Char) : Bool :=
  let whole := s.takeWhile Char.isDigit
  let rest := s.dropWhile Char.isDigit
  let (fraction, rest) := match rest with
    | '.' :: rest => (rest.takeWhile Char.isDigit, rest.dropWhile Char.isDigit)
    | rest => ([], rest)
  match digitsValue? 10 (whole ++ fraction), exponent? rest with
  | some digits, some exponent => isFiniteDecimal digits (exponent - fraction.length)
  | _, _ => false

def isFloat (s : List Char) : Bool :=
  let unsigned := if s.head? = some '+' then s.tail else s
  if s.head? = some '+' && startsWithSign unsigned then false
  else
    [".inf", ".Inf", ".INF"].any (·.toList = unsigned) ||
      ["-.inf", "-.Inf", "-.INF", ".nan", ".NaN", ".NAN"].any (·.toList = s) ||
      isDecimal (if startsWithSign unsigned then unsigned.tail else unsigned)

/-- Whether a plain scalar means something else than its own text, or is left to guess. -/
def needsQuotes (s : List Char) : Bool :=
  s.isEmpty || isNullWord s || isBoolWord s || isWholeNumber s || isFloat s || isPadded s

end ContentTypes.Yaml
