import ContentTypes.Decimal.Binary64

/-!
The shortest decimal that reads back as a double-precision number, and its text. On each decimal
grid from one digit to seventeen the two neighbours of the value are tried; the first grid with a
point close enough wins, and of two such points the nearer one.
-/

namespace ContentTypes.Decimal

structure Quotient where
  num : Nat
  den : Nat

def Quotient.lt (a b : Quotient) : Bool := a.num * b.den < b.num * a.den

def Quotient.ofBinary (mantissa : Nat) (exponent : Int) : Quotient :=
  ⟨mantissa * Nat.pow 2 exponent.toNat, Nat.pow 2 (-exponent).toNat⟩

def Quotient.ofDecimal (digits : Nat) (exponent : Int) : Quotient :=
  ⟨digits * Nat.pow 10 exponent.toNat, Nat.pow 10 (-exponent).toNat⟩

/-- Whether a value is read back as the given magnitude: it lies between the midpoints to the two
neighbours, and a midpoint belongs to the even one. -/
def Magnitude.readsBack (m : Magnitude) (v : Quotient) : Bool :=
  let above := Quotient.ofBinary (2 * m.mantissa + 1) (m.exponent - 1)
  let below :=
    -- Below a power of two the next number is half as far away.
    if m.mantissa = Nat.pow 2 52 && leastExponent < m.exponent then
      Quotient.ofBinary (4 * m.mantissa - 1) (m.exponent - 2)
    else Quotient.ofBinary (2 * m.mantissa - 1) (m.exponent - 1)
  if m.mantissa % 2 = 0 then !v.lt below && !above.lt v else below.lt v && v.lt above

/-- The place of the first decimal digit of a value below one, searched downwards. -/
def leadingPlaceBelow (v : Quotient) : Nat → Int → Int
  | 0, place => place
  | steps + 1, place =>
    if v.lt (Quotient.ofDecimal 1 place) then leadingPlaceBelow v steps (place - 1) else place

/-- The exponent of ten of the first digit of a positive value. -/
def leadingPlace (v : Quotient) : Int :=
  if v.den ≤ v.num then ((Nat.toDigits 10 (v.num / v.den)).length : Int) - 1
  else leadingPlaceBelow v 400 (-1)

structure Digits where
  digits : Nat
  exponent : Int

def nearer (v a b : Quotient) : Bool :=
  let distance (x : Quotient) : Quotient :=
    ⟨max (v.num * x.den) (x.num * v.den) - min (v.num * x.den) (x.num * v.den), v.den * x.den⟩
  (distance a).lt (distance b)

/-- The best decimal on the grid of a given place, if one reads back. An exact tie goes to the even
digit. -/
def Magnitude.onGrid? (m : Magnitude) (v : Quotient) (place : Int) : Option Digits :=
  let low := v.num * Nat.pow 10 (-place).toNat / (v.den * Nat.pow 10 place.toNat)
  let lowValue := Quotient.ofDecimal low place
  let highValue := Quotient.ofDecimal (low + 1) place
  match m.readsBack lowValue, m.readsBack highValue with
  | false, false => none
  | true, false => some ⟨low, place⟩
  | false, true => some ⟨low + 1, place⟩
  | true, true =>
    if nearer v lowValue highValue then some ⟨low, place⟩
    else if nearer v highValue lowValue then some ⟨low + 1, place⟩
    else some ⟨if low % 2 = 0 then low else low + 1, place⟩

def Magnitude.shortest (m : Magnitude) : Digits :=
  let v := Quotient.ofBinary m.mantissa m.exponent
  let first := leadingPlace v
  -- No number needs more than seventeen digits.
  ((List.range 17).findSome? fun (n : Nat) => m.onGrid? v (first - (n : Int))).getD
    ⟨m.num / m.den, 0⟩

def Digits.trim : Nat → Digits → Digits
  | 0, d => d
  | steps + 1, d =>
    if d.digits % 10 = 0 && d.digits ≠ 0 then Digits.trim steps ⟨d.digits / 10, d.exponent + 1⟩
    else d

/-- The text of a decimal. It is positional as long as the point lies within sixteen digits to the
right of the first one or four zeros to its left; otherwise the exponent follows with its sign. -/
def Digits.text (d : Digits) : String :=
  let digits := Nat.toDigits 10 d.digits
  let point : Int := digits.length + d.exponent
  String.ofList <|
    if 0 ≤ d.exponent && point ≤ 16 then
      digits ++ List.replicate d.exponent.toNat '0' ++ ['.', '0']
    else if 0 < point && point ≤ 16 then
      digits.take point.toNat ++ '.' :: digits.drop point.toNat
    else if -5 < point && point ≤ 0 then
      '0' :: '.' :: List.replicate (-point).toNat '0' ++ digits
    else
      let exponent := point - 1
      let sign := if exponent < 0 then '-' else '+'
      digits.take 1 ++ (if digits.length = 1 then [] else '.' :: digits.drop 1) ++
        'e' :: sign :: Nat.toDigits 10 exponent.natAbs

def Binary64.text (x : Binary64) : String :=
  let sign := if x.negative then "-" else ""
  if x.mantissa = 0 then sign ++ "0.0"
  else sign ++ (x.magnitude.shortest.trim 400).text

end ContentTypes.Decimal
