/-!
Double-precision numbers as exact values: a whole number of units times a power of two. Rounding a
quotient and scaling by a power of ten are done on natural numbers.
-/

namespace ContentTypes.Decimal

/-- The number `±mantissa * 2 ^ exponent`. A mantissa below `2 ^ 52` occurs with the least exponent
only. -/
structure Binary64 where
  negative : Bool
  mantissa : Nat
  exponent : Int
  deriving DecidableEq, Inhabited

structure Magnitude where
  mantissa : Nat
  exponent : Int
  deriving DecidableEq, Inhabited

def leastExponent : Int := -1074

def greatestExponent : Int := 971

def Magnitude.num (m : Magnitude) : Nat := m.mantissa * Nat.pow 2 m.exponent.toNat

def Magnitude.den (m : Magnitude) : Nat := Nat.pow 2 (-m.exponent).toNat

/-- The whole number nearest to a quotient; of two the even one. -/
def roundQuotient (num den : Nat) : Nat :=
  let q := num / den
  let twice := 2 * (num % den)
  if den < twice || (twice = den && q % 2 = 1) then q + 1 else q

def roundAt (num den : Nat) (e : Int) : Nat :=
  roundQuotient (num * Nat.pow 2 (-e).toNat) (den * Nat.pow 2 e.toNat)

/-- The least exponent at which the quotient has at most 53 binary digits. -/
def unitExponent (num den : Nat) : Int :=
  let guess : Int := (num.log2 : Int) - (den.log2 : Int) - 53
  -- The quotient of the logarithms is off by at most one.
  if num * Nat.pow 2 (-guess).toNat < Nat.pow 2 53 * den * Nat.pow 2 guess.toNat then guess
  else guess + 1

def Magnitude.ofQuotient? (num den : Nat) : Option Magnitude :=
  if num = 0 then some ⟨0, leastExponent⟩
  else
    let e := max (unitExponent num den) leastExponent
    let m := roundAt num den e
    -- Rounding up may lead to the next power of two.
    let (m, e) := if m = Nat.pow 2 53 then (Nat.pow 2 52, e + 1) else (m, e)
    if greatestExponent < e then none else some ⟨m, e⟩

def greatestPowerOfTen : Nat := 308

/-- Divides by a power of ten in steps of at most 308 places. Nothing is left after four steps. -/
def Magnitude.divideByPower : Nat → Magnitude → Nat → Option Magnitude
  | 0, _, _ => some ⟨0, leastExponent⟩
  | steps + 1, m, places =>
    if m.mantissa = 0 then some m
    else do
      let power ← Magnitude.ofQuotient? (Nat.pow 10 (min places greatestPowerOfTen)) 1
      let quotient ← Magnitude.ofQuotient? (m.num * power.den) (m.den * power.num)
      if places ≤ greatestPowerOfTen then some quotient
      else quotient.divideByPower steps (places - greatestPowerOfTen)

/-- A decimal significand times a power of ten. The significand is rounded first and scaled by a
rounded power of ten afterwards. Nothing is returned when the result is too large. -/
def Magnitude.ofDecimal? (significand : Nat) (exponent : Int) : Option Magnitude := do
  let m ← Magnitude.ofQuotient? significand 1
  if exponent < 0 then m.divideByPower 4 (-exponent).toNat
  else if m.mantissa = 0 then some m
  else if greatestPowerOfTen < exponent.toNat then none
  else
    let power ← Magnitude.ofQuotient? (Nat.pow 10 exponent.toNat) 1
    Magnitude.ofQuotient? (m.num * power.num) (m.den * power.den)

def Binary64.magnitude (x : Binary64) : Magnitude := ⟨x.mantissa, x.exponent⟩

def Binary64.ofMagnitude (negative : Bool) (m : Magnitude) : Binary64 :=
  ⟨negative, m.mantissa, m.exponent⟩

end ContentTypes.Decimal
