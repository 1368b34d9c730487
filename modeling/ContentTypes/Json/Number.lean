import ContentTypes.Decimal.Shortest

/-!
Numbers of JSON. A whole number that fits 64 bits is kept as it is, and every other number becomes a
double-precision number. A minus sign in front of zero makes it one.
-/

namespace ContentTypes.Json

open Decimal

inductive Number where
  | natural (n : UInt64)
  /-- A negative whole number, given by its magnitude. -/
  | negative (magnitude : UInt64)
  | float (x : Binary64)
  deriving DecidableEq, Inhabited

def Number.text : Number → String
  | .natural n => toString n.toNat
  | .negative m => "-" ++ toString m.toNat
  | .float x => x.text

/-- The digits of a number taken together: a significand below `2 ^ 64` and a power of ten. -/
structure Significand where
  value : Nat := 0
  exponent : Int := 0
  /-- Whether further digits are left out because the significand is full. -/
  full : Bool := false
  deriving DecidableEq

namespace Significand

/-- Takes in a digit before the point. A digit without room counts as a zero, and so does every one
after it. -/
def addWhole (s : Significand) (digit : Nat) : Significand :=
  if s.full || Nat.pow 2 64 ≤ s.value * 10 + digit then
    { s with exponent := s.exponent + 1, full := true }
  else { s with value := s.value * 10 + digit }

/-- Takes in a digit after the point. A digit without room is left out, and so is every one after
it. -/
def addFraction (s : Significand) (digit : Nat) : Significand :=
  if s.full || Nat.pow 2 64 ≤ s.value * 10 + digit then { s with full := true }
  else { s with value := s.value * 10 + digit, exponent := s.exponent - 1 }

def ofWhole (digits : List Nat) : Significand := digits.foldl addWhole {}

/-- The fraction is tried afresh where the whole part was full. -/
def withFraction (s : Significand) (digits : List Nat) : Significand :=
  digits.foldl addFraction { s with full := false }

end Significand

structure Numeral where
  negative : Bool
  whole : List Nat
  /-- The digits after the point, if there is a point. -/
  fraction : Option (List Nat) := none
  /-- The exponent of ten, if one is written. -/
  exponent : Option Int := none

namespace Numeral

def float? (n : Numeral) : Option Binary64 :=
  let s := Significand.ofWhole n.whole
  let s := match n.fraction with
    | some digits => s.withFraction digits
    | none => s
  (Magnitude.ofDecimal? s.value (s.exponent + n.exponent.getD 0)).map (.ofMagnitude n.negative)

def number? (n : Numeral) : Option Number :=
  let s := Significand.ofWhole n.whole
  if n.fraction.isNone && n.exponent.isNone && !s.full then
    if !n.negative then some (.natural (.ofNat s.value))
    -- Among the floating-point numbers zero has a sign.
    else if s.value = 0 then some (.float ⟨true, 0, leastExponent⟩)
    else if s.value ≤ Nat.pow 2 63 then some (.negative (.ofNat s.value))
    else n.float?.map .float
  else n.float?.map .float

end Numeral

end ContentTypes.Json
