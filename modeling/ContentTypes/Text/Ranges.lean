/-!
Sets of characters written as ascending ranges of code points, ends included.
-/

namespace ContentTypes.Text

/-- Ranges of code points, ascending and apart from each other. -/
abbrev Ranges := List (Nat × Nat)

def Ranges.containsCode : Ranges → Nat → Bool
  | [], _ => false
  | (first, last) :: rest, n =>
    -- The ranges ascend, so the search stops in front of the number.
    if n < first then false else n ≤ last || Ranges.containsCode rest n

def Ranges.contains (ranges : Ranges) (c : Char) : Bool := ranges.containsCode c.toNat

end ContentTypes.Text
