/-! Numbers in hexadecimal digits, large or small. -/

namespace ContentTypes.Text

def hexDigit? (x : Char) : Option Nat :=
  if x.isDigit then some (x.toNat - 0x30)
  else if 'a' ≤ x && x ≤ 'f' then some (x.toNat - 0x57)
  else if 'A' ≤ x && x ≤ 'F' then some (x.toNat - 0x37)
  else none

def hexValue? (digits : List Char) : Option Nat :=
  digits.foldlM (fun n x => (hexDigit? x).map (16 * n + ·)) 0

/-- A further digit counts for itself, and those before it for sixteen times as much. -/
theorem hexValue?_append_singleton {digits : List Char} {x : Char} {n m : Nat}
    (hdigits : hexValue? digits = some n) (hx : hexDigit? x = some m) :
    hexValue? (digits ++ [x]) = some (16 * n + m) := by
  unfold hexValue? at hdigits ⊢
  rw [List.foldlM_append, hdigits]
  simp only [List.foldlM_cons, List.foldlM_nil, hx, Option.map_some, Option.bind_eq_bind,
    Option.bind_some, Option.pure_def]

end ContentTypes.Text
