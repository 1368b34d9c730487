/-!
The content of a file or message as characters. A byte that belongs to no character stands as
`none`, so that a reader can pass over it or refuse it where it is met.
-/

namespace ContentTypes.Text

/-- Characters, and places where a byte belongs to no character. -/
abbrev Source := List (Option Char)

def Source.ofString (s : String) : Source := s.toList.map some

def utf8 (s : String) : List UInt8 := s.toList.flatMap String.utf8EncodeChar

/-- A character of which some bytes have been met: their number, how many are missing, the bits so
far, and the range that the next byte has to be in. -/
structure Partial where
  seen : Nat
  missing : Nat
  code : Nat
  low : Nat
  high : Nat

/-- What a byte starts: a character of one byte, a longer one, or nothing. The second byte is
bounded where a shorter encoding, a surrogate or a code point out of range would be met. -/
inductive Lead where
  | single (c : Char)
  | longer (p : Partial)
  | stray

def Lead.of (b : Nat) : Lead :=
  if b < 0x80 then .single (Char.ofNat b)
  else if b < 0xC2 then .stray
  else if b < 0xE0 then .longer ⟨1, 1, b - 0xC0, 0x80, 0xBF⟩
  else if b = 0xE0 then .longer ⟨1, 2, 0, 0xA0, 0xBF⟩
  else if b = 0xED then .longer ⟨1, 2, 0xD, 0x80, 0x9F⟩
  else if b < 0xF0 then .longer ⟨1, 2, b - 0xE0, 0x80, 0xBF⟩
  else if b = 0xF0 then .longer ⟨1, 3, 0, 0x90, 0xBF⟩
  else if b < 0xF4 then .longer ⟨1, 3, b - 0xF0, 0x80, 0xBF⟩
  else if b = 0xF4 then .longer ⟨1, 3, 4, 0x80, 0x8F⟩
  else .stray

def Partial.strays (p : Partial) : Source := List.replicate p.seen none

def decodeFrom : Option Partial → List UInt8 → Source
  | none, [] => []
  | some p, [] => p.strays
  | state, b :: rest =>
    let fresh (strays : Source) : Source :=
      match Lead.of b.toNat with
      | .single c => strays ++ some c :: decodeFrom none rest
      | .longer p => strays ++ decodeFrom (some p) rest
      | .stray => strays ++ none :: decodeFrom none rest
    match state with
    | none => fresh []
    | some p =>
      if p.low ≤ b.toNat && b.toNat ≤ p.high then
        let code := p.code * 64 + (b.toNat - 0x80)
        if p.missing = 1 then some (Char.ofNat code) :: decodeFrom none rest
        else decodeFrom (some ⟨p.seen + 1, p.missing - 1, code, 0x80, 0xBF⟩) rest
      -- The byte does not go on with the open character. It may start another one.
      else fresh p.strays

def Source.ofBytes (bytes : List UInt8) : Source := decodeFrom none bytes

/-- As much of a text as so many bytes hold. -/
def Source.beginning (s : String) (size : Nat) : Source := .ofBytes ((utf8 s).take size)

def Source.chars? : Source → Option (List Char)
  | [] => some []
  | none :: _ => none
  | some c :: rest => (Source.chars? rest).map (c :: ·)

/-- Characters are found again in a text of characters only. -/
theorem Source.chars?_map_some (cs : List Char) : Source.chars? (cs.map some) = some cs := by
  induction cs with
  | nil => rfl
  | cons c rest ih => simp [Source.chars?, ih]

end ContentTypes.Text
