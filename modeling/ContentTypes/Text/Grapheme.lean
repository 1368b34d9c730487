import ContentTypes.Text.GraphemeClass

/-!
A text as the characters a reader sees: each extended grapheme cluster is a run of code points that
belong together. The text is read once, with what the boundary rules need to know of the past kept
in a `Seam`.
-/

namespace ContentTypes.Text

/-- How far a joined picture has come: a picture with its marks, or that with a joiner after it. -/
inductive PictureSeam where
  | none
  | picture
  | joined
  deriving DecidableEq

/-- How far a conjunct has come: a consonant with its marks, or that with a linker among them. -/
inductive ConjunctSeam where
  | none
  | consonant
  | linked
  deriving DecidableEq

structure Seam where
  last : GraphemeClass
  /-- Whether an odd number of regional indicators ends the text so far. -/
  oddIndicators : Bool
  picture : PictureSeam
  conjunct : ConjunctSeam
  deriving DecidableEq

def PictureSeam.next (s : PictureSeam) (c : Char) : PictureSeam :=
  if isPictographic c then .picture
  else match s, GraphemeClass.of c with
    | .picture, .extend => .picture
    | .picture, .joiner => .joined
    | _, _ => .none

def ConjunctSeam.next (s : ConjunctSeam) (c : Char) : ConjunctSeam :=
  if isConjunctConsonant c then .consonant
  -- The non-joiner ends a conjunct although it extends the character before it.
  else if c.toNat = 0x200C then .none
  else match s, GraphemeClass.of c with
    | .none, _ => .none
    | _, .joiner => s
    | _, .extend => if isConjunctLinker c then .linked else s
    | _, _ => .none

def Seam.start (c : Char) : Seam :=
  ⟨.of c, GraphemeClass.of c == .regionalIndicator, PictureSeam.none.next c,
    ConjunctSeam.none.next c⟩

def Seam.next (s : Seam) (c : Char) : Seam :=
  ⟨.of c, GraphemeClass.of c == .regionalIndicator && !s.oddIndicators, s.picture.next c,
    s.conjunct.next c⟩

def GraphemeClass.standsAlone : GraphemeClass → Bool
  | .control | .carriageReturn | .lineFeed => true
  | _ => false

def Seam.joins (s : Seam) (c : Char) : Bool :=
  match s.last, GraphemeClass.of c with
  | .carriageReturn, .lineFeed => true
  | before, after =>
    if before.standsAlone || after.standsAlone then false
    else match before, after with
      | _, .extend | _, .joiner | _, .spacingMark => true
      | .prepend, _ => true
      | .hangulL, .hangulL | .hangulL, .hangulV | .hangulL, .hangulLV | .hangulL, .hangulLVT => true
      | .hangulLV, .hangulV | .hangulLV, .hangulT | .hangulV, .hangulV | .hangulV, .hangulT => true
      | .hangulLVT, .hangulT | .hangulT, .hangulT => true
      | .regionalIndicator, .regionalIndicator => s.oddIndicators
      | _, _ =>
        (s.conjunct == .linked && isConjunctConsonant c) ||
          (s.picture == .joined && isPictographic c)

/-- The clusters of the rest of a text whose current cluster, last character first, is given. -/
def clustersFrom (seam : Seam) (current : List Char) : List Char → List (List Char)
  | [] => [current.reverse]
  | c :: rest =>
    if seam.joins c then clustersFrom (seam.next c) (c :: current) rest
    else current.reverse :: clustersFrom (seam.next c) [c] rest

def graphemes : List Char → List (List Char)
  | [] => []
  | c :: rest => clustersFrom (.start c) [c] rest

end ContentTypes.Text
