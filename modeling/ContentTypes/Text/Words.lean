import ContentTypes.Text.Grapheme
import ContentTypes.Text.LetterCase

/-!
The words of an identifier. Underscores, hyphens and spaces separate words and are dropped; a change
of letter case and a step between letters and digits separate words and keep everything. Two
separators in a row have an empty word between them.
-/

namespace ContentTypes.Text

def isUpperCluster (g : List Char) : Bool := upper g != lower g && g == upper g

def isLowerCluster (g : List Char) : Bool := upper g != lower g && g == lower g

def isDigitCluster (g : List Char) : Bool := g.all Char.isDigit

def isSeparatorCluster (g : List Char) : Bool := g == ['_'] || g == ['-'] || g == [' ']

/-- Whether a word ends after a cluster, given the clusters that follow. The last capital of a row
of capitals belongs to the word that its lower-case neighbour continues. -/
def endsWord (g : List Char) : List (List Char) → Bool
  | [] => false
  | next :: rest =>
    (isLowerCluster g && (isUpperCluster next || isDigitCluster next)) ||
    (isUpperCluster g && isDigitCluster next) ||
    (isDigitCluster g && (isLowerCluster next || isUpperCluster next)) ||
    (isUpperCluster g && isUpperCluster next &&
      match rest with
      | [] => false
      | third :: _ => isLowerCluster third)

def wordsOfClusters : List (List Char) → List (List Char)
  | [] => [[]]
  | g :: rest =>
    -- Two separators in a row have an empty word between them.
    if isSeparatorCluster g then [] :: wordsOfClusters rest
    else if endsWord g rest then g :: wordsOfClusters rest
    else match wordsOfClusters rest with
      | [] => [g]
      | word :: others => (g ++ word) :: others

def words (s : List Char) : List (List Char) := wordsOfClusters (graphemes s)

def camelCase (s : List Char) : List Char :=
  match words s with
  | [] => []
  | first :: others => lower first ++ others.flatMap capitalize

def pascalCase (s : List Char) : List Char := (words s).flatMap capitalize

end ContentTypes.Text
