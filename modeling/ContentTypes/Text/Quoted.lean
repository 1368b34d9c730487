import ContentTypes.Text.GraphemeExtend
import ContentTypes.Text.Unprintable

/-!
A text in double quotes as it is shown in a message: what could not be told apart or seen is
escaped.
-/

namespace ContentTypes.Text

def escapeCode (c : Char) : List Char :=
  ['\\', 'u', '\x7b'] ++ Nat.toDigits 16 c.toNat ++ ['\x7d']

/-- A character as it is shown between double quotes. A mark that would join the character before it
is shown by its code point, and so is everything without a visible form. -/
def showChar (c : Char) : List Char :=
  if c.toNat = 0 then ['\\', '0']
  else if c = '\t' then ['\\', 't']
  else if c = '\r' then ['\\', 'r']
  else if c = '\n' then ['\\', 'n']
  else if c = '\\' then ['\\', '\\']
  else if c = '"' then ['\\', '"']
  else if isGraphemeExtend c then escapeCode c
  else if isPrintable c then [c]
  else escapeCode c

def showQuoted (s : String) : String := String.ofList ('"' :: s.toList.flatMap showChar ++ ['"'])

end ContentTypes.Text
