import ContentTypes.Json.Document
import ContentTypes.Naming
import ContentTypes.Text.Quoted

/-!
Why a document does not decode into a record, and the message that says so.
-/

namespace ContentTypes

inductive Found where
  | null
  | bool (b : Bool)
  | number (n : Json.Number)
  | string (s : String)
  | sequence
  | map
  deriving DecidableEq

def codeQuoted (s : String) : String := "\x60" ++ s ++ "\x60"

def Found.text : Found → String
  | .null => "null"
  | .bool b => "boolean " ++ codeQuoted (if b then "true" else "false")
  | .number (.float x) => "floating point " ++ codeQuoted x.text
  | .number n => "integer " ++ codeQuoted n.text
  | .string s => "string " ++ Text.showQuoted s
  | .sequence => "sequence"
  | .map => "map"

inductive Mismatch where
  | missingField (name : String)
  | duplicateField (name : String)
  | wrongType (found : Found) (expected : String)
  | wrongValue (found : Found) (expected : String)
  | wrongLength (length : Nat) (expected : String)
  /-- None of the forms that are allowed for a value fits. -/
  | noForm (name : String)
  | naming (e : UnknownNaming)
  deriving DecidableEq

def Mismatch.message : Mismatch → String
  | .missingField name => "missing field " ++ codeQuoted name
  | .duplicateField name => "duplicate field " ++ codeQuoted name
  | .wrongType found expected => "invalid type: " ++ found.text ++ ", expected " ++ expected
  | .wrongValue found expected => "invalid value: " ++ found.text ++ ", expected " ++ expected
  | .wrongLength length expected =>
    "invalid length " ++ toString length ++ ", expected " ++ expected
  | .noForm name => "data did not match any variant of untagged enum " ++ name
  | .naming e => e.message

/-- Why decoding stopped: the text makes no sense, or it does and is not what is asked for. -/
inductive DecodeError where
  | fault (f : Json.Fault)
  | mismatch (m : Mismatch)
  deriving DecidableEq

abbrev Decoded := Except DecodeError

end ContentTypes
