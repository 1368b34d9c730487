import ContentTypes.Decode.Failure
import ContentTypes.Json.Reader

/-!
Decoders of single values and of records. A record is described by its slots in declaration order.
It is read from an object in the order of the members, or from an array in the order of the slots.
-/

namespace ContentTypes

open Json (Document Items Members)

abbrev Decoder (α : Type) := Document → Decoded α

namespace Decoder

/-- What a document is when it is not what was expected. The inside of an array or object is not
looked at. -/
def found : Document → Decoded Found
  | .null => .ok .null
  | .bool b => .ok (.bool b)
  | .number (.ok n) => .ok (.number n)
  | .number (.error f) => .error (.fault f)
  | .text (.ok s) => .ok (.string s)
  | .text (.error f) => .error (.fault f)
  | .array .. => .ok .sequence
  | .object .. => .ok .map
  | .broken b => .error (.fault b.kept)

def refuse {α : Type} (expected : String) (d : Document) : Decoded α :=
  match found d with
  | .ok f => .error (.mismatch (.wrongType f expected))
  | .error e => .error e

def stringAs (expected : String) : Decoder String
  | .text (.ok s) => .ok s
  | d => refuse expected d

def string : Decoder String := stringAs "a string"

def bool : Decoder Bool
  | .bool b => .ok b
  | d => refuse "a boolean" d

def option {α : Type} (dec : Decoder α) : Decoder (Option α)
  | .null => .ok none
  | d => (dec d).map some

def flag : Decoder Bool := fun d => (option bool d).map (·.getD false)

def amount : Decoder UInt64
  | .number (.ok (.natural n)) => .ok n
  | .number (.ok (.negative m)) =>
    .error (.mismatch (.wrongValue (.number (.negative m)) "usize"))
  | d => refuse "usize" d

def character : Decoder Char := fun d =>
  match stringAs "a character" d with
  | .error e => .error e
  | .ok s =>
    match s.toList with
    | [c] => .ok c
    | _ => .error (.mismatch (.wrongValue (.string s) "a character"))

def naming : Decoder Naming := fun d =>
  match string d with
  | .error e => .error e
  | .ok s =>
    match Naming.ofSelector s with
    | .ok n => .ok n
    | .error e => .error (.mismatch (.naming e))

def items {α : Type} (dec : Decoder α) : Items → Decoded (List α)
  | .closed _ => .ok []
  | .broken b => .error (.fault b.kept)
  | .item d rest =>
    match dec d with
    | .error e => .error e
    | .ok a => (items dec rest).map (a :: ·)

def list {α : Type} (dec : Decoder α) : Decoder (List α)
  | .array true _ => .error (.fault .malformed)
  | .array false is => items dec is
  | d => refuse "a sequence" d

/-- A value that has to be readable as a whole before its form is looked at. Whatever is wrong with
the form, the failure is that no form fits. -/
def anyForm {α : Type} (name : String) (forms : Document → Option α) : Decoder α := fun d =>
  match d.value with
  | .error f => .error (.fault f)
  | .ok _ =>
    match forms d with
    | some a => .ok a
    | none => .error (.mismatch (.noForm name))

end Decoder

/-- One value of a record: its key, whether it may be left out, and how it is read into the
record. -/
structure Slot (α : Type) where
  key : String
  required : Bool
  put : α → Document → Decoded α

namespace Slot

def needed {α β : Type} (key : String) (dec : Decoder β) (set : α → β → α) : Slot α :=
  ⟨key, true, fun a d => (dec d).map (set a)⟩

def optional {α β : Type} (key : String) (dec : Decoder β) (set : α → β → α) : Slot α :=
  ⟨key, false, fun a d => (dec d).map (set a)⟩

end Slot

structure Shape (α : Type) where
  name : String
  slots : List (Slot α)
  initial : α

namespace Shape

variable {α : Type}

def expectation (s : Shape α) : String := "struct " ++ s.name

def lengthExpectation (s : Shape α) : String :=
  s.expectation ++ " with " ++ toString s.slots.length ++
    (if s.slots.length = 1 then " element" else " elements")

def readMembers (slots : List (Slot α)) : Members → α → List String → Decoded (α × List String)
  | .closed, a, seen => .ok (a, seen)
  | .broken b, _, _ => .error (.fault b.kept)
  | .member (.error f) _ _, _, _ => .error (.fault f)
  | .member (.ok key) d rest, a, seen =>
    match slots.find? (·.key == key) with
    | none =>
      -- A key that the record does not know is passed over.
      match d.skip with
      | .error f => .error (.fault f)
      | .ok _ => readMembers slots rest a seen
    | some slot =>
      if seen.contains key then .error (.mismatch (.duplicateField key))
      else match slot.put a d with
        | .error e => .error e
        | .ok a => readMembers slots rest a (key :: seen)

def missing? (slots : List (Slot α)) (seen : List String) : Option (Slot α) :=
  slots.find? fun slot => slot.required && !seen.contains slot.key

def surplus : Items → DecodeError
  | .item _ rest => surplus rest
  | .closed (some total) => .mismatch (.wrongLength total "fewer elements in array")
  | .closed none | .broken _ => .fault .malformed

def readItems (s : Shape α) : List (Slot α) → Nat → Items → α → Decoded α
  | [], _, .closed _, a => .ok a
  | [], _, .broken b, _ => .error (.fault b.kept)
  | [], _, .item d rest, _ => .error (surplus (.item d rest))
  | _ :: _, _, .broken b, _ => .error (.fault b.kept)
  | slot :: slots, n, .closed total, a =>
    -- What is not there keeps its default, unless it is needed.
    if slot.required then .error (.mismatch (.wrongLength n s.lengthExpectation))
    else readItems s slots (n + 1) (.closed total) a
  | slot :: slots, n, .item d rest, a =>
    match slot.put a d with
    | .error e => .error e
    | .ok a => readItems s slots (n + 1) rest a

def decoder (s : Shape α) : Decoder α
  | .array true _ => .error (.fault .malformed)
  | .array false items => readItems s s.slots 0 items s.initial
  | .object true _ => .error (.fault .malformed)
  | .object false members =>
    match readMembers s.slots members s.initial [] with
    | .error e => .error e
    | .ok (a, seen) =>
      match missing? s.slots seen with
      | some slot => .error (.mismatch (.missingField slot.key))
      | none => .ok a
  | d => Decoder.refuse s.expectation d

end Shape

namespace Decoder

def ofJson {α : Type} (dec : Decoder α) (j : Json) : Decoded α := dec (.ofJson j)

/-- Decodes a whole text. What follows the value counts only if the value itself is in order. -/
def ofText {α : Type} (dec : Decoder α) (t : Json.Whole) : Decoded α :=
  match dec t.document with
  | .error e => .error e
  | .ok a => if t.trailing then .error (.fault .malformed) else .ok a

end Decoder

end ContentTypes
