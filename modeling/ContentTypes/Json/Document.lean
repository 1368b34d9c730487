import ContentTypes.Json.Value

/-!
A JSON text as it is met by someone who reads from left to right: a tree that keeps the order and
the repetitions of the text and ends where the text stops making sense. A string, a number or a deep
nesting can be harmless to pass over and impossible to keep, so nodes say both.
-/

namespace ContentTypes.Json

inductive Fault where
  | malformed
  | truncated
  deriving DecidableEq

/-- The place where the text stops making sense, for someone who keeps what is read and for someone
who passes over it. -/
structure Break where
  kept : Fault
  skipped : Fault
  deriving DecidableEq

def Break.same (f : Fault) : Break := ⟨f, f⟩

mutual

inductive Document where
  | null
  | bool (b : Bool)
  | number (n : Except Fault Number)
  | text (s : Except Fault String)
  /-- The flag says that the nesting is too deep for the array to be kept. -/
  | array (deep : Bool) (items : Items)
  /-- The flag says that the nesting is too deep for the object to be kept. -/
  | object (deep : Bool) (members : Members)
  | broken (b : Break)

/-- The items of an array as they are met. What follows a comma is always an item. -/
inductive Items where
  /-- The end of the array. The number of items is given if it was known from the start. -/
  | closed (total : Option Nat)
  | broken (b : Break)
  | item (value : Document) (rest : Items)

inductive Members where
  | closed
  | broken (b : Break)
  | member (key : Except Fault String) (value : Document) (rest : Members)

end

/-- The depth from which on arrays and objects cannot be kept. -/
def depthLimit : Nat := 128

instance : Inhabited Document := ⟨.null⟩

abbrev Reading := Except Fault

def refuseDeep (deep : Bool) : Reading Unit := if deep then .error .malformed else .ok ()

mutual

def Document.skip : Document → Reading Unit
  | .array _ items => items.skip
  | .object _ members => members.skip
  | .broken b => .error b.skipped
  | _ => .ok ()

def Items.skip : Items → Reading Unit
  | .closed _ => .ok ()
  | .broken b => .error b.skipped
  | .item value rest =>
    match value.skip with
    | .ok _ => rest.skip
    | .error f => .error f

def Members.skip : Members → Reading Unit
  | .closed => .ok ()
  | .broken b => .error b.skipped
  | .member _ value rest =>
    match value.skip with
    | .ok _ => rest.skip
    | .error f => .error f

end

mutual

def Document.value : Document → Reading Json
  | .null => .ok .null
  | .bool b => .ok (.bool b)
  | .number n => n.map .number
  | .text s => s.map .string
  | .array deep items =>
    match refuseDeep deep with
    | .ok _ => items.values.map .array
    | .error f => .error f
  | .object deep members =>
    match refuseDeep deep with
    | .ok _ => members.values.map .object
    | .error f => .error f
  | .broken b => .error b.kept

def Items.values : Items → Reading (List Json)
  | .closed _ => .ok []
  | .broken b => .error b.kept
  | .item value rest =>
    match value.value with
    | .ok j => rest.values.map (j :: ·)
    | .error f => .error f

def Members.values : Members → Reading (List (String × Json))
  | .closed => .ok []
  | .broken b => .error b.kept
  | .member key value rest =>
    match key with
    | .error f => .error f
    | .ok k =>
      match value.value with
      | .ok j => rest.values.map ((k, j) :: ·)
      | .error f => .error f

end

def insertMember {α : Type} (key : String) (value : α) : List (String × α) → List (String × α)
  | [] => [(key, value)]
  | (k, v) :: rest =>
    if key < k then (key, value) :: (k, v) :: rest
    else if k < key then (k, v) :: insertMember key value rest
    -- A key that is there already gets the new value.
    else (key, value) :: rest

/-- The members by key. Of a key that occurs again the last value counts. -/
def sortMembers {α : Type} (members : List (String × α)) : List (String × α) :=
  members.foldl (fun sorted m => insertMember m.1 m.2 sorted) []

def Items.ofList (total : Nat) : List Document → Items
  | [] => .closed (some total)
  | d :: rest => .item d (Items.ofList total rest)

def Members.ofList : List (String × Document) → Members
  | [] => .closed
  | (key, d) :: rest => .member (.ok key) d (Members.ofList rest)

mutual

/-- A value as a document: arrays of known length, and objects with their members by key. -/
def Document.ofJson : Json → Document
  | .null => .null
  | .bool b => .bool b
  | .number n => .number (.ok n)
  | .string s => .text (.ok s)
  | .array items => .array false (Items.ofList items.length (documentsOf items))
  | .object members => .object false (Members.ofList (sortMembers (memberDocumentsOf members)))

def documentsOf : List Json → List Document
  | [] => []
  | j :: rest => Document.ofJson j :: documentsOf rest

def memberDocumentsOf : List (String × Json) → List (String × Document)
  | [] => []
  | (key, j) :: rest => (key, Document.ofJson j) :: memberDocumentsOf rest

end

end ContentTypes.Json
