import ContentTypes.Configuration
import ContentTypes.Text.Source
import ContentTypes.Yaml.Node
import ContentTypes.Yaml.Writer

/-!
Settings as a YAML file. A key that is not there leaves its setting alone, and a key that is not
known is passed over. Any scalar will do for a string.
-/

namespace ContentTypes

namespace Yaml

def text? (anchors : Anchors) (n : Node) : Option String :=
  match anchors.resolve? n with
  | some (.scalar text _ _) => some text
  | _ => none

def char? (anchors : Anchors) (n : Node) : Option Char := do
  match (← text? anchors n).toList with
  | [c] => some c
  | _ => none

def naming? (anchors : Anchors) (n : Node) : Option Naming := do
  match Naming.ofSelector (← text? anchors n) with
  | .ok naming => some naming
  | .error _ => none

def nullTag : String := "tag:yaml.org,2002:null"

def intTag : String := "tag:yaml.org,2002:int"

/-- A whole number of 64 bits, in a plain scalar or in a block that says it holds one. -/
def amount? (anchors : Anchors) (n : Node) : Option UInt64 :=
  match anchors.resolve? n with
  | some (.scalar text style tag) =>
    if style = .plain || (style = .literal && tag = some intTag) then
      (natural? (Nat.pow 2 64) text.toList).map .ofNat
    else none
  | _ => none

/-- A path, or nothing where the value is null. A plain scalar that is tagged as null has to be. -/
def path? (anchors : Anchors) (n : Node) : Option (Option String) :=
  match anchors.resolve? n with
  | some (.scalar text .plain none) =>
    if text.isEmpty || isNullWord text.toList then some none else some (some text)
  | some (.scalar text .plain (some tag)) =>
    if tag = nullTag then (if isNullWord text.toList then some none else none) else some (some text)
  | some (.scalar text _ _) => some (some text)
  | _ => none

structure Setting (α : Type) where
  key : String
  put : Anchors → α → Node → Option α

def Setting.of {α β : Type} (key : String) (read : Anchors → Node → Option β) (set : α → β → α) :
    Setting α :=
  ⟨key, fun anchors a n => (read anchors n).map (set a)⟩

def readEntries {α : Type} (anchors : Anchors) (settings : List (Setting α)) :
    List (Node × Node) → α → List String → Option α
  | [], a, _ => some a
  | (k, v) :: rest, a, seen =>
    match text? anchors k with
    | none => none
    | some key =>
      match settings.find? (·.key == key) with
      | none => readEntries anchors settings rest a seen
      | some setting =>
        -- A known key may come once; one that is not known may come as often as it likes.
        if seen.contains key then none
        else match setting.put anchors a v with
          | none => none
          | some a => readEntries anchors settings rest a (key :: seen)

/-- Reads settings from a mapping. Nothing at all is a mapping without entries. -/
def readSettings {α : Type} (settings : List (Setting α)) (initial : α) (anchors : Anchors)
    (n : Node) : Option α :=
  match anchors.resolve? n with
  | some (.mapping entries) => readEntries anchors settings entries initial []
  | some (.scalar text .plain _) => if text.isEmpty then some initial else none
  | _ => none

def indentSettings : List (Setting Indent) := [
  .of "amount" amount? fun i n => { i with amount := n },
  .of "char" char? fun i c => { i with character := c }]

def configurationSettings : List (Setting Configuration) := [
  .of "naming" naming? fun c n => { c with naming := n },
  .of "root_name" text? fun c s => { c with rootName := s },
  .of "module_name" text? fun c s => { c with moduleName := s },
  .of "indent" (readSettings indentSettings {}) fun c i => { c with indent := i },
  .of "output" path? fun c p => { c with output := p }]

end Yaml

namespace Configuration

def ofYaml? (content : Text.Source) : Option Configuration := do
  let tokens ← Yaml.tokens? (← content.chars?)
  let (node, anchors) ← Yaml.document? tokens
  Yaml.readSettings Yaml.configurationSettings {} anchors node

def indentChars (i : Indent) : List Char :=
  let character := [i.character]
  "indent:\n".toList ++
    Yaml.entryChars "  amount".toList (Nat.toDigits 10 i.amount.toNat) ++
    -- The character is quoted whatever it is: a blank or a digit would not be read back as text.
    Yaml.entryChars "  char".toList
      (Yaml.scalarChars 4 (Yaml.writtenStyle .singleQuoted character) character)

def yamlChars (c : Configuration) : List Char :=
  Yaml.stringEntry "naming" c.naming.selector ++
    Yaml.stringEntry "root_name" c.rootName ++
    Yaml.stringEntry "module_name" c.moduleName ++
    indentChars c.indent ++
    (match c.output with
      | some path => Yaml.stringEntry "output" path
      -- A path that is not set has no entry.
      | none => [])

def toYaml (c : Configuration) : String := String.ofList c.yamlChars

end Configuration

end ContentTypes
