import ContentTypes.Schema
import ContentTypes.Sorting

/-!
The declaration file of a schema. Its body is declared twice, as part of an application module and
in the global scope, so that its types are known with or without an import. Collections come in
ascending order of their identifiers, the primary key of a collection comes first and its other
fields follow by name.
-/

namespace ContentTypes

structure Indent where
  amount : UInt64 := 4
  character : Char := ' '
  deriving DecidableEq, Inhabited

def Indent.unit (i : Indent) : String := String.ofList (List.replicate i.amount.toNat i.character)

structure RenderOptions where
  indent : Indent := {}
  /-- The interface that lists the collections users own. -/
  rootName : String := "DirectusSchema"
  /-- The module that the first block belongs to. -/
  moduleName : String := "#app"
  deriving DecidableEq, Inhabited

def allCollectionsRoot : String := "AllDirectusCollections"

def systemTypesModule : String := "@directus/sdk"

structure Imports where
  names : List String := []
  deriving DecidableEq, Inhabited

namespace Imports

def isEmpty (i : Imports) : Bool := i.names.isEmpty

def add (i : Imports) (name : String) : Imports :=
  if i.names.contains name then i else ⟨i.names ++ [name]⟩

def statement (i : Imports) : String :=
  if i.isEmpty then ""
  else "import \x7b " ++ ", ".intercalate i.names ++ " \x7d from '" ++ systemTypesModule ++ "';\n\n"

end Imports

def systemTypeName (identifier : String) : String := Naming.pascalCase.apply identifier

namespace Schema

/-- The type that a link to a collection is written with. A collection that is not in the schema has
the empty name. -/
def linkTarget (s : Schema) (identifier : String) : TypeExpr :=
  if isSystem identifier then
    .named (systemTypeName identifier ++ "<" ++ allCollectionsRoot ++ ">")
  else
    .named (match s.get? identifier with
      | some c => c.name
      | none => "")

def linkType (s : Schema) (link : Link) : TypeExpr :=
  (s.linkTarget link.collection).arrayIf link.multiple

end Schema

def Imports.addLink (i : Imports) (link : Link) : Imports :=
  if isSystem link.collection then i.add (systemTypeName link.collection) else i

namespace FieldDefinition

def links (f : FieldDefinition) : List Link := f.relation.links

end FieldDefinition

/-- The rendered type of a field that is not the primary key, with the imports it needs. Each link
is put in front of what is there, so the last one comes first; `null` closes a nullable field. -/
def Schema.fieldType (s : Schema) (f : FieldDefinition) (imports : Imports) : TypeExpr × Imports :=
  let linked := f.links.foldl (fun members link => s.linkType link :: members) f.type.members
  -- Links are put in front one by one, so the last of them comes first.
  let members := if f.nullable then linked ++ [.null] else linked
  (.unionOf members, f.links.foldl .addLink imports)

def sortByName (fields : List FieldDefinition) : List FieldDefinition :=
  sortBy (fun a b => decide (a.name ≤ b.name)) fields

def memberLine (indent name : String) (type : TypeExpr) : String :=
  indent ++ name ++ ": " ++ type.text ++ ";"

def Schema.memberLines (s : Schema) (indent : String) :
    List FieldDefinition → Imports → List String × Imports
  | [], imports => ([], imports)
  | f :: rest, imports =>
    let (type, imports) := s.fieldType f imports
    let (lines, imports) := s.memberLines indent rest imports
    (memberLine indent f.name type :: lines, imports)

def CollectionDefinition.keyLines (c : CollectionDefinition) (indent : String) : List String :=
  match c.primaryKey? with
  -- A key is shown with its own type, without its links and without `null`.
  | some f => [memberLine indent f.name f.type]
  | none => []

def CollectionDefinition.plainFields (c : CollectionDefinition) : List FieldDefinition :=
  sortByName (c.fields.filter (!·.primaryKey))

def Schema.interfaceLines (s : Schema) (indent : String) (c : CollectionDefinition)
    (imports : Imports) : List String × Imports :=
  let (lines, imports) := s.memberLines indent c.plainFields imports
  (("interface " ++ c.name ++ " \x7b") :: c.keyLines indent ++ lines ++ ["\x7d"], imports)

def Schema.interfacesLines (s : Schema) (indent : String) :
    List CollectionDefinition → Imports → List String × Imports
  | [], imports => ([], imports)
  | c :: rest, imports =>
    let (lines, imports) := s.interfaceLines indent c imports
    let (more, imports) := s.interfacesLines indent rest imports
    (lines ++ [""] ++ more, imports)

def rootEntry (indent identifier : String) (c : CollectionDefinition) : String :=
  -- A singleton has one row, any other collection a list of them.
  memberLine indent identifier ((TypeExpr.named c.name).arrayIf !c.singleton)

def rootLines (indent name : String) (entries : List (String × CollectionDefinition)) :
    List String :=
  ("export interface " ++ name ++ " \x7b") :: entries.map (fun e => rootEntry indent e.1 e.2) ++
    ["\x7d"]

def Schema.userEntries (s : Schema) : List (String × CollectionDefinition) :=
  s.entries.filter fun e => !isSystem e.1

def Schema.bodyLines (s : Schema) (indent rootName : String) : List String × Imports :=
  let (lines, imports) := s.interfacesLines indent (s.entries.map (·.2)) {}
  (lines ++ rootLines indent rootName s.userEntries ++ [""] ++
    rootLines indent allCollectionsRoot s.entries, imports)

def blockLine (indent line : String) : String :=
  -- A blank line stays without indentation.
  if line.isEmpty then "\n" else indent ++ line ++ "\n"

def declareBlock (header : String) (body : List String) (indent : String) : String :=
  header ++ " \x7b\n" ++ String.join (body.map (blockLine indent)) ++ "\x7d\n"

def Schema.render (s : Schema) (options : RenderOptions) : String :=
  let indent := options.indent.unit
  let (body, imports) := s.bodyLines indent options.rootName
  imports.statement ++
    declareBlock ("declare module '" ++ options.moduleName ++ "'") body indent ++ "\n" ++
    declareBlock "declare global" body indent ++ "\n" ++
    "export \x7b\x7d;\n"

end ContentTypes
