import ContentTypes.Configuration
import ContentTypes.Json.Value
import ContentTypes.Record
import ContentTypes.Schema

/-!
Records, schemas and settings as JSON. Every key is written, also of what is absent; only an output
path that is not set is left out.
-/

namespace ContentTypes

namespace Json

def option {α : Type} (encode : α → Json) : Option α → Json
  | none => .null
  | some a => encode a

def list {α : Type} (encode : α → Json) (as : List α) : Json := .array (as.map encode)

def strings (ss : List String) : Json := list .string ss

end Json

def CollectionMeta.encode (m : CollectionMeta) : Json := .object [("singleton", .bool m.singleton)]

def Collection.encode (c : Collection) : Json :=
  .object [
    ("collection", .string c.collection),
    ("meta", .option CollectionMeta.encode c.metadata)]

def ColumnInfo.encode (i : ColumnInfo) : Json :=
  .object [
    ("is_primary_key", .bool i.isPrimaryKey),
    ("is_nullable", .bool i.isNullable),
    ("is_generated", .bool i.isGenerated)]

def FieldMeta.encode (m : FieldMeta) : Json :=
  .object [
    ("special", .strings m.special),
    ("one_allowed_collections", .option .strings m.oneAllowedCollections)]

def Field.encode (f : Field) : Json :=
  .object [
    ("collection", .string f.collection),
    ("field", .string f.field),
    ("type", .string f.kind),
    ("schema", .option ColumnInfo.encode f.schema),
    ("meta", .option FieldMeta.encode f.metadata)]

def RelationMeta.encode (m : RelationMeta) : Json :=
  .object [
    ("one_collection", .option .string m.oneCollection),
    ("one_field", .option .string m.oneField),
    ("one_allowed_collections", .option .strings m.oneAllowedCollections)]

def Relation.encode (r : Relation) : Json :=
  .object [
    ("collection", .string r.collection),
    ("field", .string r.field),
    ("related_collection", .option .string r.relatedCollection),
    ("meta", .option RelationMeta.encode r.metadata)]

def DataModel.encode (m : DataModel) : Json :=
  .object [
    ("collections", .list Collection.encode m.collections),
    ("fields", .list Field.encode m.fields),
    ("relations", .list Relation.encode m.relations)]

def Naming.encode (n : Naming) : Json := .string n.selector

def BuildOptions.encode (o : BuildOptions) : Json := .object [("naming", o.naming.encode)]

def Indent.encode (i : Indent) : Json :=
  .object [
    ("amount", .natural i.amount),
    ("char", .string (String.ofList [i.character]))]

def RenderOptions.encode (o : RenderOptions) : Json :=
  .object [
    ("indent", o.indent.encode),
    ("root_name", .string o.rootName),
    ("module_name", .string o.moduleName)]

def Configuration.encode (c : Configuration) : Json :=
  .object <| [
    ("naming", c.naming.encode),
    ("root_name", .string c.rootName),
    ("module_name", .string c.moduleName),
    ("indent", c.indent.encode)] ++
    (match c.output with
      | some path => [("output", .string path)]
      | none => [])

def Json.tagged (kind key : String) (content : Json) : Json :=
  .object [("kind", .string kind), (key, content)]

mutual

def TypeExpr.encode : TypeExpr → Json
  | .named name => .tagged "named" "value" (.string name)
  | .array element => .tagged "array" "value" element.encode
  | .union members => .tagged "union" "value" (.array (TypeExpr.encodeAll members))
  | .literals values => .tagged "string_literals" "value" (.strings values)

def TypeExpr.encodeAll : List TypeExpr → List Json
  | [] => []
  | t :: rest => t.encode :: TypeExpr.encodeAll rest

end

def RelationKind.encode : RelationKind → Json
  | .none => .object [("kind", .string "none")]
  | .oneToMany target => .tagged "one_to_many" "target" (.string target)
  | .manyToOne target => .tagged "many_to_one" "target" (.string target)
  | .manyToAny targets => .tagged "many_to_any" "target" (.strings targets)

def FieldDefinition.encode (f : FieldDefinition) : Json :=
  .object [
    ("name", .string f.name),
    ("type", f.type.encode),
    ("nullable", .bool f.nullable),
    ("primary_key", .bool f.primaryKey),
    ("relation", f.relation.encode)]

def CollectionDefinition.encode (c : CollectionDefinition) : Json :=
  .object [
    ("name", .string c.name),
    ("system", .bool c.system),
    ("singleton", .bool c.singleton),
    ("fields", .list FieldDefinition.encode c.fields)]

def Schema.encode (s : Schema) : Json := .object (s.entries.map fun e => (e.1, e.2.encode))

end ContentTypes
