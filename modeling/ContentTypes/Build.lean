import ContentTypes.Event
import ContentTypes.PrimitiveType
import ContentTypes.Schema

/-!
From the raw data model to the schema. Nothing fails here: a field without a type, a generated
column of a system collection and a collection that ends up without fields are left out, and each of
them is reported.
-/

namespace ContentTypes

def Field.valueType? (f : Field) (relations : List Relation) : Option TypeExpr :=
  match f.discriminatorTargets relations with
  | some targets => some (.literals targets)
  | none =>
    match f.relationKind relations with
    -- A field that lists rows is an alias, and the tag of an alias has no type.
    | .oneToMany _ => some (.array ((primitiveType f.kind).getD .unknown))
    | _ => primitiveType f.kind

def Field.resolve (f : Field) (relations : List Relation) : Except DropReason FieldDefinition :=
  -- Only in system collections are generated columns left out.
  if isSystem f.collection && f.isGenerated then .error .generatedSystemColumn
  else match f.valueType? relations with
    | none => .error .unmappedType
    | some type => .ok {
        name := f.field
        type
        nullable := f.isNullable
        primaryKey := f.isPrimaryKey
        relation := f.relationKind relations }

def Field.dropped (f : Field) (reason : DropReason) : Event :=
  .droppedField f.collection f.field f.kind reason

namespace DataModel

def fieldsOf (m : DataModel) (identifier : String) : List Field :=
  m.fields.filter (·.collection == identifier)

def definitionsOf (m : DataModel) (identifier : String) : List FieldDefinition :=
  (m.fieldsOf identifier).filterMap fun f => (f.resolve m.relations).toOption

def dropsOf (m : DataModel) (identifier : String) : List Event :=
  (m.fieldsOf identifier).filterMap fun f =>
    match f.resolve m.relations with
    | .ok _ => none
    | .error reason => some (f.dropped reason)

def define (m : DataModel) (naming : Naming) (c : Collection) : CollectionDefinition where
  -- A system collection keeps the name that the platform gave it.
  name := if isSystem c.collection then c.collection else naming.apply c.collection
  system := isSystem c.collection
  singleton := c.isSingleton
  fields := m.definitionsOf c.collection

end DataModel

structure Built where
  schema : Schema
  events : List Event

namespace Built

def addCollection (m : DataModel) (naming : Naming) (b : Built) (c : Collection) : Built :=
  -- The first record of an identifier wins.
  if b.schema.contains c.collection then
    { b with events := b.events ++ [.duplicateCollection c.collection] }
  else
    ⟨b.schema.insert c.collection (m.define naming c), b.events ++ m.dropsOf c.collection⟩

def finish (b : Built) : Built :=
  let schema := b.schema.filter (!·.fields.isEmpty)
  let empties := b.schema.entries.filter (·.2.fields.isEmpty)
  ⟨schema, b.events ++ empties.map (.emptyCollection ·.1) ++ [.builtSchema schema.size]⟩

end Built

def DataModel.build (m : DataModel) (naming : Naming) : Built :=
  (m.collections.foldl (Built.addCollection m naming) ⟨.empty, []⟩).finish

end ContentTypes
