import ContentTypes.Naming

/-!
The raw records of a data model: collections, their fields, and the relations between them. Nested
parts are optional, because the platform leaves them out of folders, aliases and system entries.
-/

namespace ContentTypes

structure CollectionMeta where
  /-- Whether the collection holds exactly one row. -/
  singleton : Bool := false
  deriving DecidableEq, Inhabited

structure Collection where
  collection : String := ""
  metadata : Option CollectionMeta := none
  deriving DecidableEq, Inhabited

structure ColumnInfo where
  isPrimaryKey : Bool := false
  isNullable : Bool := false
  isGenerated : Bool := false
  deriving DecidableEq, Inhabited

structure FieldMeta where
  /-- Tags such as `o2m`, `uuid` or `date-created`. -/
  special : List String := []
  /-- Carried along. The list that counts is the one of the relation. -/
  oneAllowedCollections : Option (List String) := none
  deriving DecidableEq, Inhabited

structure Field where
  collection : String := ""
  field : String := ""
  /-- The primitive type tag. -/
  kind : String := ""
  schema : Option ColumnInfo := none
  metadata : Option FieldMeta := none
  deriving DecidableEq, Inhabited

structure RelationMeta where
  /-- The collection that lists the rows pointing to it. -/
  oneCollection : Option String := none
  /-- The field that lists them. -/
  oneField : Option String := none
  /-- The collections that a many-to-any relation can point to. -/
  oneAllowedCollections : Option (List String) := none
  deriving DecidableEq, Inhabited

/-- One foreign-key column, `field` of `collection`. -/
structure Relation where
  collection : String := ""
  field : String := ""
  relatedCollection : Option String := none
  metadata : Option RelationMeta := none
  deriving DecidableEq, Inhabited

structure DataModel where
  collections : List Collection := []
  fields : List Field := []
  relations : List Relation := []
  deriving DecidableEq, Inhabited

namespace Collection

def asSingleton (c : Collection) : Collection := { c with metadata := some ⟨true⟩ }

def isSingleton (c : Collection) : Bool := c.metadata.any (·.singleton)

end Collection

namespace Field

def updateSchema (f : Field) (change : ColumnInfo → ColumnInfo) : Field :=
  { f with schema := some (change (f.schema.getD {})) }

def primaryKey (f : Field) : Field := f.updateSchema ({ · with isPrimaryKey := true })

def nullable (f : Field) : Field := f.updateSchema ({ · with isNullable := true })

def generated (f : Field) : Field := f.updateSchema ({ · with isGenerated := true })

def withSpecial (f : Field) (tags : List String) : Field :=
  { f with metadata := some { f.metadata.getD {} with special := tags } }

def isPrimaryKey (f : Field) : Bool := f.schema.any (·.isPrimaryKey)

def isNullable (f : Field) : Bool := f.schema.any (·.isNullable)

def isGenerated (f : Field) : Bool := f.schema.any (·.isGenerated)

def hasSpecial (f : Field) (tag : String) : Bool := f.metadata.any (·.special.contains tag)

/-- Whether the field stands for rows of another collection instead of a column of its own. -/
def isRelationAlias (f : Field) : Bool :=
  f.kind == "alias" && (f.hasSpecial "o2m" || f.hasSpecial "m2m" || f.hasSpecial "m2a")

end Field

namespace Relation

def manyToOne (collection field related : String) : Relation :=
  { collection, field, relatedCollection := some related }

def withOneField (r : Relation) (collection field : String) : Relation :=
  { r with
    metadata := some { r.metadata.getD {} with
      oneCollection := some collection
      oneField := some field } }

def withAllowedCollections (r : Relation) (collections : List String) : Relation :=
  { r with metadata := some { r.metadata.getD {} with oneAllowedCollections := some collections } }

def pointsBackTo (r : Relation) (collection field : String) : Bool :=
  r.metadata.any fun m => m.oneCollection == some collection && m.oneField == some field

def allowedCollections (r : Relation) : Option (List String) :=
  r.metadata.bind (·.oneAllowedCollections)

end Relation

end ContentTypes
