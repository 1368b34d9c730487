import ContentTypes.Record

/-!
The relation that a field carries. The flat list of relation records does not say it; it follows
from where the field turns up in the list.
-/

namespace ContentTypes

structure Link where
  collection : String
  /-- Whether the edge leads to any number of rows. -/
  multiple : Bool
  deriving DecidableEq

inductive RelationKind where
  | none
  /-- The field lists rows of another collection. -/
  | oneToMany (target : String)
  /-- The field refers to one row of another collection. -/
  | manyToOne (target : String)
  /-- The field refers to one row of any of several collections. -/
  | manyToAny (targets : List String)
  deriving DecidableEq, Inhabited

def RelationKind.links : RelationKind → List Link
  | .none => []
  | .oneToMany target => [⟨target, true⟩]
  | .manyToOne target => [⟨target, false⟩]
  | .manyToAny targets => targets.map fun target => ⟨target, false⟩

def discriminatorField : String := "collection"

def itemField : String := "item"

def forwardRelation? (relations : List Relation) (collection field : String) : Option Relation :=
  relations.find? fun r => r.collection == collection && r.field == field

def reverseRelation? (relations : List Relation) (collection field : String) : Option Relation :=
  relations.find? (·.pointsBackTo collection field)

/-- What a foreign key refers to. A single target wins over a list of allowed ones. -/
def Relation.forwardKind (r : Relation) : RelationKind :=
  match r.relatedCollection, r.allowedCollections with
  | some target, _ => .manyToOne target
  | Option.none, some targets => .manyToAny targets
  | Option.none, Option.none => .none

/-- The relation carried by a field. The other side is searched only for a primary key that stands
for rows elsewhere. -/
def Field.relationKind (f : Field) (relations : List Relation) : RelationKind :=
  let forward :=
    match forwardRelation? relations f.collection f.field with
    | some r => r.forwardKind
    | Option.none => .none
  if f.isRelationAlias && f.isPrimaryKey then
    match reverseRelation? relations f.collection f.field with
    | some r => .oneToMany r.collection
    | Option.none => forward
  else forward

def Field.discriminatorTargets (f : Field) (relations : List Relation) : Option (List String) :=
  if f.field = discriminatorField then
    (forwardRelation? relations f.collection itemField).bind (·.allowedCollections)
  else Option.none

end ContentTypes
