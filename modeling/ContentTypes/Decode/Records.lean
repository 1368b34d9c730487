import ContentTypes.Decode.Decoder
import ContentTypes.Record
import ContentTypes.Text.WhiteSpace

/-!
The decoders of the raw records. Tags come as an array or as one string with commas, depending on
who wrote the data.
-/

namespace ContentTypes

/-- The tags in a string with commas between them. White space around a tag is dropped, and so is a
tag of which nothing is left. -/
def splitTags (raw : String) : List String :=
  (((Text.splitAt ',' raw.toList).map Text.trim).filter (!·.isEmpty)).map String.ofList

namespace Decoder

def tagForms (d : Json.Document) : Option (List String) :=
  match list string d with
  | .ok tags => some tags
  | .error _ =>
    match string d with
    | .ok raw => some (splitTags raw)
    | .error _ => none

def tags : Decoder (List String) := fun d =>
  (option (anyForm "Special" tagForms) d).map (·.getD [])

def collectionMetaShape : Shape CollectionMeta where
  name := "CollectionMeta"
  slots := [.optional "singleton" flag fun m b => { m with singleton := b }]
  initial := {}

def collectionMeta : Decoder CollectionMeta := collectionMetaShape.decoder

def collectionShape : Shape Collection where
  name := "Collection"
  slots := [
    .needed "collection" string fun c s => { c with collection := s },
    .optional "meta" (option collectionMeta) fun c m => { c with metadata := m }]
  initial := {}

def collection : Decoder Collection := collectionShape.decoder

def columnInfoShape : Shape ColumnInfo where
  name := "FieldSchemaMeta"
  slots := [
    .optional "is_primary_key" flag fun i b => { i with isPrimaryKey := b },
    .optional "is_nullable" flag fun i b => { i with isNullable := b },
    .optional "is_generated" flag fun i b => { i with isGenerated := b }]
  initial := {}

def columnInfo : Decoder ColumnInfo := columnInfoShape.decoder

def fieldMetaShape : Shape FieldMeta where
  name := "FieldMeta"
  slots := [
    .optional "special" tags fun m t => { m with special := t },
    .optional "one_allowed_collections" (option (list string)) fun m l =>
      { m with oneAllowedCollections := l }]
  initial := {}

def fieldMeta : Decoder FieldMeta := fieldMetaShape.decoder

def fieldShape : Shape Field where
  name := "FieldSpec"
  slots := [
    .needed "collection" string fun f s => { f with collection := s },
    .needed "field" string fun f s => { f with field := s },
    .needed "type" string fun f s => { f with kind := s },
    .optional "schema" (option columnInfo) fun f i => { f with schema := i },
    .optional "meta" (option fieldMeta) fun f m => { f with metadata := m }]
  initial := {}

def field : Decoder Field := fieldShape.decoder

def relationMetaShape : Shape RelationMeta where
  name := "RelationMeta"
  slots := [
    .optional "one_collection" (option string) fun m s => { m with oneCollection := s },
    .optional "one_field" (option string) fun m s => { m with oneField := s },
    .optional "one_allowed_collections" (option (list string)) fun m l =>
      { m with oneAllowedCollections := l }]
  initial := {}

def relationMeta : Decoder RelationMeta := relationMetaShape.decoder

def relationShape : Shape Relation where
  name := "RelationSpec"
  slots := [
    .needed "collection" string fun r s => { r with collection := s },
    .needed "field" string fun r s => { r with field := s },
    .optional "related_collection" (option string) fun r s => { r with relatedCollection := s },
    .optional "meta" (option relationMeta) fun r m => { r with metadata := m }]
  initial := {}

def relation : Decoder Relation := relationShape.decoder

def dataModelShape : Shape DataModel where
  name := "DataModel"
  slots := [
    .optional "collections" (list collection) fun m l => { m with collections := l },
    .optional "fields" (list field) fun m l => { m with fields := l },
    .optional "relations" (list relation) fun m l => { m with relations := l }]
  initial := {}

def dataModel : Decoder DataModel := dataModelShape.decoder

end Decoder

end ContentTypes
