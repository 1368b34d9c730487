import ContentTypes.Decode.Records

/-!
The decoders of a saved data model. Each of its lists may stand bare or as the `data` of an object,
the way the platform answers requests.
-/

namespace ContentTypes.Decoder

open Json (Document Members)

/-- The values of a key, if every key of the object can be read. -/
def valuesOf (key : String) : Members → List Document
  | .member (.ok k) d rest => if k = key then d :: valuesOf key rest else valuesOf key rest
  | _ => []

/-- The list in an envelope. There has to be exactly one. -/
def envelope? {α : Type} (dec : Decoder α) : Document → Option (List α)
  | .object _ members =>
    match valuesOf "data" members with
    | [d] => (list dec d).toOption
    | _ => none
  | _ => none

def payloadForms {α : Type} (dec : Decoder α) (d : Document) : Option (List α) :=
  match list dec d with
  | .ok as => some as
  | .error _ => envelope? dec d

def payload {α : Type} (dec : Decoder α) : Decoder (List α) := anyForm "Payload" (payloadForms dec)

def bundleShape : Shape DataModel where
  name := "Bundle"
  slots := [
    .needed "collections" (payload collection) fun m l => { m with collections := l },
    .needed "fields" (payload field) fun m l => { m with fields := l },
    .needed "relations" (payload relation) fun m l => { m with relations := l }]
  initial := {}

def bundle : Decoder DataModel := bundleShape.decoder

end ContentTypes.Decoder
