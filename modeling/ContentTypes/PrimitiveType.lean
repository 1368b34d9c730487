import ContentTypes.TypeExpr

/-!
The type that stands for the values of a primitive type tag.
-/

namespace ContentTypes

namespace TypeExpr

def number : TypeExpr := .named "number"

def boolean : TypeExpr := .named "boolean"

def string : TypeExpr := .named "string"

def unknown : TypeExpr := .named "unknown"

end TypeExpr

/-- The type of a tag, or nothing for a tag whose values have no type of their own. Geometry tags
may name a shape after a dot. -/
def primitiveType (tag : String) : Option TypeExpr :=
  match tag with
  | "bigInteger" | "integer" | "float" | "decimal" => some .number
  | "boolean" => some .boolean
  | "string" | "text" | "uuid" | "hash" => some .string
  | "date" | "dateTime" | "time" | "timestamp" => some .string
  | "json" | "geometry" => some .unknown
  | "csv" => some (.array .string)
  | _ => if "geometry.".toList.isPrefixOf tag.toList then some .unknown else none

end ContentTypes
