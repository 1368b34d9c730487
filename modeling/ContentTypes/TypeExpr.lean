/-!
Type expressions as a declaration file writes them: names, arrays, unions and sets of string
literals, and the text of each.
-/

namespace ContentTypes

inductive TypeExpr where
  | named (name : String)
  | array (element : TypeExpr)
  | union (members : List TypeExpr)
  | literals (values : List String)
  deriving BEq, Inhabited

namespace TypeExpr

def null : TypeExpr := .named "null"

def arrayIf (t : TypeExpr) (multiple : Bool) : TypeExpr := if multiple then .array t else t

def spread : TypeExpr → List TypeExpr
  | .union members => members
  | t => [t]

/-- The union of several expressions. Unions among them are spread out, and a member that ends up
alone is returned as it is. -/
def unionOf (members : List TypeExpr) : TypeExpr :=
  match members.flatMap spread with
  | [t] => t
  | flat => .union flat

/-- The alternatives of an expression: the members of a union, the single literals of a literal set,
and of anything else the expression itself. -/
def members : TypeExpr → List TypeExpr
  | .union members => members
  | .literals values => values.map fun value => .literals [value]
  | t => [t]

def needsParentheses : TypeExpr → Bool
  | .union members => members.length > 1
  | .literals values => values.length > 1
  | _ => false

def literalText (value : String) : String := "'" ++ value ++ "'"

mutual

def text : TypeExpr → String
  | .named name => name
  | .array element =>
    if element.needsParentheses then "(" ++ element.text ++ ")[]" else element.text ++ "[]"
  | .union members => " | ".intercalate (texts members)
  | .literals values => " | ".intercalate (values.map literalText)

def texts : List TypeExpr → List String
  | [] => []
  | t :: rest => t.text :: texts rest

end

theorem texts_eq_map (ts : List TypeExpr) : texts ts = ts.map text := by
  induction ts with
  | nil => rfl
  | cons t rest ih => simp [texts, ih]

end TypeExpr

end ContentTypes
