import ContentTypes.Text.Words

/-!
How a collection identifier becomes the name of an interface. A strategy is chosen once by its
selector.
-/

namespace ContentTypes

inductive Naming where
  /-- Identifiers are kept as they are. -/
  | database
  | camelCase
  | pascalCase
  deriving DecidableEq, Inhabited

structure UnknownNaming where
  selector : String
  deriving DecidableEq

def UnknownNaming.message (e : UnknownNaming) : String :=
  "unknown naming strategy '" ++ e.selector ++ "' (expected database, camelcase or pascalcase)"

namespace Naming

def all : List Naming := [.database, .camelCase, .pascalCase]

def selector : Naming → String
  | .database => "database"
  | .camelCase => "camelcase"
  | .pascalCase => "pascalcase"

def ofSelector (s : String) : Except UnknownNaming Naming :=
  match all.find? (·.selector == s) with
  | some naming => .ok naming
  | none => .error ⟨s⟩

def apply (naming : Naming) (identifier : String) : String :=
  match naming with
  | .database => identifier
  | .camelCase => String.ofList (Text.camelCase identifier.toList)
  | .pascalCase => String.ofList (Text.pascalCase identifier.toList)

/-- Every strategy is chosen by its own selector. -/
theorem ofSelector_selector (naming : Naming) : ofSelector naming.selector = .ok naming := by
  cases naming <;> rfl

end Naming

def systemMark : String := "directus_"

def isSystem (identifier : String) : Bool := systemMark.toList.isPrefixOf identifier.toList

end ContentTypes
