/-!
What a run reports on its way, besides its result.
-/

namespace ContentTypes

inductive DropReason where
  | generatedSystemColumn
  | unmappedType
  deriving DecidableEq

def DropReason.text : DropReason → String
  | .generatedSystemColumn => "generated system column"
  | .unmappedType => "unmapped type"

inductive Event where
  | duplicateCollection (collection : String)
  | droppedField (collection field kind : String) (reason : DropReason)
  | emptyCollection (collection : String)
  | builtSchema (collections : Nat)
  | loadedSnapshot (path : String) (collections fields relations : Nat)
  deriving DecidableEq

namespace Event

inductive Level where
  | debug
  | info
  deriving DecidableEq

def level : Event → Level
  | .builtSchema .. => .info
  | _ => .debug

def message : Event → String
  | .duplicateCollection .. => "Skipping duplicate collection"
  | .droppedField .. => "Dropping field"
  | .emptyCollection .. => "Dropping empty collection"
  | .builtSchema .. => "Built schema"
  | .loadedSnapshot .. => "Loaded snapshot"

def details : Event → List (String × String)
  | .duplicateCollection c | .emptyCollection c => [("collection", c)]
  | .droppedField c f k reason =>
    [("collection", c), ("field", f), ("kind", k), ("reason", reason.text)]
  | .builtSchema n => [("collections", toString n)]
  | .loadedSnapshot path c f r =>
    [("path", path), ("collections", toString c), ("fields", toString f), ("relations", toString r)]

def Level.text : Level → String
  | .debug => "DEBUG"
  | .info => "INFO"

def line (e : Event) : String :=
  e.level.text ++ " " ++ e.message ++ String.join (e.details.map fun d => " " ++ d.1 ++ "=" ++ d.2)

end Event

/-- What a command reports: what happened on the way, and what it did itself. -/
inductive Report where
  | event (e : Event)
  | wroteDeclarations (path : String) (collections : Nat)
  deriving DecidableEq

def Report.line : Report → String
  | .event e => e.line
  | .wroteDeclarations path n =>
    Event.Level.info.text ++ " Wrote declarations path=" ++ path ++ " collections=" ++ toString n

end ContentTypes
