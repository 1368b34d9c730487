import ContentTypes.Declarations
import ContentTypes.Naming

/-!
The settings of a run. Every one of them has a default, and an output path may be absent.
-/

namespace ContentTypes

structure BuildOptions where
  naming : Naming := .database
  deriving DecidableEq, Inhabited

structure Configuration where
  naming : Naming := .database
  /-- The interface that lists the collections users own. -/
  rootName : String := "DirectusSchema"
  /-- The module that the first block belongs to. -/
  moduleName : String := "#app"
  indent : Indent := {}
  /-- Where the declarations go when no other place is named. -/
  output : Option String := none
  deriving DecidableEq, Inhabited

namespace Configuration

def setNaming (c : Configuration) (selector : String) : Except UnknownNaming Configuration :=
  (Naming.ofSelector selector).map fun naming => { c with naming }

def buildOptions (c : Configuration) : BuildOptions := ⟨c.naming⟩

def renderOptions (c : Configuration) : RenderOptions := ⟨c.indent, c.rootName, c.moduleName⟩

end Configuration

end ContentTypes
