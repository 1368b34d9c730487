import ContentTypes.Arguments
import ContentTypes.Build
import ContentTypes.Encode
import ContentTypes.Snapshot

/-!
What a run does: from its arguments and the files it finds to an exit code, what it prints, and the
files it leaves. Settings come from the options, then from the settings file, then from the
defaults.
-/

namespace ContentTypes

structure Outcome where
  code : Nat
  output : String := ""
  /-- The lines of the error stream. -/
  notices : List String := []
  /-- The reports that are asked for. -/
  events : List Report := []
  files : FileTree

namespace Outcome

def failure (files : FileTree) (message : String) : Outcome :=
  { code := 1, notices := ["error: " ++ message], files }

def misuse (files : FileTree) : Outcome := { code := 2, files }

end Outcome

namespace SchemaArguments

/-- The settings of a run before the other options are applied. -/
def configuration (a : SchemaArguments) (files : FileTree) (faults : Faults) :
    Except String Configuration :=
  let loaded : Except String Configuration :=
    match a.config with
    | none => .ok {}
    | some path =>
      match Configuration.load files path faults with
      | .ok c => .ok c
      | .error e => .error ("Failed to load config '" ++ path ++ "': " ++ e.message)
  loaded.map fun c => { c with naming := a.naming.getD c.naming }

def dataModel (a : SchemaArguments) (files : FileTree) (faults : Faults) :
    Except String (DataModel × Event) :=
  let snapshot := Snapshot.detect files a.input faults
  match snapshot.load files faults with
  | .ok m => .ok (m, snapshot.loaded m)
  | .error e => .error ("Failed to load snapshot '" ++ a.input ++ "': " ++ e.message)

end SchemaArguments

structure Prepared where
  configuration : Configuration
  schema : Schema
  events : List Event

/-- Loads settings and data model and builds the schema. A command may change the settings before
the schema is built. -/
def SchemaArguments.prepare (a : SchemaArguments) (files : FileTree) (faults : Faults)
    (change : Configuration → Configuration) : Except String Prepared := do
  let configuration := change (← a.configuration files faults)
  let (model, event) ← a.dataModel files faults
  let built := model.build configuration.buildOptions.naming
  return ⟨configuration, built.schema, event :: built.events⟩

def applyOptions (rootName moduleName : Option String) (amount : Option UInt64)
    (character : Option Char) (c : Configuration) : Configuration :=
  { c with
    rootName := rootName.getD c.rootName
    moduleName := moduleName.getD c.moduleName
    indent := ⟨amount.getD c.indent.amount, character.getD c.indent.character⟩ }

def deliver (files : FileTree) (faults : Faults) (path : String) (p : Prepared) (text : String) :
    Outcome :=
  let events := p.events.map Report.event
  match files.surround path faults with
  | (files, some (parent, e)) =>
    let message := "Failed to create output directory '" ++ parent ++ "': " ++ e.message
    { Outcome.failure files message with events }
  | (files, none) =>
    match files.writeFile path text faults with
    | (files, some e) =>
      { Outcome.failure files ("Failed to write '" ++ path ++ "': " ++ e.message) with events }
    | (files, none) => {
        code := 0
        notices := ["Generated types for " ++ toString p.schema.size ++ " collection(s) into '" ++
          path ++ "'."]
        events := events ++ [Report.wroteDeclarations path p.schema.size]
        files }

namespace Command

def run (files : FileTree) (faults : Faults) : Command → Outcome
  | .generate schema output rootName moduleName amount character =>
    match schema.prepare files faults (applyOptions rootName moduleName amount character) with
    | .error message => .failure files message
    | .ok p =>
      let text := p.schema.render p.configuration.renderOptions
      -- The option goes before the path of the settings file.
      match output <|> p.configuration.output with
      | some path => deliver files faults path p text
      | none => { code := 0, output := text, events := p.events.map .event, files }
  | .inspect schema =>
    match schema.prepare files faults id with
    | .error message => .failure files message
    | .ok p => {
        code := 0
        output := p.schema.encode.pretty ++ "\n"
        events := p.events.map .event
        files }
  | .initConfig path force =>
    if files.pathExists path faults && !force then
      .failure files ("'" ++ path ++ "' already exists (use --force to overwrite)")
    else match Configuration.write {} files path faults with
      | (files, some e) => .failure files ("Failed to write '" ++ path ++ "': " ++ e.message)
      | (files, none) =>
        { code := 0, output := "Wrote default configuration to '" ++ path ++ "'.\n", files }

end Command

def usage : String :=
  "Usage: directus-typegen [-v | -q] generate --input <PATH> [--config <PATH>]\n" ++
  "         [--naming <NAMING>] [--output <PATH>] [--root-name <NAME>] [--module-name <NAME>]\n" ++
  "         [--indent-amount <COUNT>] [--indent-char <CHAR>]\n" ++
  "       directus-typegen [-v | -q] inspect --input <PATH> [--config <PATH>]\n" ++
  "         [--naming <NAMING>]\n" ++
  "       directus-typegen [-v | -q] init-config [--output <PATH>] [--force]\n"

def Verbosity.reports (v : Verbosity) : Bool := v.verbose && !v.quiet

def runArguments (files : FileTree) (args : List String) (faults : Faults := {}) : Outcome :=
  match Arguments.read args with
  | .misuse => .misuse files
  | .help => { code := 0, output := usage, files }
  | .run verbosity command =>
    let outcome := command.run files faults
    if verbosity.reports then outcome else { outcome with events := [] }

/-- The paths that a command looks at, apart from an output path in its settings file. -/
def Command.paths : Command → List String
  | .generate schema output .. => schemaPaths schema ++ output.toList
  | .inspect schema => schemaPaths schema
  | .initConfig output _ => [output]
where
  schemaPaths (a : SchemaArguments) : List String :=
    a.input :: a.config.toList ++
      [collectionsFile, fieldsFile, relationsFile].map (Path.join a.input)

def Command.settingsOutput? (files : FileTree) (faults : Faults) : Command → Option String
  | .generate schema .. | .inspect schema =>
    match schema.configuration files faults with
    | .ok c => c.output
    | .error _ => none
  | .initConfig .. => none

end ContentTypes
