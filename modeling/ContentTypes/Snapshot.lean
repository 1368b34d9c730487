import ContentTypes.ConfigurationFile
import ContentTypes.Decode.Snapshot
import ContentTypes.Event
import ContentTypes.FileTree

/-!
Saved data models: one file with all three lists, or a directory with a file for each. Settings are
read from and written to files here as well.
-/

namespace ContentTypes

inductive JsonFailure where
  /-- It was opened and could not be read. -/
  | unreadable (e : FileError)
  | decoding (e : DecodeError)
  deriving DecidableEq

inductive SourceError where
  | file (e : FileError)
  | json (e : JsonFailure)
  | yaml
  | naming (e : UnknownNaming)
  /-- A file of a snapshot directory is not there. -/
  | missingPart (path : String)
  deriving DecidableEq

def JsonFailure.message : JsonFailure → String
  | .unreadable e => e.message
  | .decoding (.mismatch m) => m.message
  | .decoding (.fault .malformed) => "malformed text"
  | .decoding (.fault .truncated) => "text ends too early"

def SourceError.message : SourceError → String
  | .file e => "I/O error: " ++ e.message
  | .json e => "JSON error: " ++ e.message
  | .yaml => "YAML error: not readable as settings"
  | .naming e => e.message
  | .missingPart path => "snapshot directory is missing '" ++ path ++ "'"

def FileTree.decodeFile {α : Type} (t : FileTree) (path : String) (dec : Decoder α)
    (faults : Faults := {}) : Except SourceError α :=
  match t.openFile path faults with
  | .error e => .error (.file e)
  | .ok (.error e) => .error (.json (.unreadable e))
  | .ok (.ok content) =>
    match dec.ofText (.ofSource content) with
    | .ok a => .ok a
    | .error e => .error (.json (.decoding e))

def collectionsFile : String := "collections.json"

def fieldsFile : String := "fields.json"

def relationsFile : String := "relations.json"

inductive Snapshot where
  | bundle (path : String)
  | directory (path : String)
  deriving DecidableEq

namespace Snapshot

def path : Snapshot → String
  | .bundle path | .directory path => path

def detect (t : FileTree) (path : String) (faults : Faults := {}) : Snapshot :=
  -- Anything but a directory is taken for one file with all lists, also when it is not there.
  if t.isDirectory path faults then .directory path else .bundle path

def loadBundle (t : FileTree) (path : String) (faults : Faults := {}) :
    Except SourceError DataModel :=
  t.decodeFile path Decoder.bundle faults

def loadPart {α : Type} (t : FileTree) (path : String) (dec : Decoder α)
    (faults : Faults := {}) : Except SourceError (List α) :=
  if t.isFile path faults then t.decodeFile path (Decoder.payload dec) faults
  else .error (.missingPart path)

def loadDirectory (t : FileTree) (path : String) (faults : Faults := {}) :
    Except SourceError DataModel := do
  let collections ← loadPart t (Path.join path collectionsFile) Decoder.collection faults
  let fields ← loadPart t (Path.join path fieldsFile) Decoder.field faults
  let relations ← loadPart t (Path.join path relationsFile) Decoder.relation faults
  return { collections, fields, relations }

def load (s : Snapshot) (t : FileTree) (faults : Faults := {}) : Except SourceError DataModel :=
  match s with
  | .bundle path => loadBundle t path faults
  | .directory path => loadDirectory t path faults

def loaded (s : Snapshot) (m : DataModel) : Event :=
  .loadedSnapshot s.path m.collections.length m.fields.length m.relations.length

end Snapshot

namespace Configuration

def load (t : FileTree) (path : String) (faults : Faults := {}) :
    Except SourceError Configuration :=
  match t.openFile path faults with
  | .error e => .error (.file e)
  | .ok (.error _) => .error .yaml
  | .ok (.ok content) =>
    match ofYaml? content with
    | some c => .ok c
    | none => .error .yaml

def bufferSize : Nat := 8192

/-- Whether it is noticed that a file did not take all of a text. What is held back when the text
ends goes to the file too late for that: all of a text that is shorter than the buffer, and at most
the last piece of a longer one. -/
def isNoticed (text : String) (limit : Limit) : Bool :=
  bufferSize ≤ (Text.utf8 text).length && limit.early

/-- Writes settings to a file, and says which files there are then, also when that failed. -/
def write (c : Configuration) (t : FileTree) (path : String) (faults : Faults) :
    FileTree × Option SourceError :=
  match t.placeFor path faults with
  | .error e => (t, some (.file e))
  | .ok l =>
    match t.fill l c.toYaml faults with
    | (t, none) => (t, none)
    | (t, some limit) => (t, if isNoticed c.toYaml limit then some .yaml else none)

/-- The files after settings were written, if that went well as far as it was noticed. -/
def save (c : Configuration) (t : FileTree) (path : String) (faults : Faults := {}) :
    Except SourceError FileTree :=
  match c.write t path faults with
  | (t, none) => .ok t
  | (_, some e) => .error e

end Configuration

end ContentTypes
