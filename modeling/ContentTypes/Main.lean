import ContentTypes.CommandLine

/-!
The program. It looks up what its arguments name on disk, runs on what it found, and writes what has
changed. Where the disk refuses that, the run is that of a disk with this refusal.
-/

namespace ContentTypes

def locationOf (path : String) : Location :=
  ((Text.splitAt '/' path.toList).filter (!·.isEmpty)).map String.ofList

def pathTo (l : Location) : String := String.join (l.map ("/" ++ ·))

def causeOf : IO.Error → FileError
  | .alreadyExists _ code cause | .invalidArgument _ code cause | .permissionDenied _ code cause
  | .resourceExhausted _ code cause | .inappropriateType _ code cause | .noSuchThing _ code cause
  | .interrupted _ code cause | .noFileOrDirectory _ code cause | .otherError code cause
  | .resourceBusy code cause | .resourceVanished code cause | .unsupportedOperation code cause
  | .hardwareFault code cause | .unsatisfiedConstraints code cause | .illegalOperation code cause
  | .protocolError code cause | .timeExpired code cause => .refused cause code.toNat
  | .unexpectedEof => .refused "unexpected end of file" 0
  | .userError cause => .refused cause 0

structure Disk where
  files : FileTree
  faults : Faults := {}

def refuse (errors : Location → Option FileError) (l : Location) (e : IO.Error) :
    Location → Option FileError :=
  fun l' => if l' = l then some (causeOf e) else errors l'

def leadsSomewhere (path : String) : IO Bool := do
  match ← (IO.FS.realPath path).toBaseIO with
  | .ok _ => return true
  | .error _ => return false

def lookUp (d : Disk) (l : Location) : IO Disk := do
  if (d.files.entryAt? l).isSome then return d
  match ← (IO.FS.readBinFile (pathTo l)).toBaseIO with
  | .ok bytes =>
    return { d with files := d.files.put l (.file (Text.Source.ofBytes bytes.toList)) }
  | .error e =>
    let unopened := { d.faults with opening := refuse d.faults.opening l e }
    if ← leadsSomewhere (pathTo l ++ "/.") then
      let files := d.files.put l .directory
      match e with
      -- A directory was opened, and only reading it failed.
      | .inappropriateType .. => return { d with files }
      | _ => return { files, faults := unopened }
    else if ← leadsSomewhere (pathTo l) then
      return { files := d.files.put l (.file []), faults := unopened }
    else match e with
      | .permissionDenied .. =>
        return { d with faults.search := refuse d.faults.search l.dropLast e }
      | _ => return d

def lookUpPaths (d : Disk) (paths : List String) : IO Disk :=
  (paths.flatMap d.files.visited).foldlM lookUp d

def storeAt (faults : Faults) (l : Location) : Entry → IO (Option Faults)
  | .directory => do
    match ← (IO.FS.createDir (pathTo l)).toBaseIO with
    | .ok _ => return none
    | .error e => return some { faults with making := refuse faults.making l e }
  | .file content => do
    match ← (IO.FS.Handle.mk (pathTo l) .write).toBaseIO with
    | .error e => return some { faults with creating := refuse faults.creating l e }
    | .ok handle =>
      let text := String.ofList (content.filterMap id)
      match ← (do handle.putStr text; handle.flush : IO Unit).toBaseIO with
      | .ok _ => return none
      | .error e =>
        -- The disk holds what was taken, and the run does not look at it again.
        let limit : Limit := ⟨0, causeOf e, true⟩
        return some
          { faults with limit := fun l' => if l' = l then some limit else faults.limit l' }

/-- Makes the directories and writes the files that are new or have changed. What is refused first
is an additional fault. -/
def store (before : Disk) (after : FileTree) : IO (Option Faults) := do
  for (l, e) in after.entries do
    if before.files.entryAt? l ≠ some e then
      if let some faults ← storeAt before.faults l e then
        return some faults
  return none

def gather (args : List String) : IO Disk := do
  let home := locationOf (← IO.currentDir).toString
  let start : Disk :=
    { files := ⟨home, (FileTree.visits [] (home.map String.toList)).map (·, .directory)⟩ }
  match Arguments.read args with
  | .run _ command =>
    let found ← lookUpPaths start command.paths
    lookUpPaths found (command.settingsOutput? found.files found.faults).toList
  | _ => return start

end ContentTypes

open ContentTypes in
def main (args : List String) : IO UInt32 := do
  let disk ← gather args
  let planned := runArguments disk.files args disk.faults
  let outcome :=
    match ← store disk planned.files with
    | some faults => runArguments disk.files args faults
    | none => planned
  for e in outcome.events do
    IO.eprintln e.line
  IO.print outcome.output
  for line in outcome.notices do
    IO.eprintln line
  if outcome.code = 2 then IO.eprint usage
  return outcome.code.toUInt32
