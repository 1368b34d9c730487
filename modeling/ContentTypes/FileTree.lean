import ContentTypes.Text.Source
import ContentTypes.Text.WhiteSpace

/-!
Files and directories as a value. Paths are looked up name by name from the root or from the working
directory; every operation says how it fails and what it leaves behind. What the system refuses
besides, for want of permission, of room or of a disk that works, is a value of its own. A name
leads to a file or to a directory: symbolic links and devices are left out, and so is what others do
to the files meanwhile.
-/

namespace ContentTypes

inductive FileError where
  | notFound
  | exists
  | notADirectory
  | isADirectory
  | nameTooLong
  | zeroByte
  /-- Any other cause, in the words of the system. -/
  | refused (cause : String) (code : Nat)
  deriving DecidableEq

def FileError.message : FileError → String
  | .notFound => "No such file or directory (os error 2)"
  | .exists => "File exists (os error 17)"
  | .notADirectory => "Not a directory (os error 20)"
  | .isADirectory => "Is a directory (os error 21)"
  | .nameTooLong => "File name too long (os error 36)"
  | .zeroByte => "file name contained an unexpected NUL byte"
  | .refused cause code => cause ++ " (os error " ++ toString code ++ ")"

abbrev Location := List String

inductive Entry where
  | file (content : Text.Source)
  | directory
  deriving DecidableEq

structure FileTree where
  /-- The working directory. -/
  home : Location
  entries : List (Location × Entry)
  deriving DecidableEq

/-- What becomes of a text that is longer than a file can take. -/
structure Limit where
  /-- The bytes that are taken. -/
  room : Nat
  error : FileError
  /-- Of a text in several pieces, whether one of them fails that is not the last. -/
  early : Bool

/-- What the system refuses at a location, and with which error, as long as a run lasts. -/
structure Faults where
  /-- Looking up a name in a directory. -/
  search : Location → Option FileError := fun _ => none
  /-- Opening what is there for reading. -/
  opening : Location → Option FileError := fun _ => none
  /-- Reading what was opened. -/
  reading : Location → Option FileError := fun _ => none
  /-- Making a directory. -/
  making : Location → Option FileError := fun _ => none
  /-- Opening a file for writing. -/
  creating : Location → Option FileError := fun _ => none
  /-- Writing all of a text to a file that was opened and is empty by that. -/
  limit : Location → Option Limit := fun _ => none

namespace Path

def segments (path : String) : List (List Char) := Text.splitAt '/' path.toList

def isAbsolute (path : String) : Bool := path.toList.head? = some '/'

def endsWithSlash (path : String) : Bool := path.toList.getLast? = some '/'

def isIdle (segment : List Char) : Bool := segment = [] || segment = ['.']

def joinSegments (segments : List (List Char)) : String :=
  String.ofList (['/'].intercalate segments)

/-- The path without its last name. A single name lies in the directory with the empty path; the
root and the empty path have no parent. -/
def parent? (path : String) : Option String :=
  match segments path with
  | [] => none
  | first :: rest =>
    match rest.reverse.dropWhile isIdle with
    | [] => if first = [] then none else some ""
    | _ :: before =>
      match before.dropWhile isIdle with
      | [] => some (if first = [] then "/" else String.ofList first)
      | before => some (joinSegments (first :: before.reverse))

def join (path name : String) : String :=
  if path.isEmpty || endsWithSlash path then path ++ name else path ++ "/" ++ name

end Path

inductive Target where
  | directory (location : Location)
  | file (location : Location) (content : Text.Source)
  /-- A name that is free in a directory that exists. -/
  | vacant (location : Location)

namespace FileTree

def entryAt? (t : FileTree) (l : Location) : Option Entry :=
  -- The root is always there.
  if l = [] then some .directory else t.entries.lookup l

def put (t : FileTree) (l : Location) (e : Entry) : FileTree :=
  -- What is there keeps its place in the list.
  if (t.entries.lookup l).isSome then
    { t with entries := t.entries.map fun x => if x.1 = l then (l, e) else x }
  else { t with entries := t.entries ++ [(l, e)] }

/-- Replacing what is at a location shows there, if something was there, and nowhere else. -/
theorem lookup_map_replace (entries : List (Location × Entry)) (l : Location) (e : Entry)
    (l' : Location) :
    (entries.map fun x => if x.1 = l then (l, e) else x).lookup l' =
      if l' = l then (entries.lookup l).map fun _ => e else entries.lookup l' := by
  induction entries with
  | nil => by_cases h : l' = l <;> simp [h]
  | cons entry rest ih =>
    obtain ⟨key, value⟩ := entry
    by_cases hkey : key = l
    · subst hkey
      by_cases hl : l' = key
      · simp [hl]
      · simp [List.lookup_cons, beq_false_of_ne hl, hl, ih]
    · by_cases hl : l' = l
      · subst hl
        simp [hkey, List.lookup_cons, beq_false_of_ne (Ne.symm hkey), ih]
      · simp [hkey, List.lookup_cons, hl, ih]

/-- Putting an entry changes what is at its own location and nothing else. -/
theorem entryAt?_put (t : FileTree) {l : Location} (hl : l ≠ []) (e : Entry) (l' : Location) :
    (t.put l e).entryAt? l' = if l' = l then some e else t.entryAt? l' := by
  by_cases hroot : l' = []
  · subst hroot
    simp [entryAt?, Ne.symm hl]
  · simp only [entryAt?, hroot, if_false, put]
    split
    · rename_i h
      obtain ⟨old, hold⟩ := Option.isSome_iff_exists.1 h
      simp only [lookup_map_replace, hold, Option.map_some]
    · rename_i h
      have habsent : t.entries.lookup l = none := Option.not_isSome_iff_eq_none.1 h
      by_cases hl' : l' = l
      · subst hl'
        simp only [List.lookup_append, habsent, List.lookup_cons_self, Option.none_or, if_true]
      · simp [List.lookup_append, List.lookup_cons, hl', beq_false_of_ne hl']

def nameLimit : Nat := 255

def pathLimit : Nat := 4095

def byteLength (s : List Char) : Nat := s.foldl (fun n c => n + c.utf8Size) 0

/-- Follows the parts of a path from a directory. Everything before the last name has to be a
directory that can be searched. -/
def walk (t : FileTree) (faults : Faults) :
    Location → List (List Char) → Except FileError Target
  | l, [] => .ok (.directory l)
  | l, segment :: rest =>
    if segment = [] then walk t faults l rest
    else match faults.search l with
      | some e => .error e
      | none =>
        if segment = ['.'] then walk t faults l rest
        else if segment = ['.', '.'] then walk t faults l.dropLast rest
        else if nameLimit < byteLength segment then .error .nameTooLong
        else
          let l := l ++ [String.ofList segment]
          match t.entryAt? l with
          | some .directory => walk t faults l rest
          | some (.file content) =>
            if rest.all (·.isEmpty) then .ok (.file l content) else .error .notADirectory
          | none => if rest.all (·.isEmpty) then .ok (.vacant l) else .error .notFound

def visits : Location → List (List Char) → List Location
  | _, [] => []
  | l, segment :: rest =>
    if Path.isIdle segment then visits l rest
    else if segment = ['.', '.'] then visits l.dropLast rest
    else
      let l := l ++ [String.ofList segment]
      l :: visits l rest

def visited (t : FileTree) (path : String) : List Location :=
  visits (if Path.isAbsolute path then [] else t.home) (Path.segments path)

def resolve (t : FileTree) (path : String) (faults : Faults) : Except FileError Target :=
  let chars := path.toList
  if chars.isEmpty then .error .notFound
  else if chars.any (·.toNat = 0) then .error .zeroByte
  else if pathLimit < byteLength chars then .error .nameTooLong
  else t.walk faults (if Path.isAbsolute path then [] else t.home) (Path.segments path)

def lookup (t : FileTree) (path : String) (faults : Faults := {}) : Except FileError Entry :=
  match t.resolve path faults with
  | .error e => .error e
  | .ok (.directory _) => .ok .directory
  | .ok (.file _ content) =>
    -- A slash at the end asks for a directory.
    if Path.endsWithSlash path then .error .notADirectory else .ok (.file content)
  | .ok (.vacant _) => .error .notFound

def isDirectory (t : FileTree) (path : String) (faults : Faults := {}) : Bool :=
  match t.lookup path faults with
  | .ok .directory => true
  | _ => false

def isFile (t : FileTree) (path : String) (faults : Faults := {}) : Bool :=
  match t.lookup path faults with
  | .ok (.file _) => true
  | _ => false

def pathExists (t : FileTree) (path : String) (faults : Faults) : Bool :=
  match t.lookup path faults with
  | .ok _ => true
  | .error _ => false

/-- Opens a file for reading and reads it. The inner result is that of reading what was opened: a
directory can be opened, but not read. -/
def openFile (t : FileTree) (path : String) (faults : Faults := {}) :
    Except FileError (Except FileError Text.Source) :=
  match t.resolve path faults with
  | .error e => .error e
  | .ok (.vacant _) => .error .notFound
  | .ok (.directory l) =>
    match faults.opening l with
    | some e => .error e
    | none => .ok (.error .isADirectory)
  | .ok (.file l content) =>
    if Path.endsWithSlash path then .error .notADirectory
    else match faults.opening l with
      | some e => .error e
      | none =>
        match faults.reading l with
        | some e => .ok (.error e)
        | none => .ok (.ok content)

def placeFor (t : FileTree) (path : String) (faults : Faults) : Except FileError Location :=
  match t.resolve path faults with
  | .error e => .error e
  | .ok target =>
    if Path.endsWithSlash path then .error .isADirectory
    else match target with
      | .directory _ => .error .isADirectory
      | .file l _ | .vacant l =>
        match faults.creating l with
        | some e => .error e
        | none => .ok l

def fill (t : FileTree) (l : Location) (text : String) (faults : Faults) :
    FileTree × Option Limit :=
  -- A file that was opened is empty, so what it takes of the text is all that it holds.
  match faults.limit l with
  | some limit =>
    if limit.room < (Text.utf8 text).length then
      (t.put l (.file (Text.Source.beginning text limit.room)), some limit)
    else (t.put l (.file (.ofString text)), none)
  | none => (t.put l (.file (.ofString text)), none)

/-- Writes a text to a file. Nothing changes when the file cannot be opened, and the beginning of
the text is in the file when it does not take all of it. -/
def writeFile (t : FileTree) (path text : String) (faults : Faults) :
    FileTree × Option FileError :=
  match t.placeFor path faults with
  | .error e => (t, some e)
  | .ok l =>
    match t.fill l text faults with
    | (t, none) => (t, none)
    | (t, some limit) => (t, some limit.error)

def makeDirectory (t : FileTree) (path : String) (faults : Faults) : Except FileError FileTree :=
  match t.resolve path faults with
  | .error e => .error e
  | .ok (.vacant l) =>
    match faults.making l with
    | some e => .error e
    | none => .ok (t.put l .directory)
  | .ok _ => .error .exists

def ensureDirectory (t : FileTree) (path : String) (faults : Faults) :
    Except FileError FileTree :=
  match t.makeDirectory path faults with
  | .ok t => .ok t
  | .error e => if t.isDirectory path faults then .ok t else .error e

/-- Makes a directory and those around it that are missing. What was made stays when a later step
fails. -/
def makeDirectories (faults : Faults) : Nat → FileTree → String → FileTree × Option FileError
  | 0, t, _ => (t, some .notFound)
  | fuel + 1, t, path =>
    match t.ensureDirectory path faults with
    | .ok t => (t, none)
    | .error .notFound =>
      match Path.parent? path with
      | none | some "" => (t, some .notFound)
      | some parent =>
        match makeDirectories faults fuel t parent with
        | (t, some e) => (t, some e)
        | (t, none) =>
          match t.ensureDirectory path faults with
          | .ok t => (t, none)
          | .error e => (t, some e)
    | .error e => (t, some e)

/-- Makes the directories around a path. The one that could not be made comes with the error. -/
def surround (t : FileTree) (path : String) (faults : Faults) :
    FileTree × Option (String × FileError) :=
  match Path.parent? path with
  | none | some "" => (t, none)
  | some parent =>
    match makeDirectories faults (parent.length + 1) t parent with
    | (t, none) => (t, none)
    | (t, some e) => (t, some (parent, e))

end FileTree

end ContentTypes
