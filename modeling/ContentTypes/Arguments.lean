import ContentTypes.Naming

/-!
The arguments of a run. Options are written out in full and given once; a value follows its option
or is attached to it by an equals sign. Whatever is not understood is a misuse.
-/

namespace ContentTypes

structure SchemaArguments where
  input : String
  config : Option String
  naming : Option Naming
  deriving DecidableEq

inductive Command where
  | generate (schema : SchemaArguments) (output rootName moduleName : Option String)
      (indentAmount : Option UInt64) (indentCharacter : Option Char)
  | inspect (schema : SchemaArguments)
  | initConfig (output : String) (force : Bool)
  deriving DecidableEq

structure Verbosity where
  verbose : Bool := false
  quiet : Bool := false
  deriving DecidableEq

inductive Request where
  | run (verbosity : Verbosity) (command : Command)
  | help
  | misuse
  deriving DecidableEq

namespace Arguments

structure CommandForm where
  name : String
  options : List String
  flags : List String

def schemaOptions : List String := ["input", "config", "naming"]

def generateForm : CommandForm where
  name := "generate"
  options := schemaOptions ++ ["output", "root-name", "module-name", "indent-amount", "indent-char"]
  flags := []

def inspectForm : CommandForm := ⟨"inspect", schemaOptions, []⟩

def initConfigForm : CommandForm := ⟨"init-config", ["output"], ["force"]⟩

def commandForms : List CommandForm := [generateForm, inspectForm, initConfigForm]

def outerForm : CommandForm := ⟨"", [], []⟩

def verboseFlag : String := "verbose"

def quietFlag : String := "quiet"

/-- What has been read of the arguments on one side of the command's name. -/
structure Reading where
  values : List (String × String) := []
  flags : List String := []

namespace Reading

def addFlag (r : Reading) (name : String) : Option Reading :=
  if r.flags.contains name then none else some { r with flags := name :: r.flags }

def addValue (r : Reading) (name value : String) : Option Reading :=
  if (r.values.lookup name).isSome then none
  else some { r with values := (name, value) :: r.values }

def value? (r : Reading) (name : String) : Option String := r.values.lookup name

def isConsistent (r : Reading) : Bool :=
  !(r.flags.contains verboseFlag && r.flags.contains quietFlag)

def isVerbose (r : Reading) : Bool := r.flags.contains verboseFlag

def isQuiet (r : Reading) : Bool := r.flags.contains quietFlag

end Reading

inductive Argument where
  /-- Two dashes alone. Nothing after them is an option. -/
  | separator
  | long (name : String) (attached : Option String)
  /-- Letters after a single dash. -/
  | short (letters : List Char)
  | word (s : String)

def splitAttached (s : List Char) : String × Option String :=
  let name := String.ofList (s.takeWhile (· ≠ '='))
  match s.dropWhile (· ≠ '=') with
  | [] => (name, none)
  | _ :: value => (name, some (String.ofList value))

def Argument.of (s : String) : Argument :=
  match s.toList with
  | ['-', '-'] => .separator
  | '-' :: '-' :: rest => .long (splitAttached rest).1 (splitAttached rest).2
  | '-' :: c :: rest => .short (c :: rest)
  | _ => .word s

inductive Ending where
  /-- There are no more arguments. -/
  | done (r : Reading)
  /-- A word stands where no value is expected. -/
  | word (r : Reading) (s : String) (rest : List String)
  | help
  | misuse

def readLetters (r : Reading) : List Char → Option Reading ⊕ Unit
  | [] => .inl (some r)
  | c :: rest =>
    if c = 'h' then .inr ()
    else
      match (if c = 'v' then r.addFlag verboseFlag
        else if c = 'q' then r.addFlag quietFlag else none) with
      | none => .inl none
      | some r => readLetters r rest

def detached? (s : String) : Option String :=
  match Argument.of s with
  | .word value => some value
  | _ => none

/-- Reads arguments up to a word that belongs to no option. After a separator any word is too
much. -/
def readSide (form : CommandForm) (r : Reading) : List String → Ending
  | [] => .done r
  | arg :: rest =>
    match Argument.of arg with
    | .separator => if rest.isEmpty then .done r else .misuse
    | .word s => .word r s rest
    | .short letters =>
      match readLetters r letters with
      | .inr () => .help
      | .inl none => .misuse
      | .inl (some r) => readSide form r rest
    | .long name attached =>
      if form.options.contains name then
        match attached with
        | some value =>
          match r.addValue name value with
          | none => .misuse
          | some r => readSide form r rest
        | none =>
          match rest with
          | [] => .misuse
          | next :: rest =>
            match detached? next with
            | none => .misuse
            | some value =>
              match r.addValue name value with
              | none => .misuse
              | some r => readSide form r rest
      else if attached.isSome then .misuse
      else if name = "help" then .help
      else if form.flags.contains name || name = verboseFlag || name = quietFlag then
        match r.addFlag name with
        | none => .misuse
        | some r => readSide form r rest
      else .misuse

def path? (s : String) : Option String := if s.isEmpty then none else some s

def amount? (s : String) : Option UInt64 :=
  let digits := match s.toList with
    -- A plus sign in front counts for nothing.
    | '+' :: digits => digits
    | digits => digits
  if digits.isEmpty || !digits.all Char.isDigit then none
  else
    let n := digits.foldl (fun n c => 10 * n + (c.toNat - 0x30)) 0
    if n < Nat.pow 2 64 then some (.ofNat n) else none

def character? (s : String) : Option Char :=
  match s.toList with
  | [c] => some c
  | _ => none

def naming? (s : String) : Option Naming := (Naming.ofSelector s).toOption

def optional? {α : Type} (read : String → Option α) (value : Option String) : Option (Option α) :=
  match value with
  | none => some none
  | some s => (read s).map some

def schemaArguments? (r : Reading) : Option SchemaArguments := do
  let input ← path? (← r.value? "input")
  let config ← optional? path? (r.value? "config")
  let naming ← optional? naming? (r.value? "naming")
  return { input, config, naming }

def generate? (r : Reading) : Option Command := do
  let schema ← schemaArguments? r
  let output ← optional? path? (r.value? "output")
  let amount ← optional? amount? (r.value? "indent-amount")
  let character ← optional? character? (r.value? "indent-char")
  return .generate schema output (r.value? "root-name") (r.value? "module-name") amount character

def defaultConfigFile : String := "directus-typegen.yml"

def initConfig? (r : Reading) : Option Command := do
  let output ← optional? path? (r.value? "output")
  return .initConfig (output.getD defaultConfigFile) (r.flags.contains "force")

def command? (name : String) (r : Reading) : Option Command :=
  if name = generateForm.name then generate? r
  else if name = inspectForm.name then (schemaArguments? r).map .inspect
  else if name = initConfigForm.name then initConfig? r
  else none

def helpOn (rest : List String) : Request :=
  match rest with
  | [] => .help
  | [name] => if name = "help" || commandForms.any (·.name = name) then .help else .misuse
  | _ => .misuse

def read (args : List String) : Request :=
  match readSide outerForm {} args with
  | .help => .help
  | .misuse | .done _ => .misuse
  | .word outer name rest =>
    if name = "help" then helpOn rest
    else match commandForms.find? (·.name = name) with
      | none => .misuse
      | some form =>
        match readSide form {} rest with
        | .help => .help
        | .misuse | .word .. => .misuse
        | .done inner =>
          match command? name inner with
          | none => .misuse
          | some command =>
            -- How much is reported may be said on either side of the command's name.
            if outer.isConsistent && inner.isConsistent then
              .run ⟨outer.isVerbose || inner.isVerbose, outer.isQuiet || inner.isQuiet⟩ command
            else .misuse

end Arguments

end ContentTypes
