import ContentTypes.Proofs.Delivery

/-! What a run leaves behind when it fails. Files are written in the last step of a command, so no
file is new, changed or gone after a failure, unless this step itself fails half way, and nothing is
printed. The directories around an output path are made before the file is written, and they stay
when that fails. -/

namespace ContentTypes

namespace FileTree

/-! ### Directories that are made -/

/-- The second tree is the first one with new directories, at some of the locations. -/
structure Extends (t t' : FileTree) (ls : List Location) : Prop where
  home : t'.home = t.home
  entry : ∀ l, t'.entryAt? l = t.entryAt? l ∨
    l ∈ ls ∧ t.entryAt? l = none ∧ t'.entryAt? l = some .directory

section

variable {t t' t'' : FileTree} {path : String} {faults : Faults} {ls ls' : List Location}
  {l : Location}

theorem Extends.refl (t : FileTree) (ls : List Location) : t.Extends t ls :=
  ⟨rfl, fun _ => Or.inl rfl⟩

theorem Extends.mono (h : t.Extends t' ls) (hls : ls ⊆ ls') : t.Extends t' ls' where
  home := h.home
  entry l := by
    rcases h.entry l with hsame | ⟨hl, hnew⟩
    · exact Or.inl hsame
    · exact Or.inr ⟨hls hl, hnew⟩

theorem Extends.trans (h : t.Extends t' ls) (h' : t'.Extends t'' ls) : t.Extends t'' ls where
  home := h'.home.trans h.home
  entry l := by
    rcases h'.entry l with hsame | ⟨hl, hnone, hnew⟩
    · rw [hsame]
      exact h.entry l
    · rcases h.entry l with hsame | ⟨-, -, hdirectory⟩
      · exact Or.inr ⟨hl, hsame ▸ hnone, hnew⟩
      · rw [hdirectory] at hnone
        cases hnone

/-- What is there stays, and a file that is there was there before. -/
theorem Extends.files_same (h : t.Extends t' ls) (l : Location) (content : Text.Source) :
    t'.entryAt? l = some (.file content) ↔ t.entryAt? l = some (.file content) := by
  rcases h.entry l with hsame | ⟨-, hnone, hnew⟩
  · rw [hsame]
  · rw [hnone, hnew]
    constructor
    · intro heq
      cases heq
    · intro heq
      cases heq

theorem Extends.directory (h : t.Extends t' ls) (hl : t.entryAt? l = some .directory) :
    t'.entryAt? l = some .directory := by
  rcases h.entry l with hsame | ⟨-, -, hnew⟩
  · rw [hsame, hl]
  · exact hnew

theorem Extends.visited (h : t.Extends t' ls) (path : String) :
    t'.visited path = t.visited path := by
  unfold FileTree.visited
  rw [h.home]

theorem extends_put_directory (hl : l ≠ []) (hmem : l ∈ ls) (hnone : t.entryAt? l = none) :
    t.Extends (t.put l .directory) ls where
  home := home_put t l .directory
  entry l' := by
    rw [entryAt?_put t hl]
    by_cases heq : l' = l
    · rw [if_pos heq, heq]
      exact Or.inr ⟨hmem, hnone, rfl⟩
    · rw [if_neg heq]
      exact Or.inl rfl

/-- One directory is made, at a free name on the way, or it is there already. -/
theorem extends_of_ensureDirectory (h : t.ensureDirectory path faults = .ok t') :
    t.Extends t' (t.visited path) ∧ (t' = t ∨ t.lookup path faults = .error .notFound) := by
  unfold ensureDirectory makeDirectory at h
  cases hresolve : t.resolve path faults with
  | error e =>
    simp [isDirectory, lookup, hresolve] at h
  | ok target =>
    cases target with
    | vacant l =>
      rw [hresolve] at h
      dsimp only at h
      cases hmaking : faults.making l with
      | some e =>
        simp [isDirectory, lookup, hresolve, hmaking] at h
      | none =>
        rw [hmaking] at h
        obtain rfl := Except.ok.inj h
        obtain ⟨hvisits, hl, hnone⟩ := (resolve_eq_ok_iff.mp hresolve).2.vacant_mem
        exact ⟨extends_put_directory hl hvisits hnone, Or.inr (by simp [lookup, hresolve])⟩
    | directory l =>
      obtain rfl : t = t' := by simpa [isDirectory, lookup, hresolve] using h
      exact ⟨.refl t _, Or.inl rfl⟩
    | file l content =>
      exfalso
      by_cases hslash : Path.endsWithSlash path = true
      · simp [isDirectory, lookup, hresolve, hslash] at h
      · simp [isDirectory, lookup, hresolve, hslash] at h

/-- A directory that cannot be made because something is missing was not there. -/
theorem lookup_of_ensureDirectory (h : t.ensureDirectory path faults = .error .notFound) :
    t.lookup path faults = .error .notFound := by
  unfold ensureDirectory makeDirectory at h
  cases hresolve : t.resolve path faults with
  | error e =>
    obtain rfl : e = .notFound := by simpa [isDirectory, lookup, hresolve] using h
    rw [lookup, hresolve]
  | ok target =>
    rw [hresolve] at h
    cases target with
    | vacant l => rw [lookup, hresolve]
    | directory l | file l content =>
      dsimp only at h
      split at h
      · cases h
      · cases h

/-- A longer way leads over all places of a shorter one. -/
theorem visits_append (start : Location) (segments more : List (List Char)) :
    visits start segments ⊆ visits start (segments ++ more) := by
  induction segments generalizing start with
  | nil => exact List.nil_subset _
  | cons segment rest ih =>
    rw [List.cons_append, visits, visits]
    split
    · exact ih start
    · split
      · exact ih start.dropLast
      · exact List.cons_subset_cons _ (ih _)

/-- The way to a path leads over what is on the way to its parent. -/
theorem visited_parent {parent : String} (h : Path.parent? path = some parent) (hne : parent ≠ "") :
    t.visited parent ⊆ t.visited path := by
  rcases Path.parent?_cases h hne with rfl | ⟨parts, more, hparts, hsegments, rfl, -⟩
  · exact List.nil_subset _
  · unfold visited
    rw [Path.isAbsolute_joinSegments hparts hsegments hne,
      Path.segments_joinSegments hparts hsegments, hsegments]
    exact visits_append _ parts more

/-- Directories are made one after the other, and what is made so far is kept. -/
theorem extends_makeDirectories (fuel : Nat) (t : FileTree) (path : String) :
    t.Extends (makeDirectories faults fuel t path).1 (t.visited path) := by
  -- The second attempt works on a tree with the parent in it, so the tree is part of the induction.
  induction fuel generalizing t path with
  | zero => exact .refl t _
  | succ fuel ih =>
    rw [makeDirectories]
    split
    · rename_i t' hmade
      exact (extends_of_ensureDirectory hmade).1
    · split
      · exact .refl t _
      · exact .refl t _
      · rename_i parent hne hparent
        have haround := (ih t parent).mono (visited_parent hparent hne)
        split
        · rename_i t' e hmade
          rw [hmade] at haround
          exact haround
        · rename_i t' hmade
          rw [hmade] at haround
          split
          · rename_i t'' hlast
            have hown := (extends_of_ensureDirectory hlast).1
            rw [haround.visited] at hown
            exact haround.trans hown
          · exact haround
    · exact .refl t _

/-- Nothing is made unless the path leads nowhere. -/
theorem makeDirectories_eq_self_or (fuel : Nat) (t : FileTree) (path : String) :
    (makeDirectories faults fuel t path).1 = t ∨ t.lookup path faults = .error .notFound := by
  cases fuel with
  | zero => exact Or.inl rfl
  | succ fuel =>
    rw [makeDirectories]
    split
    · rename_i t' hmade
      exact (extends_of_ensureDirectory hmade).2
    · rename_i hmissing
      exact Or.inr (lookup_of_ensureDirectory hmissing)
    · exact Or.inl rfl

/-- The directories around a path are there as far as they can be made. Some of them may be new, and
only if the parent of the path leads nowhere. -/
inductive Around (t : FileTree) (path : String) (faults : Faults) : FileTree → Prop
  | same : Around t path faults t
  | made {t' : FileTree} {parent : String} (hparent : Path.parent? path = some parent)
      (hmissing : t.lookup parent faults = .error .notFound)
      (hextends : t.Extends t' (t.visited parent)) : Around t path faults t'

theorem Around.exists_extends (h : t.Around path faults t') : ∃ ls, t.Extends t' ls := by
  cases h with
  | same => exact ⟨[], .refl t []⟩
  | made _ _ hextends => exact ⟨_, hextends⟩

/-- However far it gets, making the directories around a path makes directories only. -/
theorem around_surround (t : FileTree) (path : String) (faults : Faults) :
    t.Around path faults (t.surround path faults).1 := by
  unfold surround
  split
  · exact .same
  · exact .same
  · rename_i parent _ hparent
    have hmade : t.Around path faults
        (makeDirectories faults (parent.length + 1) t parent).1 := by
      rcases makeDirectories_eq_self_or (parent.length + 1) t parent with hsame | hmissing
      · rw [hsame]
        exact .same
      · exact .made hparent hmissing (extends_makeDirectories _ t parent)
    split
    · rename_i t' hleft
      rw [hleft] at hmade
      exact hmade
    · rename_i t' e hleft
      rw [hleft] at hmade
      exact hmade

end

/-- What is left of an attempt to write a text: the directories around the path, and perhaps a file
that does not take all of the text. -/
inductive Leaves (t : FileTree) (path text : String) (faults : Faults) : FileTree → Prop
  | directories {t' : FileTree} (h : t.Around path faults t') : Leaves t path text faults t'
  | beginning {t' t'' : FileTree} {l : Location} {limit : Limit} (h : t.Around path faults t')
      (hcuts : t'.CutsOff path text faults l limit t'') : Leaves t path text faults t''

/-- A path leads to a file with the beginning of a text, as much of it as the file takes. -/
structure HoldsBeginning (t : FileTree) (path text : String) (faults : Faults) (l : Location)
    (limit : Limit) : Prop where
  limit_eq : faults.limit l = some limit
  room_lt : limit.room < (Text.utf8 text).length
  resolve_eq : t.resolve path faults = .ok (.file l (Text.Source.beginning text limit.room))

/-- A text that is cut off is where the path leads. -/
theorem CutsOff.holdsBeginning {t t' : FileTree} {path text : String} {faults : Faults}
    {l : Location} {limit : Limit} (h : t.CutsOff path text faults l limit t') :
    t'.HoldsBeginning path text faults l limit where
  limit_eq := h.limit_eq
  room_lt := h.room_lt
  resolve_eq := by
    obtain ⟨target, hresolve, hholds⟩ := h.opens.holds
    rw [h.left_eq]
    exact resolve_put hresolve hholds _

section

variable {t t' : FileTree} {path text : String} {faults : Faults}

/-- A file is as it was, unless it is the one at the path and does not take all of the text. -/
theorem Leaves.file_cases (h : t.Leaves path text faults t') (l : Location) :
    (∀ content, t'.entryAt? l = some (.file content) ↔ t.entryAt? l = some (.file content)) ∨
      ∃ limit, t'.HoldsBeginning path text faults l limit := by
  cases h with
  | directories h =>
    obtain ⟨ls, hextends⟩ := h.exists_extends
    exact Or.inl (hextends.files_same l)
  | @beginning made _ place limit h hcuts =>
    by_cases hplace : l = place
    · rw [hplace]
      exact Or.inr ⟨limit, hcuts.holdsBeginning⟩
    · obtain ⟨ls, hextends⟩ := h.exists_extends
      rw [hcuts.entryAt?_eq hplace]
      exact Or.inl (hextends.files_same l)

/-- No directory is gone. -/
theorem Leaves.directory (h : t.Leaves path text faults t') {l : Location}
    (hl : t.entryAt? l = some .directory) : t'.entryAt? l = some .directory := by
  cases h with
  | directories h =>
    obtain ⟨ls, hextends⟩ := h.exists_extends
    exact hextends.directory hl
  | @beginning made _ place limit h hcuts =>
    obtain ⟨ls, hextends⟩ := h.exists_extends
    have hkept := hextends.directory hl
    have hother : l ≠ place := by
      rintro rfl
      exact hcuts.opens.not_directory hkept
    rw [hcuts.entryAt?_eq hother]
    exact hkept

end

end FileTree

/-! ### Failed runs -/

/-- The path that a command writes declarations to, if it gets that far, and their text. -/
def Command.delivery? (files : FileTree) (faults : Faults) : Command → Option (String × String)
  | .generate schema output rootName moduleName amount character =>
    match schema.prepare files faults (applyOptions rootName moduleName amount character) with
    | .ok p => (output <|> p.configuration.output).map fun path =>
      (path, p.schema.render p.configuration.renderOptions)
    | .error _ => none
  | .inspect _ | .initConfig .. => none

section

variable {files : FileTree} {faults : Faults}

/-- Declarations that could not be written leave directories, and at most the beginning of a file.
-/
theorem deliver_failed {path : String} {p : Prepared} {text : String}
    (h : (deliver files faults path p text).code = 1) :
    (deliver files faults path p text).output = "" ∧
      files.Leaves path text faults (deliver files faults path p text).files := by
  have haround := files.around_surround path faults
  unfold deliver at h ⊢
  generalize files.surround path faults = surrounded at haround h ⊢
  obtain ⟨made, problem⟩ := surrounded
  cases problem with
  | some problem =>
    obtain ⟨parent, e⟩ := problem
    exact ⟨rfl, .directories haround⟩
  | none =>
    dsimp only at h ⊢
    rcases made.writeFile_cases path text faults with ⟨-, l, -, hwrite⟩ |
      ⟨-, l, limit, left, hcuts, hwrite⟩ | ⟨-, e, hwrite⟩
    · rw [hwrite] at h
      cases h
    · rw [hwrite]
      exact ⟨rfl, .beginning haround hcuts⟩
    · rw [hwrite]
      exact ⟨rfl, .directories haround⟩

/-- The default settings are held back as a whole until the file is closed. -/
theorem length_utf8_toYaml_default :
    (Text.utf8 (Configuration.toYaml {})).length < Configuration.bufferSize := by
  decide +kernel

/-- A command that fails prints nothing, and leaves the files alone or with what is left of an
attempt to write its declarations. -/
theorem Command.run_failed {command : Command} (h : (command.run files faults).code = 1) :
    (command.run files faults).output = "" ∧ ((command.run files faults).files = files ∨
      ∃ path text, command.delivery? files faults = some (path, text) ∧
        files.Leaves path text faults (command.run files faults).files) := by
  cases command with
  | generate schema output rootName moduleName amount character =>
    rw [run] at h ⊢
    rw [delivery?]
    cases hprepare : schema.prepare files faults
        (applyOptions rootName moduleName amount character) with
    | error message => exact ⟨rfl, Or.inl rfl⟩
    | ok p =>
      rw [hprepare] at h
      dsimp only at h ⊢
      cases hpath : output <|> p.configuration.output with
      | none =>
        rw [hpath] at h
        cases h
      | some path =>
        rw [hpath] at h
        obtain ⟨houtput, hleft⟩ := deliver_failed h
        exact ⟨houtput, Or.inr ⟨path, _, rfl, hleft⟩⟩
  | inspect schema =>
    rw [run] at h ⊢
    split at h
    · exact ⟨rfl, Or.inl rfl⟩
    · cases h
  | initConfig path force =>
    rw [run] at h ⊢
    by_cases hexists : (files.pathExists path faults && !force) = true
    · rw [if_pos hexists]
      exact ⟨rfl, Or.inl rfl⟩
    · rw [if_neg hexists] at h ⊢
      cases hwrite : Configuration.write {} files path faults with
      | mk left problem =>
        rw [hwrite] at h
        cases problem with
        | none => cases h
        | some e =>
          -- The default settings are short, so only a file that is not opened is a problem.
          have hsame := (Configuration.write_of_lt_bufferSize length_utf8_toYaml_default
            (congrArg Prod.snd hwrite)).2
          rw [hwrite] at hsame
          exact ⟨rfl, Or.inl hsame⟩

/-- A run that fails is that of a command. -/
theorem runArguments_eq {args : List String} (h : (runArguments files args faults).code = 1) :
    ∃ verbosity command, Arguments.read args = .run verbosity command ∧
      (command.run files faults).code = 1 ∧
      (runArguments files args faults).output = (command.run files faults).output ∧
      (runArguments files args faults).files = (command.run files faults).files := by
  unfold runArguments at h ⊢
  split at h
  · cases h
  · cases h
  · rename_i verbosity command hread
    refine ⟨verbosity, command, hread, ?_⟩
    dsimp only at h ⊢
    by_cases hreports : verbosity.reports = true
    · rw [if_pos hreports] at h ⊢
      exact ⟨h, rfl, rfl⟩
    · rw [if_neg hreports] at h ⊢
      exact ⟨h, rfl, rfl⟩

end

/-- The command line is that of a command that gets as far as writing a text to a path. -/
def Delivers (files : FileTree) (args : List String) (faults : Faults) (path text : String) :
    Prop :=
  ∃ verbosity command, Arguments.read args = .run verbosity command ∧
    command.delivery? files faults = some (path, text)

/-- A run that fails prints nothing, and leaves all as it was unless it got as far as writing
declarations to a path. Then some of the directories on the way to its parent may be new, if this
one was not there, and the file may hold the beginning of the declarations, if it was opened and
does not take all of them. All other files are as they were, and no directory is gone. -/
theorem runArguments_failed (files : FileTree) (args : List String) (faults : Faults)
    (h : (runArguments files args faults).code = 1) :
    (runArguments files args faults).output = "" ∧
    ((runArguments files args faults).files = files ∨
      ∃ path text, Delivers files args faults path text ∧
        files.Leaves path text faults (runArguments files args faults).files) ∧
    (∀ l, (∀ content, (runArguments files args faults).files.entryAt? l = some (.file content) ↔
        files.entryAt? l = some (.file content)) ∨
      ∃ path text limit, Delivers files args faults path text ∧
        (runArguments files args faults).files.HoldsBeginning path text faults l limit) ∧
    (∀ l, files.entryAt? l = some .directory →
      (runArguments files args faults).files.entryAt? l = some .directory) := by
  obtain ⟨verbosity, command, hread, hcode, houtput, hfiles⟩ := runArguments_eq h
  obtain ⟨hsilent, hleft⟩ := Command.run_failed hcode
  rw [houtput, hfiles]
  rcases hleft with hsame | ⟨path, text, hdelivery, hleaves⟩
  · rw [hsame]
    exact ⟨hsilent, Or.inl rfl, fun _ => Or.inl fun _ => Iff.rfl, fun _ hl => hl⟩
  · have hdelivers : Delivers files args faults path text :=
      ⟨verbosity, command, hread, hdelivery⟩
    refine ⟨hsilent, Or.inr ⟨path, text, hdelivers, hleaves⟩, fun l => ?_,
      fun l => hleaves.directory⟩
    rcases hleaves.file_cases l with hkept | ⟨limit, hbeginning⟩
    · exact Or.inl hkept
    · exact Or.inr ⟨path, text, limit, hdelivers, hbeginning⟩

namespace Drafts

def files : FileTree where
  home := ["work"]
  entries := [(["work"], .directory), (["work", "snapshot.json"], .file (Text.Source.ofString
    "\x7b\"collections\":[],\"fields\":[],\"relations\":[]\x7d"))]

def argumentsTo (output : String) : List String :=
  ["generate", "--input", "snapshot.json", "--output", output]

def full : Faults where
  limit l := if l = ["work", "types", "news.d.ts"] then
    some ⟨16, .refused "No space left on device" 28, true⟩ else none

theorem run_full : (runArguments files (argumentsTo "types/news.d.ts") full).code = 1 ∧
    (runArguments files (argumentsTo "types/news.d.ts") full).files.lookup "types/news.d.ts" =
      .ok (.file (Text.Source.ofString "declare module '")) := by
  decide +kernel

/-- The file holds what it has room for, and the snapshot is as it was. -/
theorem runArguments_failed_drafts :
    (runArguments files (argumentsTo "types/news.d.ts") full).code = 1 ∧
    (runArguments files (argumentsTo "types/news.d.ts") full).output = "" ∧
    (runArguments files (argumentsTo "types/news.d.ts") full).files.lookup "types/news.d.ts" =
      .ok (.file (Text.Source.ofString "declare module '")) ∧
    ∀ content, (runArguments files (argumentsTo "types/news.d.ts") full).files.entryAt?
        ["work", "snapshot.json"] = some (.file content) ↔
      files.entryAt? ["work", "snapshot.json"] = some (.file content) := by
  obtain ⟨hcode, hleft⟩ := run_full
  obtain ⟨houtput, -, hfiles, -⟩ := runArguments_failed files _ full hcode
  refine ⟨hcode, houtput, hleft, ?_⟩
  rcases hfiles ["work", "snapshot.json"] with hsame | ⟨path, text, limit, -, hbeginning⟩
  · exact hsame
  · have hlimit : full.limit ["work", "snapshot.json"] = none := rfl
    rw [hbeginning.limit_eq] at hlimit
    cases hlimit

/-- The path is that of a directory. The directory that was made for the file is there, and the file
is not. -/
theorem directory_of_failed_run :
    (runArguments files (argumentsTo "types/news/")).code = 1 ∧
      files.entryAt? ["work", "types"] = none ∧
      (runArguments files (argumentsTo "types/news/")).files.entryAt? ["work", "types"] =
        some .directory := by
  decide +kernel

end Drafts

end ContentTypes
