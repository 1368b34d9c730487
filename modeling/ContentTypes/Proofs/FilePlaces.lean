import ContentTypes.Snapshot

/-! Where a path leads, and what becomes of a file that is written there. A path leads over
directories that can be searched. The place for a file is at the end of it, so a file that is
written there leaves the way as it was. -/

namespace ContentTypes

inductive Target.Holds (l : Location) : Target → Prop
  | file (content : Text.Source) : Target.Holds l (.file l content)
  | vacant : Target.Holds l (.vacant l)

/-- One name on the way, and where it leads from a directory that can be searched. -/
structure Faults.Steps (faults : Faults) (l : Location) (segment : List Char) (next : Location) :
    Prop where
  search : faults.search l = none
  ne_nil : segment ≠ []
  ne_here : segment ≠ ['.']
  ne_parent : segment ≠ ['.', '.']
  length_le : FileTree.byteLength segment ≤ FileTree.nameLimit
  next_eq : next = l ++ [String.ofList segment]

namespace Faults

variable {faults : Faults} {l next : Location} {segment : List Char}

theorem Steps.next_ne_nil (h : faults.Steps l segment next) : next ≠ [] := by
  rw [h.next_eq]
  simp

theorem Steps.visits_eq (h : faults.Steps l segment next) (rest : List (List Char)) :
    FileTree.visits l (segment :: rest) = next :: FileTree.visits next rest := by
  have hidle : Path.isIdle segment = false := by simp [Path.isIdle, h.ne_nil, h.ne_here]
  rw [FileTree.visits, hidle, if_neg Bool.false_ne_true, if_neg h.ne_parent, h.next_eq]

def Takes (faults : Faults) (l : Location) (text : String) : Prop :=
  ∀ limit, faults.limit l = some limit → (Text.utf8 text).length ≤ limit.room

end Faults

namespace FileTree

inductive Leads (t : FileTree) (faults : Faults) : Location → List (List Char) → Target → Prop
  | done {l : Location} : Leads t faults l [] (.directory l)
  | slash {l : Location} {rest : List (List Char)} {target : Target}
      (h : Leads t faults l rest target) : Leads t faults l ([] :: rest) target
  | here {l : Location} {rest : List (List Char)} {target : Target}
      (hsearch : faults.search l = none) (h : Leads t faults l rest target) :
      Leads t faults l (['.'] :: rest) target
  | parent {l : Location} {rest : List (List Char)} {target : Target}
      (hsearch : faults.search l = none) (h : Leads t faults l.dropLast rest target) :
      Leads t faults l (['.', '.'] :: rest) target
  | enter {l next : Location} {segment : List Char} {rest : List (List Char)} {target : Target}
      (hstep : faults.Steps l segment next) (hentry : t.entryAt? next = some .directory)
      (h : Leads t faults next rest target) : Leads t faults l (segment :: rest) target
  | file {l next : Location} {segment : List Char} {rest : List (List Char)}
      {content : Text.Source} (hstep : faults.Steps l segment next)
      (hentry : t.entryAt? next = some (.file content)) (hrest : rest.all (·.isEmpty) = true) :
      Leads t faults l (segment :: rest) (.file next content)
  | vacant {l next : Location} {segment : List Char} {rest : List (List Char)}
      (hstep : faults.Steps l segment next) (hentry : t.entryAt? next = none)
      (hrest : rest.all (·.isEmpty) = true) : Leads t faults l (segment :: rest) (.vacant next)

section

variable {t : FileTree} {faults : Faults} {l place : Location} {segments : List (List Char)}
  {target : Target}

/-- Where the walk ends, the names lead. -/
theorem leads_of_walk (h : t.walk faults l segments = .ok target) :
    t.Leads faults l segments target := by
  induction segments generalizing l with
  | nil =>
    obtain rfl := Except.ok.inj h
    exact .done
  | cons segment rest ih =>
    rw [walk] at h
    by_cases hnil : segment = []
    · rw [if_pos hnil] at h
      rw [hnil]
      exact .slash (ih h)
    rw [if_neg hnil] at h
    split at h
    · cases h
    rename_i hsearch
    by_cases hhere : segment = ['.']
    · rw [if_pos hhere] at h
      rw [hhere]
      exact .here hsearch (ih h)
    rw [if_neg hhere] at h
    by_cases hparent : segment = ['.', '.']
    · rw [if_pos hparent] at h
      rw [hparent]
      exact .parent hsearch (ih h)
    rw [if_neg hparent] at h
    by_cases hlong : nameLimit < byteLength segment
    · rw [if_pos hlong] at h
      cases h
    rw [if_neg hlong] at h
    have hstep : faults.Steps l segment (l ++ [String.ofList segment]) :=
      ⟨hsearch, hnil, hhere, hparent, Nat.le_of_not_lt hlong, rfl⟩
    dsimp only at h
    split at h
    · rename_i hentry
      exact .enter hstep hentry (ih h)
    · rename_i content hentry
      split at h
      · rename_i hrest
        obtain rfl := Except.ok.inj h
        exact .file hstep hentry hrest
      · cases h
    · rename_i hentry
      split at h
      · rename_i hrest
        obtain rfl := Except.ok.inj h
        exact .vacant hstep hentry hrest
      · cases h

/-- The walk ends where the names lead. -/
theorem Leads.walk_eq (h : t.Leads faults l segments target) :
    t.walk faults l segments = .ok target := by
  induction h with
  | done => rw [walk]
  | slash _ ih =>
    rw [walk, if_pos rfl]
    exact ih
  | here hsearch _ ih =>
    simp only [walk, hsearch]
    exact ih
  | parent hsearch _ ih =>
    simp only [walk, hsearch]
    exact ih
  | enter hstep hentry _ ih =>
    obtain ⟨hsearch, hnil, hhere, hparent, hlength, rfl⟩ := hstep
    rw [walk, if_neg hnil, hsearch]
    simp only [if_neg hhere, if_neg hparent, if_neg (Nat.not_lt.mpr hlength), hentry]
    exact ih
  | file hstep hentry hrest =>
    obtain ⟨hsearch, hnil, hhere, hparent, hlength, rfl⟩ := hstep
    rw [walk, if_neg hnil, hsearch]
    simp only [if_neg hhere, if_neg hparent, if_neg (Nat.not_lt.mpr hlength), hentry, if_pos hrest]
  | vacant hstep hentry hrest =>
    obtain ⟨hsearch, hnil, hhere, hparent, hlength, rfl⟩ := hstep
    rw [walk, if_neg hnil, hsearch]
    simp only [if_neg hhere, if_neg hparent, if_neg (Nat.not_lt.mpr hlength), hentry, if_pos hrest]

/-- The walk succeeds exactly along names that lead somewhere. -/
theorem walk_eq_ok_iff :
    t.walk faults l segments = .ok target ↔ t.Leads faults l segments target :=
  ⟨leads_of_walk, Leads.walk_eq⟩

/-- A place for a file is no directory, and the way leads to it as well when the file is there. -/
theorem Leads.put (h : t.Leads faults l segments target) (hholds : target.Holds place)
    (content : Text.Source) : (place ≠ [] ∧ t.entryAt? place ≠ some .directory) ∧
      (t.put place (.file content)).Leads faults l segments (.file place content) := by
  induction h with
  | done => cases hholds
  | slash _ ih =>
    obtain ⟨hplace, hput⟩ := ih hholds
    exact ⟨hplace, .slash hput⟩
  | here hsearch _ ih =>
    obtain ⟨hplace, hput⟩ := ih hholds
    exact ⟨hplace, .here hsearch hput⟩
  | parent hsearch _ ih =>
    obtain ⟨hplace, hput⟩ := ih hholds
    exact ⟨hplace, .parent hsearch hput⟩
  | @enter l next segment rest target hstep hentry _ ih =>
    obtain ⟨hplace, hput⟩ := ih hholds
    -- The place is no directory, so this one is left as it was.
    have hother : next ≠ place := by
      rintro rfl
      exact hplace.2 hentry
    refine ⟨hplace, .enter hstep ?_ hput⟩
    rw [entryAt?_put t hplace.1, if_neg hother, hentry]
  | file hstep hentry hrest =>
    cases hholds
    have hne := hstep.next_ne_nil
    refine ⟨⟨hne, by simp [hentry]⟩, .file hstep ?_ hrest⟩
    rw [entryAt?_put t hne, if_pos rfl]
  | vacant hstep hentry hrest =>
    cases hholds
    have hne := hstep.next_ne_nil
    refine ⟨⟨hne, by simp [hentry]⟩, .file hstep ?_ hrest⟩
    rw [entryAt?_put t hne, if_pos rfl]

/-- Where the way goes on behind a part of it, this part leads to a directory. -/
theorem Leads.exists_directory {more : List (List Char)}
    (h : t.Leads faults l (segments ++ more) target) (hmore : more.all (·.isEmpty) = false) :
    ∃ l', t.Leads faults l segments (.directory l') := by
  induction segments generalizing l with
  | nil => exact ⟨l, .done⟩
  | cons segment rest ih =>
    -- A file or a free name ends the way, and what follows is not empty.
    have hend : (rest ++ more).all (·.isEmpty) = false := by
      rw [List.all_append, hmore, Bool.and_false]
    rw [List.cons_append] at h
    cases h with
    | slash h =>
      obtain ⟨l', hrest⟩ := ih h
      exact ⟨l', .slash hrest⟩
    | here hsearch h =>
      obtain ⟨l', hrest⟩ := ih h
      exact ⟨l', .here hsearch hrest⟩
    | parent hsearch h =>
      obtain ⟨l', hrest⟩ := ih h
      exact ⟨l', .parent hsearch hrest⟩
    | enter hstep hentry h =>
      obtain ⟨l', hrest⟩ := ih h
      exact ⟨l', .enter hstep hentry hrest⟩
    | file hstep hentry hrest =>
      rw [hend] at hrest
      cases hrest
    | vacant hstep hentry hrest =>
      rw [hend] at hrest
      cases hrest

/-- A free name at the end of a way is one of the locations on it. -/
theorem Leads.vacant_mem (h : t.Leads faults l segments (.vacant place)) :
    place ∈ visits l segments ∧ place ≠ [] ∧ t.entryAt? place = none := by
  generalize htarget : Target.vacant place = target at h
  induction h with
  | done => cases htarget
  | slash _ ih => exact ih htarget
  | here _ _ ih => exact ih htarget
  | parent _ _ ih => exact ih htarget
  | @enter l next segment rest target hstep _ _ ih =>
    obtain ⟨hvisits, hvacant⟩ := ih htarget
    rw [hstep.visits_eq]
    exact ⟨List.mem_cons_of_mem _ hvisits, hvacant⟩
  | file => cases htarget
  | vacant hstep hentry hrest =>
    obtain rfl := Target.vacant.inj htarget
    rw [hstep.visits_eq]
    exact ⟨List.mem_cons_self, hstep.next_ne_nil, hentry⟩

end

/-! ### Paths -/

structure IsPath (path : String) : Prop where
  ne_nil : path.toList ≠ []
  no_zero : path.toList.any (·.toNat = 0) = false
  length_le : byteLength path.toList ≤ pathLimit

section

variable {t : FileTree} {faults : Faults} {path : String} {l : Location} {target : Target}

/-- A path is resolved exactly when the system takes it and its names lead somewhere. -/
theorem resolve_eq_ok_iff : t.resolve path faults = .ok target ↔ IsPath path ∧
    t.Leads faults (if Path.isAbsolute path then [] else t.home) (Path.segments path) target := by
  rw [← walk_eq_ok_iff]
  unfold resolve
  dsimp only
  constructor
  · intro h
    split at h
    · cases h
    rename_i hempty
    split at h
    · cases h
    rename_i hzero
    split at h
    · cases h
    rename_i hlong
    exact ⟨⟨by simpa using hempty, by simpa using hzero, Nat.le_of_not_lt hlong⟩, h⟩
  · rintro ⟨⟨hempty, hzero, hlong⟩, h⟩
    rw [if_neg (by simpa using hempty), hzero, if_neg Bool.false_ne_true,
      if_neg (Nat.not_lt.mpr hlong)]
    exact h

theorem home_put (t : FileTree) (l : Location) (e : Entry) : (t.put l e).home = t.home := by
  unfold put
  split <;> rfl

/-- A file that is written is found under the same path. -/
theorem resolve_put (h : t.resolve path faults = .ok target) (hholds : target.Holds l)
    (content : Text.Source) :
    (t.put l (.file content)).resolve path faults = .ok (.file l content) := by
  obtain ⟨hpath, hleads⟩ := resolve_eq_ok_iff.mp h
  rw [resolve_eq_ok_iff, home_put]
  exact ⟨hpath, (hleads.put hholds content).2⟩

/-- What can be looked up can be read where nothing is refused. -/
theorem openFile_of_lookup {content : Text.Source} (h : t.lookup path = .ok (.file content)) :
    t.openFile path = .ok (.ok content) := by
  unfold lookup at h
  unfold openFile
  split at h
  · cases h
  · cases h
  · rename_i l content' hresolve
    split at h
    · cases h
    rename_i hslash
    obtain rfl := Entry.file.inj (Except.ok.inj h)
    simp only [hresolve, if_neg hslash]
  · cases h

/-! ### Writing -/

/-- A path at which a file can be opened for writing, at a location. -/
structure Opens (t : FileTree) (path : String) (faults : Faults) (l : Location) : Prop where
  no_slash : Path.endsWithSlash path = false
  holds : ∃ target, t.resolve path faults = .ok target ∧ target.Holds l
  creating : faults.creating l = none

/-- A file is opened for writing exactly at the paths that allow it. -/
theorem placeFor_eq_ok_iff : t.placeFor path faults = .ok l ↔ t.Opens path faults l := by
  unfold placeFor
  constructor
  · intro h
    split at h
    · cases h
    rename_i target hresolve
    split at h
    · cases h
    rename_i hslash
    have hslash : Path.endsWithSlash path = false := by simpa using hslash
    cases target with
    | directory l => cases h
    | file l' content =>
      dsimp only at h
      split at h
      · cases h
      · rename_i hcreating
        obtain rfl := Except.ok.inj h
        exact ⟨hslash, ⟨_, hresolve, .file content⟩, hcreating⟩
    | vacant l' =>
      dsimp only at h
      split at h
      · cases h
      · rename_i hcreating
        obtain rfl := Except.ok.inj h
        exact ⟨hslash, ⟨_, hresolve, .vacant⟩, hcreating⟩
  · rintro ⟨hslash, ⟨target, hresolve, hholds⟩, hcreating⟩
    rw [hresolve]
    cases hholds with
    | file content => simp only [hslash, Bool.false_eq_true, if_false, hcreating]
    | vacant => simp only [hslash, Bool.false_eq_true, if_false, hcreating]

def Accepts (t : FileTree) (path text : String) (faults : Faults) : Prop :=
  ∃ l, t.Opens path faults l ∧ faults.Takes l text

/-- A path leads to one place. -/
theorem Opens.unique {l' : Location} (h : t.Opens path faults l) (h' : t.Opens path faults l') :
    l = l' := by
  have heq := (placeFor_eq_ok_iff.mpr h).symm.trans (placeFor_eq_ok_iff.mpr h')
  exact Except.ok.inj heq

/-- What is put where a file was opened is found there. -/
theorem Opens.lookup_put (h : t.Opens path faults l) (content : Text.Source) :
    (t.put l (.file content)).lookup path faults = .ok (.file content) := by
  obtain ⟨hslash, ⟨target, hresolve, hholds⟩, -⟩ := h
  rw [lookup, resolve_put hresolve hholds content]
  simp [hslash]

theorem Opens.ne_nil (h : t.Opens path faults l) : l ≠ [] := by
  obtain ⟨target, hresolve, hholds⟩ := h.holds
  exact ((resolve_eq_ok_iff.mp hresolve).2.put hholds []).1.1

/-- A directory is not opened for writing. -/
theorem Opens.not_directory (h : t.Opens path faults l) : t.entryAt? l ≠ some .directory := by
  obtain ⟨target, hresolve, hholds⟩ := h.holds
  exact ((resolve_eq_ok_iff.mp hresolve).2.put hholds []).1.2

theorem fill_of_takes {text : String} (h : faults.Takes l text) :
    t.fill l text faults = (t.put l (.file (.ofString text)), none) := by
  unfold fill
  cases hlimit : faults.limit l with
  | none => rfl
  | some limit => exact if_neg (Nat.not_lt.mpr (h limit hlimit))

/-- The new tree has the beginning of a text in a file that does not take all of it. -/
structure CutsOff (t : FileTree) (path text : String) (faults : Faults) (l : Location)
    (limit : Limit) (t' : FileTree) : Prop where
  opens : t.Opens path faults l
  limit_eq : faults.limit l = some limit
  room_lt : limit.room < (Text.utf8 text).length
  left_eq : t' = t.put l (.file (Text.Source.beginning text limit.room))

theorem CutsOff.fill_eq {text : String} {limit : Limit} {t' : FileTree}
    (h : t.CutsOff path text faults l limit t') : t.fill l text faults = (t', some limit) := by
  simp only [fill, h.limit_eq, if_pos h.room_lt, h.left_eq]

/-- Elsewhere nothing changes when a text is cut off. -/
theorem CutsOff.entryAt?_eq {text : String} {limit : Limit} {t' : FileTree}
    (h : t.CutsOff path text faults l limit t') {l' : Location} (hother : l' ≠ l) :
    t'.entryAt? l' = t.entryAt? l' := by
  rw [h.left_eq, entryAt?_put t h.opens.ne_nil, if_neg hother]

/-- What a file does not take as a whole is cut off. -/
theorem exists_cutsOff {text : String} (h : t.Opens path faults l) (htakes : ¬faults.Takes l text) :
    ∃ limit t', t.CutsOff path text faults l limit t' := by
  obtain ⟨limit, hlimit⟩ := Classical.not_forall.mp htakes
  obtain ⟨hlimit, hroom⟩ := Classical.not_imp.mp hlimit
  exact ⟨limit, _, h, hlimit, Nat.lt_of_not_le hroom, rfl⟩

/-- A text is written whole, or its beginning is, or no file is opened for it. -/
theorem writeFile_cases (t : FileTree) (path text : String) (faults : Faults) :
    (t.Accepts path text faults ∧ ∃ l, t.Opens path faults l ∧
      t.writeFile path text faults = (t.put l (.file (.ofString text)), none)) ∨
    (¬t.Accepts path text faults ∧ ∃ l limit t', t.CutsOff path text faults l limit t' ∧
      t.writeFile path text faults = (t', some limit.error)) ∨
    (¬t.Accepts path text faults ∧ ∃ e, t.writeFile path text faults = (t, some e)) := by
  cases hplace : t.placeFor path faults with
  | error e =>
    refine Or.inr (Or.inr ⟨?_, e, by simp only [writeFile, hplace]⟩)
    rintro ⟨l, hopens, -⟩
    rw [placeFor_eq_ok_iff.mpr hopens] at hplace
    cases hplace
  | ok l =>
    have hopens := placeFor_eq_ok_iff.mp hplace
    by_cases htakes : faults.Takes l text
    · refine Or.inl ⟨⟨l, hopens, htakes⟩, l, hopens, ?_⟩
      simp only [writeFile, hplace, fill_of_takes htakes]
    · obtain ⟨limit, t', hcuts⟩ := exists_cutsOff hopens htakes
      refine Or.inr (Or.inl ⟨?_, l, limit, t', hcuts, ?_⟩)
      · rintro ⟨l', hopens', htakes'⟩
        rw [hopens'.unique hopens] at htakes'
        exact htakes htakes'
      · simp only [writeFile, hplace, hcuts.fill_eq]

end

end FileTree

end ContentTypes
