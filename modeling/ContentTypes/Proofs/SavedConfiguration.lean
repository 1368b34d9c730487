import ContentTypes.Proofs.FilePlaces
import ContentTypes.Proofs.PrintedSettings

/-! Settings survive saving: what is written at a path is found there, and the text that is written
for settings is read back as the same settings. A file that does not take all of a short text is not
noticed, because the text goes to the file when nobody asks any more. -/

namespace ContentTypes

/-- The file at a location takes all of a text and lets it be read. -/
structure Faults.Spares (faults : Faults) (l : Location) (text : String) : Prop where
  takes : faults.Takes l text
  opening : faults.opening l = none
  reading : faults.reading l = none

/-- What is put at the place of a file is read there. -/
theorem FileTree.Opens.openFile_put {t : FileTree} {path : String} {faults : Faults} {l : Location}
    (h : t.Opens path faults l) (hopening : faults.opening l = none)
    (hreading : faults.reading l = none) (content : Text.Source) :
    (t.put l (.file content)).openFile path faults = .ok (.ok content) := by
  obtain ⟨hslash, ⟨target, hresolve, hholds⟩, -⟩ := h
  rw [openFile, FileTree.resolve_put hresolve hholds content]
  simp only [hslash, Bool.false_eq_true, if_false, hopening, hreading]

namespace Configuration

section

variable (c : Configuration) (files : FileTree) (path : String) (faults : Faults)

/-- Settings are written whole, or cut off, which may be noticed or not, or no file is opened for
them. -/
theorem write_cases :
    (∃ l, files.Opens path faults l ∧ faults.Takes l c.toYaml ∧
      c.write files path faults = (files.put l (.file (.ofString c.toYaml)), none)) ∨
    (∃ l limit files', files.CutsOff path c.toYaml faults l limit files' ∧
      c.write files path faults =
        (files', if isNoticed c.toYaml limit then some .yaml else none)) ∨
    ((∀ l, ¬files.Opens path faults l) ∧
      ∃ e, c.write files path faults = (files, some (.file e))) := by
  cases hplace : files.placeFor path faults with
  | error e =>
    refine Or.inr (Or.inr ⟨fun l hopens => ?_, e, by simp only [write, hplace]⟩)
    rw [FileTree.placeFor_eq_ok_iff.mpr hopens] at hplace
    cases hplace
  | ok l =>
    have hopens := FileTree.placeFor_eq_ok_iff.mp hplace
    by_cases htakes : faults.Takes l c.toYaml
    · refine Or.inl ⟨l, hopens, htakes, ?_⟩
      simp only [write, hplace, FileTree.fill_of_takes htakes]
    · obtain ⟨limit, files', hcuts⟩ := FileTree.exists_cutsOff hopens htakes
      refine Or.inr (Or.inl ⟨l, limit, files', hcuts, ?_⟩)
      simp only [write, hplace, hcuts.fill_eq]

variable {c files path faults}

/-- Saving succeeds exactly when no problem is noticed. -/
theorem save_eq_ok_iff {files' : FileTree} :
    c.save files path faults = .ok files' ↔ c.write files path faults = (files', none) := by
  unfold save
  constructor
  · intro h
    split at h
    · rename_i written hwrite
      rw [hwrite, Except.ok.inj h]
    · cases h
  · intro h
    simp only [h]

/-- Settings that are held back as a whole are written badly only where no file can be opened, and
nothing changes then. -/
theorem write_of_lt_bufferSize (hshort : (Text.utf8 c.toYaml).length < bufferSize) {e : SourceError}
    (h : (c.write files path faults).2 = some e) :
    (∀ l, ¬files.Opens path faults l) ∧ (c.write files path faults).1 = files := by
  rcases write_cases c files path faults with ⟨l, -, -, hwrite⟩ | ⟨l, limit, files', -, hwrite⟩ |
    ⟨hnone, e', hwrite⟩
  · rw [hwrite] at h
    cases h
  · have hsilent : isNoticed c.toYaml limit = false := by
      rw [isNoticed, decide_eq_false (Nat.not_le.mpr hshort), Bool.false_and]
    rw [hwrite, hsilent] at h
    cases h
  · rw [hwrite]
    exact ⟨hnone, rfl⟩

end

/-- Settings can be saved at just the paths that accept them, and what was saved is loaded as it
was. A file that does not take all of them or may not be read is no place for that. -/
theorem load_save (c : Configuration) (files : FileTree) (path : String) (faults : Faults)
    (hspares : ∀ l, files.Opens path faults l → faults.Spares l c.toYaml) :
    ((∃ files', c.save files path faults = .ok files') ↔ files.Accepts path c.toYaml faults) ∧
      ∀ files', c.save files path faults = .ok files' →
        Configuration.load files' path faults = .ok c := by
  rcases write_cases c files path faults with ⟨l, hopens, htakes, hwrite⟩ |
    ⟨l, limit, files', hcuts, -⟩ | ⟨hnone, e, hwrite⟩
  · refine ⟨⟨fun _ => ⟨l, hopens, htakes⟩, fun _ => ⟨_, save_eq_ok_iff.mpr hwrite⟩⟩, ?_⟩
    intro files' hsave
    have hwritten := (save_eq_ok_iff.mp hsave).symm.trans hwrite
    obtain ⟨rfl, -⟩ := Prod.mk.inj hwritten
    obtain ⟨-, hopening, hreading⟩ := hspares l hopens
    simp only [load, hopens.openFile_put hopening hreading, ofYaml?_toYaml]
  · -- A file that can be opened takes all of the settings.
    have hroom := (hspares l hcuts.opens).takes limit hcuts.limit_eq
    exact absurd hcuts.room_lt (Nat.not_lt.mpr hroom)
  · have hunsaved : ∀ files', c.save files path faults ≠ .ok files' := by
      intro files' hsave
      rw [save_eq_ok_iff, hwrite] at hsave
      cases hsave
    refine ⟨⟨?_, ?_⟩, fun files' hsave => absurd hsave (hunsaved files')⟩
    · rintro ⟨files', hsave⟩
      exact absurd hsave (hunsaved files')
    · rintro ⟨l, hopens, -⟩
      exact absurd hopens (hnone l)

/-- Texts that could be taken for something else, and a path with the name of nothing. -/
theorem load_save_lookalikes : ∃ files',
    ({ rootName := "", moduleName := " a: #b\n'1'", indent := ⟨18446744073709551615, '\t'⟩,
       output := some "null" } : Configuration).save
        ⟨["work"], [(["work"], .directory)]⟩ "typegen.yaml" = .ok files' ∧
      Configuration.load files' "typegen.yaml" = .ok
        { rootName := "", moduleName := " a: #b\n'1'", indent := ⟨18446744073709551615, '\t'⟩,
          output := some "null" } := by
  have hopens : FileTree.Opens ⟨["work"], [(["work"], .directory)]⟩ "typegen.yaml" {}
      ["work", "typegen.yaml"] := ⟨by decide, ⟨_, rfl, .vacant⟩, rfl⟩
  have htakes : ∀ l text, Faults.Takes {} l text := fun l text limit hlimit => nomatch hlimit
  have hall := load_save
    { rootName := "", moduleName := " a: #b\n'1'", indent := ⟨18446744073709551615, '\t'⟩,
      output := some "null" } ⟨["work"], [(["work"], .directory)]⟩ "typegen.yaml" {}
    fun l _ => ⟨htakes l _, rfl, rfl⟩
  obtain ⟨files', hsave⟩ := hall.1.mpr ⟨_, hopens, htakes _ _⟩
  exact ⟨files', hsave, hall.2 files' hsave⟩

end Configuration

end ContentTypes
