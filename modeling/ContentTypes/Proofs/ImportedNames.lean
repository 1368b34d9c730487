import ContentTypes.Proofs.Interface
import Mathlib.Data.List.Induction

/-! The names that a declaration file imports. They are collected while the interfaces are written,
and are in the end the type names of the system collections that a field with a line of its own
links to, each at the place where it was first met. -/

namespace ContentTypes

theorem eraseDups_append_singleton (names : List String) (name : String) :
    (names ++ [name]).eraseDups =
      if name ∈ names then names.eraseDups else names.eraseDups ++ [name] := by
  rw [List.eraseDups_append]
  split
  · rename_i h
    simp [List.removeAll, h]
  · rename_i h
    simp [List.removeAll, h, List.eraseDups_cons]

/-- A list without repetitions names everything once. -/
theorem nodup_eraseDups (names : List String) : names.eraseDups.Nodup := by
  induction names using List.reverseRecOn with
  | nil => exact List.nodup_nil
  | append_singleton rest name ih =>
    rw [eraseDups_append_singleton]
    split
    · exact ih
    · rename_i h
      have hn : name ∉ rest.eraseDups := mt List.mem_eraseDups.mp h
      refine List.nodup_append.mpr ⟨ih, List.pairwise_singleton _ _, ?_⟩
      intro other ho last hl heq
      rw [heq, List.mem_singleton.mp hl] at ho
      exact hn ho

def systemNames (links : List Link) : List String :=
  (links.filter fun link => isSystem link.collection).map fun link =>
    systemTypeName link.collection

/-- The names to import are those of the system collections among the targets. -/
theorem mem_systemNames_iff (links : List Link) (name : String) :
    name ∈ systemNames links ↔
      ∃ link ∈ links, isSystem link.collection = true ∧ name = systemTypeName link.collection := by
  unfold systemNames
  simp only [List.mem_map, List.mem_filter, and_assoc, eq_comm]

theorem systemNames_append (links others : List Link) :
    systemNames (links ++ others) = systemNames links ++ systemNames others := by
  unfold systemNames
  rw [List.filter_append, List.map_append]

namespace Imports

/-- A name that is added takes the last place, unless it was met before. -/
theorem names_add {i : Imports} {met : List String} (h : i.names = met.eraseDups) (name : String) :
    (i.add name).names = (met ++ [name]).eraseDups := by
  have hmem : i.names.contains name = true ↔ name ∈ met := by
    rw [h, List.contains_iff_mem, List.mem_eraseDups]
  rw [eraseDups_append_singleton]
  unfold add
  split
  · rename_i hc
    rw [if_pos (hmem.mp hc), h]
  · rename_i hc
    rw [if_neg (mt hmem.mpr hc), h]

/-- A link adds the name of its target at the end, if it is new there. -/
theorem names_addLink {i : Imports} {met : List String} (h : i.names = met.eraseDups)
    (link : Link) : (i.addLink link).names = (met ++ systemNames [link]).eraseDups := by
  unfold addLink systemNames
  split
  · rename_i hs
    simp only [List.filter_cons, hs, ↓reduceIte]
    exact names_add h _
  · rename_i hs
    simp only [List.filter_cons, hs, Bool.false_eq_true, ↓reduceIte]
    rw [List.filter_nil, List.map_nil, List.append_nil, h]

/-- The names after any number of links are all names met, without repetitions after the first. -/
theorem names_foldl_addLink {i : Imports} {met : List String} (h : i.names = met.eraseDups)
    (links : List Link) :
    (links.foldl addLink i).names = (met ++ systemNames links).eraseDups := by
  -- What the accumulator holds is kept as the names met so far, with repetitions.
  induction links generalizing i met with
  | nil =>
    rw [List.foldl_nil, h]
    unfold systemNames
    rw [List.filter_nil, List.map_nil, List.append_nil]
  | cons link rest ih =>
    have hsplit := systemNames_append [link] rest
    rw [List.singleton_append] at hsplit
    rw [List.foldl_cons, ih (names_addLink h link), hsplit, List.append_assoc]

end Imports

namespace Schema

/-- A field of the schema with a line of its own, which the line of a primary key is not, links to
the collection `target`. -/
def LinksTo (s : Schema) (target : String) : Prop :=
  ∃ identifier c f link, s.get? identifier = some c ∧ f ∈ c.fields ∧ f.primaryKey = false ∧
    link ∈ f.links ∧ link.collection = target

def importedNames (s : Schema) (options : RenderOptions) : List String :=
  (s.bodyLines options.indent.unit options.rootName).2.names

/-- The file opens with the import line of these names. -/
theorem render_eq_statement_append (s : Schema) (options : RenderOptions) :
    ∃ rest, s.render options = (Imports.mk (s.importedNames options)).statement ++ rest := by
  unfold render
  simp only [String.append_assoc]
  exact ⟨_, rfl⟩

/-- Some link of the body leads to `target`, wherever its field stands. -/
theorem linksTo_iff_exists_link (s : Schema) (target : String) :
    s.LinksTo target ↔
      ∃ link ∈ s.entries.flatMap fun e => e.2.plainFields.flatMap (·.links),
        link.collection = target := by
  constructor
  · rintro ⟨identifier, c, f, link, hc, hf, hkey, hlink, htarget⟩
    refine ⟨link, ?_, htarget⟩
    have he := (s.get?_eq_some_iff_mem identifier c).mp hc
    have hplain := (c.mem_plainFields_iff f).mpr ⟨hf, hkey⟩
    exact List.mem_flatMap.mpr ⟨_, he, List.mem_flatMap.mpr ⟨f, hplain, hlink⟩⟩
  · rintro ⟨link, hlink, htarget⟩
    obtain ⟨⟨identifier, c⟩, he, hin⟩ := List.mem_flatMap.mp hlink
    obtain ⟨f, hplain, hf⟩ := List.mem_flatMap.mp hin
    obtain ⟨hfield, hkey⟩ := (c.mem_plainFields_iff f).mp hplain
    exact ⟨identifier, c, f, link, (s.get?_eq_some_iff_mem identifier c).mpr he, hfield, hkey, hf,
      htarget⟩

/-- The imports when the types of several fields have been asked for one after the other. -/
def importsAfter (s : Schema) (fs : List FieldDefinition) : Imports :=
  fs.foldl (fun imports f => (s.fieldType f imports).2) {}

theorem importsAfter_eq_foldl (s : Schema) (fs : List FieldDefinition) :
    s.importsAfter fs = (fs.flatMap (·.links)).foldl .addLink {} :=
  List.foldl_flatMap.symm

/-- After several fields the imports are the names met so far, each at its first place. -/
theorem names_importsAfter (s : Schema) (fs : List FieldDefinition) :
    (s.importsAfter fs).names = (systemNames (fs.flatMap (·.links))).eraseDups := by
  have hstart : (Imports.mk []).names = ([] : List String).eraseDups := rfl
  rw [importsAfter_eq_foldl, Imports.names_foldl_addLink hstart, List.nil_append]

/-- Further fields add names at the end only. -/
theorem names_importsAfter_prefix (s : Schema) (fs gs : List FieldDefinition) :
    (s.importsAfter fs).names <+: (s.importsAfter (fs ++ gs)).names := by
  rw [names_importsAfter, names_importsAfter, List.flatMap_append, systemNames_append,
    List.eraseDups_append]
  exact List.prefix_append _ _

/-- The file asks for the types of its fields in the order in which it shows them. -/
theorem importedNames_eq (s : Schema) (options : RenderOptions) :
    s.importedNames options = (s.importsAfter (s.entries.flatMap (·.2.plainFields))).names := by
  unfold importedNames
  rw [bodyLines_snd, importsAfter_eq_foldl, List.flatMap_assoc]

/-- A name is imported exactly when a link leads to a system collection of that type name. -/
theorem mem_importedNames_iff (s : Schema) (options : RenderOptions) (name : String) :
    name ∈ s.importedNames options ↔
      ∃ target, s.LinksTo target ∧ isSystem target = true ∧ name = systemTypeName target := by
  rw [importedNames_eq, names_importsAfter, List.mem_eraseDups, mem_systemNames_iff,
    List.flatMap_assoc]
  simp only [linksTo_iff_exists_link]
  constructor
  · rintro ⟨link, hlink, hs, hn⟩
    exact ⟨link.collection, ⟨link, hlink, rfl⟩, hs, hn⟩
  · rintro ⟨_, ⟨link, hlink, rfl⟩, hs, hn⟩
    exact ⟨link, hlink, hs, hn⟩

theorem statement_eq (i : Imports) :
    i.statement = if i.names = [] then ""
      else "import \x7b " ++ ", ".intercalate i.names ++ " \x7d from '@directus/sdk';\n\n" := by
  obtain ⟨names⟩ := i
  cases names with
  | nil => rfl
  | cons name rest =>
    unfold Imports.statement Imports.isEmpty
    simp only [List.isEmpty_cons, Bool.false_eq_true, ↓reduceIte, reduceCtorEq]
    rw [String.append_assoc, String.append_assoc]
    rfl

/-- The file is its import line, if it needs one, and then begins the first declaration block. -/
theorem render_eq_import_append (s : Schema) (options : RenderOptions) :
    ∃ rest, "declare module '".toList <+: rest.toList ∧ s.render options =
      (if s.importedNames options = [] then ""
        else "import \x7b " ++ ", ".intercalate (s.importedNames options) ++
          " \x7d from '@directus/sdk';\n\n") ++ rest := by
  have hi := statement_eq (s.bodyLines options.indent.unit options.rootName).2
  change _ = if s.importedNames options = [] then _ else _ at hi
  unfold render declareBlock
  dsimp only
  rw [hi]
  simp only [String.append_assoc]
  refine ⟨_, ?_, rfl⟩
  rw [String.toList_append]
  exact List.prefix_append _ _

/-- A file begins with an import line exactly when a name is imported. -/
theorem import_prefix_render_iff (s : Schema) (options : RenderOptions) :
    "import ".toList <+: (s.render options).toList ↔ s.importedNames options ≠ [] := by
  obtain ⟨rest, ⟨tail, htail⟩, hrender⟩ := s.render_eq_import_append options
  rw [hrender]
  split
  · rename_i h
    rw [String.empty_append, ← htail]
    constructor
    · rintro ⟨more, hmore⟩
      -- One text starts with an i and the other with a d.
      exact absurd (congrArg List.head? hmore) (by simp)
    · intro hn
      exact absurd h hn
  · rename_i h
    refine ⟨fun _ => h, fun _ => ?_⟩
    rw [String.append_assoc, String.append_assoc, String.toList_append]
    exact ⟨"\x7b ".toList ++ _, rfl⟩

end Schema

namespace TypeExpr

theorem arrayIf_injective {t u : TypeExpr} {multiple : Bool}
    (h : t.arrayIf multiple = u.arrayIf multiple) : t = u := by
  unfold arrayIf at h
  cases multiple with
  | true => exact TypeExpr.array.inj h
  | false => exact h

end TypeExpr

namespace Schema

/-- A link to a system collection is written with the type name of that collection. -/
theorem linkType_eq_iff_of_isSystem (s : Schema) {link : Link}
    (hs : isSystem link.collection = true) (name : String) :
    s.linkType link =
        (TypeExpr.named (name ++ "<AllDirectusCollections>")).arrayIf link.multiple ↔
      name = systemTypeName link.collection := by
  have htarget : s.linkTarget link.collection =
      .named (systemTypeName link.collection ++ "<AllDirectusCollections>") := by
    unfold linkTarget
    rw [if_pos hs, String.append_assoc, String.append_assoc]
    rfl
  unfold linkType
  rw [htarget]
  constructor
  · intro h
    have hn := TypeExpr.named.inj (TypeExpr.arrayIf_injective h)
    exact (String.append_left_inj _).mp hn.symm
  · rintro rfl
    rfl

/-- The imports of a declaration file are exact. Types that are asked for one after the other leave
the type names of the system collections that the fields link to, each where it was first met, and
the types themselves do not hang on what was met before. The file goes through its collections by
identifier and through the fields of each by name, without its primary keys; it has an import line
exactly when that leaves a name, and the line lists these names. A name is imported exactly when a
link of such a field leads to a system collection and is written with that name. -/
theorem imports_exact (s : Schema) (options : RenderOptions) :
    (∀ fs, (s.importsAfter fs).names = (systemNames (fs.flatMap (·.links))).eraseDups ∧
      (s.importsAfter fs).names.Nodup) ∧
    (∀ fs gs, (s.importsAfter fs).names <+: (s.importsAfter (fs ++ gs)).names) ∧
    (∀ f imports imports', (s.fieldType f imports).1 = (s.fieldType f imports').1) ∧
    (s.entries.Pairwise fun a b => a.1 < b.1) ∧
    (∀ c : CollectionDefinition, c.plainFields.Perm (c.fields.filter (!·.primaryKey)) ∧
      c.plainFields.Pairwise fun f g => f.name ≤ g.name) ∧
    s.importedNames options = (s.importsAfter (s.entries.flatMap (·.2.plainFields))).names ∧
    (∃ rest, "declare module '".toList <+: rest.toList ∧ s.render options =
      (if s.importedNames options = [] then ""
        else "import \x7b " ++ ", ".intercalate (s.importedNames options) ++
          " \x7d from '@directus/sdk';\n\n") ++ rest) ∧
    ("import ".toList <+: (s.render options).toList ↔ s.importedNames options ≠ []) ∧
    ∀ name, name ∈ s.importedNames options ↔
      ∃ identifier c f link, s.get? identifier = some c ∧ f ∈ c.fields ∧ f.primaryKey = false ∧
        link ∈ f.links ∧ isSystem link.collection = true ∧ s.linkType link =
          (TypeExpr.named (name ++ "<AllDirectusCollections>")).arrayIf link.multiple := by
  refine ⟨?_, s.names_importsAfter_prefix, ?_, s.ascending, ?_, ?_,
    s.render_eq_import_append options, s.import_prefix_render_iff options, ?_⟩
  · intro fs
    refine ⟨s.names_importsAfter fs, ?_⟩
    rw [names_importsAfter]
    exact nodup_eraseDups _
  · intro f imports imports'
    rfl
  · intro c
    exact ⟨c.plainFields_perm, c.plainFields_sorted⟩
  · exact s.importedNames_eq options
  · intro name
    rw [mem_importedNames_iff]
    constructor
    · rintro ⟨_, ⟨identifier, c, f, link, hc, hf, hk, hl, rfl⟩, hs, hn⟩
      exact ⟨identifier, c, f, link, hc, hf, hk, hl, hs,
        (s.linkType_eq_iff_of_isSystem hs name).mpr hn⟩
    · rintro ⟨identifier, c, f, link, hc, hf, hk, hl, hs, ht⟩
      exact ⟨link.collection, ⟨identifier, c, f, link, hc, hf, hk, hl, rfl⟩, hs,
        (s.linkType_eq_iff_of_isSystem hs name).mp ht⟩

end Schema

end ContentTypes
