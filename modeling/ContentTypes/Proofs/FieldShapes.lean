import ContentTypes.Proofs.Interface

/-! The types and relations that fields can have in a built schema. Only a primary key lists rows,
and the line of a primary key shows no links, so a declaration file never holds an array of a
relation, and no array in it needs parentheses. -/

namespace ContentTypes

namespace TypeExpr

/-- The text of the expression puts parentheses around the element of an array. -/
inductive Encloses : TypeExpr → Prop
  | here {t : TypeExpr} (h : t.needsParentheses = true) : Encloses (.array t)
  | element {t : TypeExpr} (h : Encloses t) : Encloses (.array t)
  | member {ts : List TypeExpr} {t : TypeExpr} (ht : t ∈ ts) (h : Encloses t) : Encloses (.union ts)

theorem not_encloses_named (name : String) : ¬(named name).Encloses := by
  intro h
  cases h

theorem not_encloses_literals (values : List String) : ¬(literals values).Encloses := by
  intro h
  cases h

theorem not_encloses_array_named (name : String) : ¬(array (named name)).Encloses := by
  intro h
  cases h with
  | here h => cases h
  | element h => exact not_encloses_named name h

theorem not_encloses_arrayIf_named (name : String) (multiple : Bool) :
    ¬((named name).arrayIf multiple).Encloses := by
  unfold arrayIf
  split
  · exact not_encloses_array_named name
  · exact not_encloses_named name

theorem not_encloses_spread {t u : TypeExpr} (h : ¬t.Encloses) (hu : u ∈ t.spread) :
    ¬u.Encloses := by
  intro hn
  cases t with
  | union ts => exact h (.member hu hn)
  | named _ | array _ | literals _ =>
    obtain rfl := List.mem_singleton.mp hu
    exact h hn

theorem not_encloses_members {t u : TypeExpr} (h : ¬t.Encloses) (hu : u ∈ t.members) :
    ¬u.Encloses := by
  intro hn
  cases t with
  | union ts => exact h (.member hu hn)
  | named _ | array _ =>
    obtain rfl := List.mem_singleton.mp hu
    exact h hn
  | literals values =>
    obtain ⟨value, -, rfl⟩ := List.mem_map.mp hu
    exact not_encloses_literals _ hn

/-- A union encloses nothing that its members do not enclose. -/
theorem not_encloses_unionOf {ts : List TypeExpr} (h : ∀ t ∈ ts, ¬t.Encloses) :
    ¬(unionOf ts).Encloses := by
  have hspread : ∀ u ∈ ts.flatMap spread, ¬u.Encloses := by
    intro u hu
    obtain ⟨t, ht, hut⟩ := List.mem_flatMap.mp hu
    exact not_encloses_spread (h t ht) hut
  unfold unionOf
  split
  -- A single member stands for itself.
  · rename_i t ht
    rw [ht] at hspread
    exact hspread t (List.mem_singleton_self t)
  · intro hn
    cases hn with
    | member ht hu => exact hspread _ ht hu

end TypeExpr

def primitiveTypes : List TypeExpr := [.number, .boolean, .string, .unknown, .array .string]

/-- Tags stand for five types. -/
theorem mem_primitiveTypes {tag : String} {type : TypeExpr} (h : primitiveType tag = some type) :
    type ∈ primitiveTypes := by
  unfold primitiveType at h
  unfold primitiveTypes
  split at h
  -- A tag that is none of the names may still be a geometry tag that names a shape.
  case h_17 =>
    split at h
    · obtain rfl := Option.some.inj h
      simp only [List.mem_cons, true_or, or_true]
    · cases h
  all_goals
    obtain rfl := Option.some.inj h
    simp only [List.mem_cons, true_or, or_true]

/-- The shape that every field of a built schema has. -/
structure FieldDefinition.Regular (d : FieldDefinition) : Prop where
  type : d.type ∈ primitiveTypes ∨ d.type = .array .unknown ∨ ∃ values, d.type = .literals values
  name_of_literals : ∀ values, d.type = .literals values → d.name = "collection"
  key_of_oneToMany : ∀ target, d.relation = .oneToMany target →
    d.primaryKey = true ∧ (d.type = .array .unknown ∨ ∃ values, d.type = .literals values)
  oneToMany_of_unknowns : d.type = .array .unknown → ∃ target, d.relation = .oneToMany target

theorem array_unknown_not_mem_primitiveTypes : .array .unknown ∉ primitiveTypes := by
  unfold primitiveTypes TypeExpr.number TypeExpr.boolean TypeExpr.string TypeExpr.unknown
  simp

theorem literals_not_mem_primitiveTypes (values : List String) :
    .literals values ∉ primitiveTypes := by
  unfold primitiveTypes TypeExpr.number TypeExpr.boolean TypeExpr.string TypeExpr.unknown
  simp

namespace Field

section

variable {f : Field} {relations : List Relation} {d : FieldDefinition}

theorem Defines.oneToMany_iff (h : f.Defines relations d) (target : String) :
    d.relation = .oneToMany target ↔ f.Lists relations target := by
  rw [← lists_iff, (relationKind_eq_iff f relations d.relation).mpr h.relation]

/-- What the rules say of a field has one of the shapes. -/
theorem Defines.regular (h : f.Defines relations d) : d.Regular := by
  have htype := h.type
  generalize ht : d.type = type at htype
  -- Each rule for a type fixes what the rest of the definition can be.
  cases htype with
  | discriminator hd =>
    refine ⟨?_, ?_, ?_, ?_⟩
    · exact Or.inr (Or.inr ⟨_, ht⟩)
    · intro _ _
      rw [h.name, hd.1]
    · intro target hr
      have hl := (h.oneToMany_iff target).mp hr
      rw [h.primaryKey]
      exact ⟨hl.1.2.1, Or.inr ⟨_, ht⟩⟩
    · intro hu
      rw [ht] at hu
      cases hu
  | listing hd hl =>
    refine ⟨?_, ?_, ?_, ?_⟩
    · exact Or.inr (Or.inl ht)
    · intro values hv
      rw [ht] at hv
      cases hv
    · intro target _
      rw [h.primaryKey]
      exact ⟨hl.1.2.1, Or.inl ht⟩
    · intro _
      exact ⟨_, (h.oneToMany_iff _).mpr hl⟩
  | primitive hd hl hp =>
    have hmem := mem_primitiveTypes hp
    refine ⟨?_, ?_, ?_, ?_⟩
    · rw [ht]
      exact Or.inl hmem
    · intro values hv
      rw [← ht, hv] at hmem
      exact absurd hmem (literals_not_mem_primitiveTypes values)
    · intro target hr
      exact absurd ((h.oneToMany_iff target).mp hr) (hl target)
    · intro hu
      rw [← ht, hu] at hmem
      exact absurd hmem array_unknown_not_mem_primitiveTypes

/-- An alias has no column, so only a relation gives it a type. -/
theorem Defines.of_alias (h : f.Defines relations d) (hf : f.kind = "alias") :
    (∃ target, d.relation = .oneToMany target) ∨ ∃ values, d.type = .literals values := by
  have htype := h.type
  generalize ht : d.type = type at htype ⊢
  cases htype with
  | discriminator hd => exact Or.inr ⟨_, rfl⟩
  | listing hd hl => exact Or.inl ⟨_, (h.oneToMany_iff _).mpr hl⟩
  | primitive hd hl hp =>
    rw [hf] at hp
    cases hp

end

end Field

namespace FieldDefinition

/-- The type of a field is a name, an array of a name or a set of literals. -/
theorem Regular.type_forms {d : FieldDefinition} (h : d.Regular) :
    (∃ name ∈ ["number", "boolean", "string", "unknown"], d.type = .named name) ∨
      (∃ name ∈ ["string", "unknown"], d.type = .array (.named name)) ∨
        ∃ values, d.type = .literals values := by
  rcases h.type with ht | ht | ht
  · unfold primitiveTypes at ht
    simp only [List.mem_cons, List.not_mem_nil, or_false] at ht
    rcases ht with ht | ht | ht | ht | ht
    · exact Or.inl ⟨"number", by decide, ht⟩
    · exact Or.inl ⟨"boolean", by decide, ht⟩
    · exact Or.inl ⟨"string", by decide, ht⟩
    · exact Or.inl ⟨"unknown", by decide, ht⟩
    · exact Or.inr (Or.inl ⟨"string", by decide, ht⟩)
  · exact Or.inr (Or.inl ⟨"unknown", by decide, ht⟩)
  · exact Or.inr (Or.inr ht)

theorem Regular.not_encloses {d : FieldDefinition} (h : d.Regular) : ¬d.type.Encloses := by
  rcases h.type_forms with ⟨name, -, ht⟩ | ⟨name, -, ht⟩ | ⟨values, ht⟩
  · rw [ht]
    exact TypeExpr.not_encloses_named name
  · rw [ht]
    exact TypeExpr.not_encloses_array_named name
  · rw [ht]
    exact TypeExpr.not_encloses_literals values

/-- Links to any number of rows are those of a field that lists rows. -/
theorem Regular.multiple_eq_false {d : FieldDefinition} (h : d.Regular) (hk : d.primaryKey = false)
    {link : Link} (hl : link ∈ d.links) : link.multiple = false := by
  unfold links RelationKind.links at hl
  split at hl
  · cases hl
  -- Only here is a link to many rows, and the field would be a primary key.
  · rename_i target hr
    have hkey := (h.key_of_oneToMany target hr).1
    rw [hk] at hkey
    cases hkey
  · rw [List.mem_singleton.mp hl]
  · obtain ⟨target, -, rfl⟩ := List.mem_map.mp hl
    rfl

end FieldDefinition

namespace Schema

theorem linkTarget_eq_named (s : Schema) (identifier : String) :
    ∃ name, s.linkTarget identifier = .named name := by
  unfold linkTarget
  split
  · exact ⟨_, rfl⟩
  · exact ⟨_, rfl⟩

theorem not_encloses_linkType (s : Schema) (link : Link) : ¬(s.linkType link).Encloses := by
  obtain ⟨name, hname⟩ := s.linkTarget_eq_named link.collection
  unfold linkType
  rw [hname]
  exact TypeExpr.not_encloses_arrayIf_named name link.multiple

/-- No type that is shown puts parentheses around the element of an array. -/
theorem not_encloses_shownType (s : Schema) {d : FieldDefinition} (h : d.Regular) :
    ¬(s.shownType d).Encloses := by
  rw [shownType_eq]
  apply TypeExpr.not_encloses_unionOf
  intro t ht
  rcases List.mem_append.mp ht with ht | ht
  · rcases List.mem_append.mp ht with ht | ht
    · obtain ⟨link, -, rfl⟩ := List.mem_map.mp (List.mem_reverse.mp ht)
      exact s.not_encloses_linkType link
    · exact TypeExpr.not_encloses_members h.not_encloses ht
  · split at ht
    · rw [List.mem_singleton.mp ht]
      exact TypeExpr.not_encloses_named _
    · cases ht

end Schema

namespace DataModel

section

variable {m : DataModel} {identifier : String} {d : FieldDefinition}

/-- A field of a built schema is defined by a record of its collection that has a place. -/
theorem exists_defines {naming : Naming} {c : CollectionDefinition}
    (hc : (m.build naming).schema.get? identifier = some c) (hd : d ∈ c.fields) :
    ∃ f ∈ m.resolvableOf identifier, f.Defines m.relations d := by
  obtain ⟨r, hr, rfl, -⟩ := (m.get?_build_eq_some_iff naming identifier c).mp hc
  have hid : r.collection = identifier := hr.holds
  have hmem := (m.mem_definitionsOf_iff r.collection d).mp hd
  rwa [hid] at hmem

theorem collection_of_mem_resolvableOf {f : Field} (hf : f ∈ m.resolvableOf identifier) :
    f.collection = identifier := by
  have h := (List.mem_filter.mp hf).2
  exact (of_decide_eq_true h).1

end

/-- Every field of a built schema has one of the shapes. -/
theorem regular_of_mem_fields (m : DataModel) {naming : Naming} {identifier : String}
    {c : CollectionDefinition} (hc : (m.build naming).schema.get? identifier = some c)
    {d : FieldDefinition} (hd : d ∈ c.fields) : d.Regular := by
  obtain ⟨f, -, hf⟩ := exists_defines hc hd
  exact hf.regular

/-- Every field of a built schema is regular, and a record of an alias is in the schema only as a
field that lists rows or as a discriminator. The body of the file is made of the interfaces and two
root interfaces. An interface shows the first primary key with its own type and every other field
with the type it is shown with. None of these types and of those in the root interfaces puts
parentheses around the element of an array, and no link that is shown is an array. -/
theorem build_regular (m : DataModel) (naming : Naming) (options : RenderOptions)
    (identifier : String) (c : CollectionDefinition)
    (hc : (m.build naming).schema.get? identifier = some c) :
    (∀ d ∈ c.fields, d.Regular) ∧
    (∀ f ∈ m.resolvableOf identifier, f.kind = "alias" → ∀ d, f.Defines m.relations d →
      (∃ target, d.relation = .oneToMany target) ∨ ∃ values, d.type = .literals values) ∧
    ((m.build naming).schema.bodyLines options.indent.unit options.rootName).1 =
      ((m.build naming).schema.entries.flatMap fun e =>
        (m.build naming).schema.interface options.indent.unit e.2 ++ [""]) ++
        rootLines options.indent.unit options.rootName (m.build naming).schema.userEntries ++
        [""] ++ rootLines options.indent.unit allCollectionsRoot (m.build naming).schema.entries ∧
    (m.build naming).schema.interface options.indent.unit c =
      ("interface " ++ c.name ++ " \x7b") ::
        c.primaryKey?.toList.map (fun d => memberLine options.indent.unit d.name d.type) ++
        c.plainFields.map (fun d => memberLine options.indent.unit d.name
          ((m.build naming).schema.shownType d)) ++ ["\x7d"] ∧
    (∀ d ∈ c.primaryKey?, ¬d.type.Encloses) ∧
    (∀ d ∈ c.plainFields, ¬((m.build naming).schema.shownType d).Encloses) ∧
    (∀ d ∈ c.plainFields, ∀ link ∈ d.links,
      ∃ name, (m.build naming).schema.linkType link = .named name) ∧
    ¬((TypeExpr.named c.name).arrayIf !c.singleton).Encloses := by
  have hregular : ∀ d ∈ c.fields, d.Regular := fun d hd => m.regular_of_mem_fields hc hd
  have hplain : ∀ d ∈ c.plainFields, d.Regular ∧ d.primaryKey = false := by
    intro d hd
    have hmem := List.mem_filter.mp (c.plainFields_perm.mem_iff.mp hd)
    exact ⟨hregular d hmem.1, by simpa using hmem.2⟩
  refine ⟨hregular, ?_, Schema.bodyLines_fst _ _ _, ?_, ?_, ?_, ?_, ?_⟩
  · intro f _ hf d hd
    exact hd.of_alias hf
  · unfold Schema.interface Schema.members CollectionDefinition.keyLines
    cases c.primaryKey? <;> rfl
  · intro d hd
    exact (hregular d (List.mem_of_find?_eq_some hd)).not_encloses
  · intro d hd
    exact Schema.not_encloses_shownType _ (hplain d hd).1
  · intro d hd link hlink
    obtain ⟨hr, hk⟩ := hplain d hd
    unfold Schema.linkType
    rw [hr.multiple_eq_false hk hlink]
    exact Schema.linkTarget_eq_named _ _
  · exact TypeExpr.not_encloses_arrayIf_named _ _

def pageBlocks : DataModel where
  collections := [{ collection := "pages" }, { collection := "blocks" }]
  fields :=
    [(({ collection := "pages", field := "blocks", kind := "alias" } : Field).withSpecial
        ["m2a"]).primaryKey,
      { collection := "pages", field := "keywords", kind := "csv" },
      { collection := "blocks", field := "collection", kind := "string" },
      ({ collection := "blocks", field := "item", kind := "string" } : Field).nullable]
  relations :=
    [(Relation.manyToOne "blocks" "page" "pages").withOneField "pages" "blocks",
      ({ collection := "blocks", field := "item" } : Relation).withAllowedCollections
        ["pages", "directus_files"]]

def pagesDefinition : CollectionDefinition where
  name := "Pages"
  system := false
  singleton := false
  fields :=
    [⟨"blocks", .array .unknown, false, true, .oneToMany "blocks"⟩,
      ⟨"keywords", .array .string, false, false, .none⟩]

def blocksDefinition : CollectionDefinition where
  name := "Blocks"
  system := false
  singleton := false
  fields :=
    [⟨"collection", .literals ["pages", "directus_files"], false, false, .none⟩,
      ⟨"item", .string, true, false, .manyToAny ["pages", "directus_files"]⟩]

/-- The key of a page is regular, and the content of a block is shown without parentheses. -/
theorem build_regular_pageBlocks :
    (pageBlocks.build .pascalCase).schema.get? "pages" = some pagesDefinition ∧
    (pageBlocks.build .pascalCase).schema.get? "blocks" = some blocksDefinition ∧
    (∀ d ∈ pagesDefinition.fields, d.Regular) ∧
    ∀ d ∈ blocksDefinition.plainFields,
      ¬((pageBlocks.build .pascalCase).schema.shownType d).Encloses := by
  have hpages : (pageBlocks.build .pascalCase).schema.get? "pages" = some pagesDefinition := rfl
  have hblocks : (pageBlocks.build .pascalCase).schema.get? "blocks" = some blocksDefinition := rfl
  refine ⟨hpages, hblocks, ?_, ?_⟩
  · exact (build_regular pageBlocks .pascalCase {} "pages" pagesDefinition hpages).1
  · exact (build_regular pageBlocks .pascalCase {} "blocks" blocksDefinition
      hblocks).2.2.2.2.2.1

end DataModel

end ContentTypes
