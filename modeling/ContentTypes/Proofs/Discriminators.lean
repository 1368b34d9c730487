import ContentTypes.Proofs.FieldShapes

/-! A discriminator and the foreign key beside it. Both go by the first relation record of that key,
but only one of them minds what else the record says. So a many-to-any relation always has a
discriminator with its targets, and a discriminator stands beside another relation only where the
key lists rows itself or has a single target that wins over the allowed ones. -/

namespace ContentTypes

theorem FirstWith.unique {α : Type} {p : α → Prop} [DecidablePred p] {l : List α} {a b : α}
    (ha : FirstWith p l a) (hb : FirstWith p l b) : a = b := by
  have hp : ∀ x, decide (p x) = true ↔ p x := fun x => decide_eq_true_iff
  have hfa := (find?_eq_some_iff_firstWith hp l a).mpr ha
  have hfb := (find?_eq_some_iff_firstWith hp l b).mpr hb
  rw [hfa] at hfb
  exact Option.some.inj hfb

instance (r : Relation) (collection field : String) : Decidable (r.IsKey collection field) :=
  inferInstanceAs (Decidable (r.collection = collection ∧ r.field = field))

namespace Field

section

variable {f : Field} {relations : List Relation} {d : FieldDefinition}

/-- A field is typed with literals exactly when it is a discriminator, and they are its targets. -/
theorem Defines.literals_iff (h : f.Defines relations d) (targets : List String) :
    d.type = .literals targets ↔ f.Discriminates relations targets := by
  have htype := h.type
  rw [← valueType?_eq_some_iff] at htype
  constructor
  · intro ht
    rw [ht, valueType?_eq_some_iff] at htype
    cases htype with
    | discriminator hd => exact hd
    | primitive hd hl hp => exact absurd (mem_primitiveTypes hp) (literals_not_mem_primitiveTypes _)
  · intro hd
    rw [(valueType?_eq_some_iff f relations _).mpr (.discriminator hd)] at htype
    exact (Option.some.inj htype).symm

/-- Without a list of allowed collections the type is that of the tag, or rows of a kind that is
not known. -/
theorem Defines.type_of_not_discriminates (h : f.Defines relations d)
    (hn : ∀ targets, ¬f.Discriminates relations targets) :
    ((∃ target, f.Lists relations target) ∧ d.type = .array (.named "unknown")) ∨
      (∀ target, ¬f.Lists relations target) ∧ primitiveType f.kind = some d.type := by
  have htype := h.type
  generalize d.type = type at htype ⊢
  cases htype with
  | discriminator hd => exact absurd hd (hn _)
  | listing hd hl => exact Or.inl ⟨⟨_, hl⟩, rfl⟩
  | primitive hd hl hp => exact Or.inr ⟨hl, hp⟩

/-- A field links to any of several collections exactly when it lists no rows, and the record of its
own foreign key allows them and names no single target. -/
theorem Defines.manyToAny_iff (h : f.Defines relations d) (targets : List String) :
    d.relation = .manyToAny targets ↔ (∀ target, ¬f.Lists relations target) ∧
      ∃ r, FirstWith (·.IsKey f.collection f.field) relations r ∧ r.relatedCollection = none ∧
        r.Allows targets := by
  constructor
  · intro hr
    have hrelation := h.relation
    rw [hr] at hrelation
    cases hrelation with
    | several hl hfirst hnone ha => exact ⟨hl, _, hfirst, hnone, ha⟩
  · rintro ⟨hl, r, hfirst, hnone, ha⟩
    have hkind := relationKind_eq_of_hasRelation h.relation
    rw [← hkind]
    exact relationKind_eq_of_hasRelation (.several hl hfirst hnone ha)

/-- A field links to one row of a collection exactly when it lists no rows, and the record of its
own foreign key names the collection. -/
theorem Defines.manyToOne_iff (h : f.Defines relations d) (target : String) :
    d.relation = .manyToOne target ↔ (∀ target, ¬f.Lists relations target) ∧
      ∃ r, FirstWith (·.IsKey f.collection f.field) relations r ∧
        r.relatedCollection = some target := by
  constructor
  · intro hr
    have hrelation := h.relation
    rw [hr] at hrelation
    cases hrelation with
    | single hl hfirst ht => exact ⟨hl, _, hfirst, ht⟩
  · rintro ⟨hl, r, hfirst, ht⟩
    have hkind := relationKind_eq_of_hasRelation h.relation
    rw [← hkind]
    exact relationKind_eq_of_hasRelation (.single hl hfirst ht)

end

end Field

namespace DataModel

/-- The record of the foreign key `item` of a collection. -/
def PairedBy (m : DataModel) (identifier : String) (r : Relation) : Prop :=
  FirstWith (·.IsKey identifier "item") m.relations r

/-- The definition comes from a primary key without a column whose rows are found from the other
side. -/
def ListsRows (m : DataModel) (identifier : String) (d : FieldDefinition) (target : String) :
    Prop :=
  ∃ f ∈ m.resolvableOf identifier, f.Defines m.relations d ∧ f.Lists m.relations target

section

variable {m : DataModel} {identifier : String} {d : FieldDefinition}

/-- A field has literals exactly as the discriminator of its collection. -/
theorem literals_iff_of_mem_fields {naming : Naming} {c : CollectionDefinition}
    (hc : (m.build naming).schema.get? identifier = some c) (hd : d ∈ c.fields)
    (targets : List String) : d.type = .literals targets ↔
      d.name = "collection" ∧ ∃ r, m.PairedBy identifier r ∧ r.Allows targets := by
  obtain ⟨f, hf, hfd⟩ := exists_defines hc hd
  have hfc := collection_of_mem_resolvableOf hf
  rw [hfd.literals_iff, hfd.name]
  unfold Field.Discriminates PairedBy
  rw [hfc]

/-- Whether a definition lists rows is the same for every record that it can come from. -/
theorem listsRows_iff {f : Field} (hf : f ∈ m.resolvableOf identifier)
    (hfd : f.Defines m.relations d) (target : String) :
    m.ListsRows identifier d target ↔ f.Lists m.relations target := by
  constructor
  · rintro ⟨f', -, hf'd, hl⟩
    have hrelation : d.relation = .oneToMany target := (hf'd.oneToMany_iff target).mpr hl
    exact (hfd.oneToMany_iff target).mp hrelation
  · intro hl
    exact ⟨f, hf, hfd, hl⟩

/-- The relation of a foreign key `item` that may lead to several collections. -/
theorem manyToAny_iff_of_mem_fields {naming : Naming} {c : CollectionDefinition}
    (hc : (m.build naming).schema.get? identifier = some c) (hd : d ∈ c.fields)
    (hname : d.name = "item") (targets : List String) : d.relation = .manyToAny targets ↔
      (∀ target, ¬m.ListsRows identifier d target) ∧
        ∃ r, m.PairedBy identifier r ∧ r.relatedCollection = none ∧ r.Allows targets := by
  obtain ⟨f, hf, hfd⟩ := exists_defines hc hd
  have hfc := collection_of_mem_resolvableOf hf
  have hfn : f.field = "item" := hfd.name ▸ hname
  rw [hfd.manyToAny_iff, hfc, hfn]
  simp only [listsRows_iff hf hfd]
  exact Iff.rfl

/-- The relation of a foreign key `item` that leads to one collection. -/
theorem manyToOne_iff_of_mem_fields {naming : Naming} {c : CollectionDefinition}
    (hc : (m.build naming).schema.get? identifier = some c) (hd : d ∈ c.fields)
    (hname : d.name = "item") (target : String) : d.relation = .manyToOne target ↔
      (∀ target, ¬m.ListsRows identifier d target) ∧
        ∃ r, m.PairedBy identifier r ∧ r.relatedCollection = some target := by
  obtain ⟨f, hf, hfd⟩ := exists_defines hc hd
  have hfc := collection_of_mem_resolvableOf hf
  have hfn : f.field = "item" := hfd.name ▸ hname
  rw [hfd.manyToOne_iff, hfc, hfn]
  simp only [listsRows_iff hf hfd]
  exact Iff.rfl

/-- Without a list of allowed collections the type is that of the column itself. -/
theorem exists_type_of_mem_fields {naming : Naming} {c : CollectionDefinition}
    (hc : (m.build naming).schema.get? identifier = some c) (hd : d ∈ c.fields)
    (hnone : ∀ r targets, m.PairedBy identifier r → ¬r.Allows targets) :
    ∃ f ∈ m.resolvableOf identifier, f.Defines m.relations d ∧
      (((∃ target, f.Lists m.relations target) ∧ d.type = .array (.named "unknown")) ∨
        (∀ target, ¬f.Lists m.relations target) ∧ primitiveType f.kind = some d.type) := by
  obtain ⟨f, hf, hfd⟩ := exists_defines hc hd
  refine ⟨f, hf, hfd, ?_⟩
  apply hfd.type_of_not_discriminates
  rintro targets ⟨-, r, hr, ha⟩
  rw [collection_of_mem_resolvableOf hf] at hr
  exact hnone r targets hr ha

end

/-- The foreign key `item` and the column `collection` of one collection. The column is a
discriminator exactly when the record of the key allows certain collections. The key has a
many-to-any relation exactly when, besides, it lists no rows itself and its record names no single
target; the links of the relation are then the literals of the column. Where the record names a
target the relation leads to it, and where it allows no collections the column keeps a type of its
own. -/
theorem discriminator_agrees_with_item (m : DataModel) (naming : Naming) (identifier : String)
    (c : CollectionDefinition) (hc : (m.build naming).schema.get? identifier = some c)
    (item column : FieldDefinition) (hitem : item ∈ c.fields) (hin : item.name = "item")
    (hcolumn : column ∈ c.fields) (hcn : column.name = "collection") :
    (∀ targets, column.type = .literals targets ↔
      ∃ r, m.PairedBy identifier r ∧ r.Allows targets) ∧
    (∀ targets, item.relation = .manyToAny targets ↔ column.type = .literals targets ∧
      (∀ target, ¬m.ListsRows identifier item target) ∧
      ∀ r, m.PairedBy identifier r → r.relatedCollection = none) ∧
    (∀ targets, item.relation = .manyToAny targets →
      item.links = targets.map fun target => ⟨target, false⟩) ∧
    (∀ target, item.relation = .oneToMany target ↔ m.ListsRows identifier item target) ∧
    (∀ target, item.relation = .manyToOne target ↔
      (∀ target, ¬m.ListsRows identifier item target) ∧
        ∃ r, m.PairedBy identifier r ∧ r.relatedCollection = some target) ∧
    ((∀ r targets, m.PairedBy identifier r → ¬r.Allows targets) →
      ∃ f ∈ m.resolvableOf identifier, f.Defines m.relations column ∧
        (((∃ target, f.Lists m.relations target) ∧ column.type = .array (.named "unknown")) ∨
          (∀ target, ¬f.Lists m.relations target) ∧
            primitiveType f.kind = some column.type)) := by
  have hliterals : ∀ targets, column.type = .literals targets ↔
      ∃ r, m.PairedBy identifier r ∧ r.Allows targets := by
    intro targets
    rw [literals_iff_of_mem_fields hc hcolumn]
    exact and_iff_right hcn
  refine ⟨hliterals, ?_, ?_, ?_, manyToOne_iff_of_mem_fields hc hitem hin,
    exists_type_of_mem_fields hc hcolumn⟩
  · intro targets
    rw [manyToAny_iff_of_mem_fields hc hitem hin, hliterals]
    constructor
    · rintro ⟨hl, r, hr, hnone, ha⟩
      refine ⟨⟨r, hr, ha⟩, hl, ?_⟩
      -- There is one such record, since it is the first of its key.
      intro r' hr'
      rw [FirstWith.unique hr' hr]
      exact hnone
    · rintro ⟨⟨r, hr, ha⟩, hl, hnone⟩
      exact ⟨hl, r, hr, hnone r hr, ha⟩
  · intro targets hr
    unfold FieldDefinition.links
    rw [hr]
    rfl
  · intro target
    obtain ⟨f, hf, hfd⟩ := exists_defines hc hitem
    rw [listsRows_iff hf hfd]
    exact hfd.oneToMany_iff target

/-- The discriminator of a block lists the two collections that its item links to. -/
theorem discriminator_agrees_with_item_pageBlocks :
    (pageBlocks.build .pascalCase).schema.get? "blocks" = some blocksDefinition ∧
    ∃ item ∈ blocksDefinition.fields, ∃ column ∈ blocksDefinition.fields,
      item.name = "item" ∧ column.name = "collection" ∧
      item.relation = .manyToAny ["pages", "directus_files"] ∧
      column.type = .literals ["pages", "directus_files"] := by
  have hblocks : (pageBlocks.build .pascalCase).schema.get? "blocks" = some blocksDefinition := rfl
  have hcolumn : (⟨"collection", .literals ["pages", "directus_files"], false, false, .none⟩ :
    FieldDefinition) ∈ blocksDefinition.fields := List.mem_cons_self
  have hitem : (⟨"item", .string, true, false, .manyToAny ["pages", "directus_files"]⟩ :
    FieldDefinition) ∈ blocksDefinition.fields :=
    List.mem_cons_of_mem _ (List.mem_singleton_self _)
  have h := discriminator_agrees_with_item pageBlocks .pascalCase "blocks" blocksDefinition hblocks
    _ _ hitem rfl hcolumn rfl
  exact ⟨hblocks, _, hitem, _, hcolumn, rfl, rfl, rfl, ((h.2.1 _).mp rfl).1⟩

def sections : DataModel where
  collections := [{ collection := "sections" }]
  fields :=
    [{ collection := "sections", field := "item", kind := "string" },
      { collection := "sections", field := "collection", kind := "string" }]
  relations :=
    [(Relation.manyToOne "sections" "item" "hero").withAllowedCollections ["hero", "gallery"]]

def sectionsDefinition : CollectionDefinition where
  name := "sections"
  system := false
  singleton := false
  fields :=
    [⟨"item", .string, false, false, .manyToOne "hero"⟩,
      ⟨"collection", .literals ["hero", "gallery"], false, false, .none⟩]

/-- A discriminator can list collections that the key beside it never links to. -/
theorem discriminator_beside_single_target :
    ¬∀ (m : DataModel) (naming : Naming) (identifier : String) (c : CollectionDefinition)
      (item column : FieldDefinition), (m.build naming).schema.get? identifier = some c →
        item ∈ c.fields → item.name = "item" → column ∈ c.fields → column.name = "collection" →
        ∀ targets, column.type = .literals targets ↔ item.relation = .manyToAny targets := by
  intro h
  have hsections : (sections.build .database).schema.get? "sections" = some sectionsDefinition :=
    rfl
  have hiff := h sections .database "sections" sectionsDefinition
    ⟨"item", .string, false, false, .manyToOne "hero"⟩
    ⟨"collection", .literals ["hero", "gallery"], false, false, .none⟩ hsections
    List.mem_cons_self rfl (List.mem_cons_of_mem _ (List.mem_singleton_self _)) rfl
    ["hero", "gallery"]
  cases hiff.mp rfl

end DataModel

end ContentTypes
