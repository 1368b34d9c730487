import ContentTypes.Proofs.ShownTypes

/-! What the written type of a field is made of: a token for each link, from the last link to the
first, then what the field's own type contributes, then `null` if the field is nullable. Nothing is
merged or nested on the way, since each of these is a single alternative, and a union of single
alternatives has exactly these. -/

namespace ContentTypes

namespace TypeExpr

/-- What a type of its own puts into a field's written type: a set of literals each of them, and any
other type itself. -/
inductive Contributes : TypeExpr → List TypeExpr → Prop
  | named (name : String) : Contributes (.named name) [.named name]
  | array (t : TypeExpr) : Contributes (.array t) [.array t]
  | literals (values : List String) :
      Contributes (.literals values) (values.map fun value => .literals [value])

end TypeExpr

namespace Schema

/-- The name that stands for the target of a link: the type of a system collection with the root
interface as its argument, the name of a collection of the schema, and nothing for any other. -/
inductive TargetName (s : Schema) : String → String → Prop
  | system {target : String} (hs : isSystem target = true) :
      TargetName s target (systemTypeName target ++ "<AllDirectusCollections>")
  | listed {target : String} (hs : isSystem target = false) {d : CollectionDefinition}
      (hd : s.get? target = some d) : TargetName s target d.name
  | dangling {target : String} (hs : isSystem target = false) (hd : s.get? target = none) :
      TargetName s target ""

/-- The token of a link: the name of its target, as an array if the link leads to many rows. -/
inductive Token (s : Schema) : Link → TypeExpr → Prop
  | one {target name : String} (h : s.TargetName target name) :
      Token s ⟨target, false⟩ (.named name)
  | many {target name : String} (h : s.TargetName target name) :
      Token s ⟨target, true⟩ (.array (.named name))

section

variable (s : Schema)

/-- The name of a target is the one that links to it are written with. -/
theorem targetName_iff (target name : String) :
    s.TargetName target name ↔ s.linkTarget target = .named name := by
  have hsystem : systemTypeName target ++ "<" ++ allCollectionsRoot ++ ">" =
      systemTypeName target ++ "<AllDirectusCollections>" := by
    rw [String.append_assoc, String.append_assoc]
    rfl
  unfold linkTarget
  rw [hsystem]
  constructor
  · intro h
    cases h with
    | system hs => rw [if_pos hs]
    | listed hs hd => rw [hs, hd, if_neg Bool.false_ne_true]
    | dangling hs hd => rw [hs, hd, if_neg Bool.false_ne_true]
  · intro h
    cases hs : isSystem target with
    | true =>
      rw [hs, if_pos rfl] at h
      rw [← TypeExpr.named.inj h]
      exact .system hs
    | false =>
      rw [hs, if_neg Bool.false_ne_true] at h
      rw [← TypeExpr.named.inj h]
      cases hd : s.get? target with
      | none => exact .dangling hs hd
      | some d => exact .listed hs hd

/-- A link is written with its token. -/
theorem token_iff (link : Link) (t : TypeExpr) : s.Token link t ↔ t = s.linkType link := by
  obtain ⟨target, multiple⟩ := link
  constructor
  · intro h
    cases h with
    | one h => exact ((s.targetName_iff target _).mp h).symm
    | many h => exact congrArg TypeExpr.array ((s.targetName_iff target _).mp h).symm
  · rintro rfl
    obtain ⟨name, hname⟩ := s.linkTarget_eq_named target
    have htarget := (s.targetName_iff target name).mpr hname
    unfold linkType
    rw [hname]
    cases multiple with
    | true => exact .many htarget
    | false => exact .one htarget

/-- Only a collection of that name stands for its links as `null`. -/
theorem targetName_null_iff (target : String) :
    s.TargetName target "null" ↔
      isSystem target = false ∧ ∃ d, s.get? target = some d ∧ d.name = "null" := by
  constructor
  · intro h
    obtain ⟨name, hname, h⟩ : ∃ name, name = "null" ∧ s.TargetName target name := ⟨_, rfl, h⟩
    cases h with
    | system hs =>
      -- The type of a system collection ends with a bracket.
      have hlast := congrArg (fun text : String => text.toList.getLast?) hname
      simp at hlast
    | listed hs hd => exact ⟨hs, _, hd, hname⟩
    | dangling hs hd => simp at hname
  · rintro ⟨hs, d, hd, hname⟩
    rw [← hname]
    exact .listed hs hd

/-- A token is `null` exactly when it leads to one row of a collection with that name. -/
theorem token_null_iff (link : Link) :
    s.Token link .null ↔ link.multiple = false ∧ isSystem link.collection = false ∧
      ∃ d, s.get? link.collection = some d ∧ d.name = "null" := by
  rw [← s.targetName_null_iff]
  constructor
  · intro h
    cases h with
    | one h => exact ⟨rfl, h⟩
  · rintro ⟨hm, h⟩
    obtain ⟨target, multiple⟩ := link
    obtain rfl : multiple = false := hm
    exact .one h

theorem forall₂_token (links : List Link) :
    List.Forall₂ s.Token links (links.map s.linkType) := by
  rw [List.forall₂_map_right_iff]
  exact List.forall₂_same.mpr fun link _ => (s.token_iff link _).mpr rfl

end

end Schema

namespace FieldDefinition

variable {d : FieldDefinition}

theorem Regular.contributes (h : d.Regular) : d.type.Contributes d.type.members := by
  rcases h.type_forms with ⟨name, -, ht⟩ | ⟨name, -, ht⟩ | ⟨values, ht⟩
  · rw [ht]
    exact .named name
  · rw [ht]
    exact .array _
  · rw [ht]
    exact .literals values

theorem Regular.null_not_mem_members (h : d.Regular) : .null ∉ d.type.members := by
  intro hnull
  rcases h.member_cases hnull with ⟨name, hname, heq⟩ | ⟨name, -, heq⟩ | ⟨-, -, value, -, heq⟩
  · obtain rfl := TypeExpr.named.inj heq
    exact absurd hname (by decide)
  · cases heq
  · cases heq

end FieldDefinition

namespace Schema

variable (s : Schema) {d : FieldDefinition}

/-- A field can be `null` if it is nullable or links to a collection of this name. -/
theorem null_mem_alternatives_iff (h : d.Regular) :
    .null ∈ s.alternatives d ↔ d.nullable = true ∨ ∃ link ∈ d.links, s.Token link .null := by
  constructor
  · intro hnull
    unfold alternatives at hnull
    rcases List.mem_append.mp hnull with hnull | hnull
    · rcases List.mem_append.mp hnull with hnull | hnull
      · obtain ⟨link, hl, heq⟩ := List.mem_map.mp (List.mem_reverse.mp hnull)
        exact Or.inr ⟨link, hl, (s.token_iff link _).mpr heq.symm⟩
      · exact absurd hnull h.null_not_mem_members
    · split at hnull
      · rename_i hn
        exact Or.inl hn
      · cases hnull
  · unfold alternatives
    rintro (hn | ⟨link, hl, htoken⟩)
    · rw [if_pos hn]
      exact List.mem_append_right _ (List.mem_singleton_self _)
    · rw [(s.token_iff link _).mp htoken]
      have hmem : s.linkType link ∈ (d.links.map s.linkType).reverse :=
        List.mem_reverse.mpr (List.mem_map.mpr ⟨link, hl, rfl⟩)
      exact List.mem_append_left _ (List.mem_append_left _ hmem)

/-- The type of a nullable field ends with `null`. -/
theorem getLast?_alternatives (hn : d.nullable = true) :
    (s.alternatives d).getLast? = some .null := by
  unfold alternatives
  rw [if_pos hn, List.getLast?_concat]

end Schema

namespace DataModel

/-- The type that a field of a built schema is written with has these alternatives, whatever was
imported before: the tokens of its links, from the last to the first, what its own type contributes,
and `null` if it is nullable. So `null` closes the type of a nullable field, and in any other it is
the name of a collection that the field links to. -/
theorem fieldType_composed (m : DataModel) (naming : Naming) (identifier : String)
    (c : CollectionDefinition) (hc : (m.build naming).schema.get? identifier = some c)
    (d : FieldDefinition) (hd : d ∈ c.fields) (imports : Imports) :
    (∃ tokens own, List.Forall₂ (m.build naming).schema.Token d.links tokens ∧
      d.type.Contributes own ∧
      ((m.build naming).schema.fieldType d imports).1.members =
        tokens.reverse ++ own ++ if d.nullable then [.null] else []) ∧
    (d.nullable = true →
      ((m.build naming).schema.fieldType d imports).1.members.getLast? = some .null) ∧
    (.null ∈ ((m.build naming).schema.fieldType d imports).1.members ↔
      d.nullable = true ∨ ∃ link ∈ d.links, link.multiple = false ∧
        isSystem link.collection = false ∧
        ∃ e, (m.build naming).schema.get? link.collection = some e ∧ e.name = "null") := by
  have hregular := m.regular_of_mem_fields hc hd
  have hmembers : ((m.build naming).schema.fieldType d imports).1.members =
      (m.build naming).schema.alternatives d := Schema.members_shownType _ hregular
  rw [hmembers]
  refine ⟨?_, ?_, ?_⟩
  · exact ⟨_, _, Schema.forall₂_token _ d.links, hregular.contributes, rfl⟩
  · intro hn
    exact Schema.getLast?_alternatives _ hn
  · rw [Schema.null_mem_alternatives_iff _ hregular]
    simp only [Schema.token_null_iff]

def slides : DataModel where
  collections := [{ collection := "slides" }, { collection := "null" }]
  fields :=
    [({ collection := "slides", field := "collection", kind := "string" } : Field).nullable,
      { collection := "slides", field := "item", kind := "string" },
      { collection := "null", field := "id", kind := "integer" }]
  relations :=
    [({ collection := "slides", field := "item" } : Relation).withAllowedCollections
        ["null", "directus_files"],
      Relation.manyToOne "slides" "collection" "types"]

def slidesDefinition : CollectionDefinition where
  name := "slides"
  system := false
  singleton := false
  fields :=
    [⟨"collection", .literals ["null", "directus_files"], true, false, .manyToOne "types"⟩,
      ⟨"item", .string, false, false, .manyToAny ["null", "directus_files"]⟩]

theorem get?_build_slides :
    (slides.build .database).schema.get? "slides" = some slidesDefinition := rfl

/-- The type of `item` holds `null`, the name of a collection, though the field is not nullable. -/
theorem fieldType_composed_slides :
    (slides.build .database).schema.get? "slides" = some slidesDefinition ∧
    ∃ d ∈ slidesDefinition.fields, d.nullable = false ∧
      .null ∈ ((slides.build .database).schema.fieldType d {}).1.members ∧
      ∃ tokens own, List.Forall₂ (slides.build .database).schema.Token d.links tokens ∧
        d.type.Contributes own ∧
        ((slides.build .database).schema.fieldType d {}).1.members = tokens.reverse ++ own := by
  refine ⟨get?_build_slides,
    ⟨"item", .string, false, false, .manyToAny ["null", "directus_files"]⟩,
    List.mem_cons_of_mem _ List.mem_cons_self, rfl, ?_⟩
  obtain ⟨⟨tokens, own, htokens, hown, hmembers⟩, -, hnull⟩ :=
    fieldType_composed slides .database "slides" slidesDefinition get?_build_slides
      ⟨"item", .string, false, false, .manyToAny ["null", "directus_files"]⟩
      (List.mem_cons_of_mem _ List.mem_cons_self) {}
  refine ⟨hnull.mpr (Or.inr ⟨⟨"null", false⟩, List.mem_cons_self, rfl, by decide, ?_⟩),
    tokens, own, htokens, hown, ?_⟩
  · exact ⟨⟨"null", false, false, [⟨"id", .number, false, false, .none⟩]⟩, rfl, rfl⟩
  · rw [hmembers, if_neg Bool.false_ne_true, List.append_nil]

end DataModel

end ContentTypes
