import ContentTypes.Proofs.Discriminators
import ContentTypes.Proofs.Unions

/-! The type texts behind the names of an interface. A text is made of the alternatives of its type,
and an alternative has a text of its own wherever links lead to something with a name. What can be
missing are the alternatives themselves: a discriminator that may choose from no collection has no
literals. -/

namespace ContentTypes

namespace FieldDefinition

/-- The alternatives of a field's own type: a name, an array of a name, or one of its literals. -/
theorem Regular.member_cases {d : FieldDefinition} (h : d.Regular) {a : TypeExpr}
    (ha : a ∈ d.type.members) :
    (∃ name ∈ ["number", "boolean", "string", "unknown"], a = .named name) ∨
      (∃ name ∈ ["string", "unknown"], a = .array (.named name)) ∨
      ∃ values, d.type = .literals values ∧ ∃ value ∈ values, a = .literals [value] := by
  rcases h.type_forms with ⟨name, hname, ht⟩ | ⟨name, hname, ht⟩ | ⟨values, ht⟩
  · rw [ht] at ha
    exact Or.inl ⟨name, hname, List.mem_singleton.mp ha⟩
  · rw [ht] at ha
    exact Or.inr (Or.inl ⟨name, hname, List.mem_singleton.mp ha⟩)
  · rw [ht] at ha
    obtain ⟨value, hvalue, rfl⟩ := List.mem_map.mp ha
    exact Or.inr (Or.inr ⟨values, ht, value, hvalue, rfl⟩)

/-- The alternatives of a field's own type each have a text. -/
theorem Regular.alternatives {d : FieldDefinition} (h : d.Regular) :
    ∀ a ∈ d.type.members, a.Single ∧ a.text ≠ "" := by
  have hnames : ∀ name ∈ ["number", "boolean", "string", "unknown"], name ≠ "" := by decide
  intro a ha
  rcases h.member_cases ha with ⟨name, hname, rfl⟩ | ⟨name, -, rfl⟩ | ⟨-, -, value, -, rfl⟩
  · exact ⟨TypeExpr.single_named name, hnames name hname⟩
  · exact ⟨TypeExpr.single_array _, TypeExpr.text_array_ne_empty _⟩
  · exact ⟨TypeExpr.single_literal value, TypeExpr.text_literal_ne_empty value⟩

/-- Only an empty set of literals has no alternatives. -/
theorem Regular.members_eq_nil_iff {d : FieldDefinition} (h : d.Regular) :
    d.type.members = [] ↔ d.type = .literals [] := by
  rcases h.type_forms with ⟨name, -, ht⟩ | ⟨name, -, ht⟩ | ⟨values, ht⟩
  · rw [ht]
    simp [TypeExpr.members]
  · rw [ht]
    simp [TypeExpr.members]
  · rw [ht]
    simp [TypeExpr.members]

/-- The own type of a field has no text only for an empty set of literals. -/
theorem Regular.text_type_eq_empty_iff {d : FieldDefinition} (h : d.Regular) :
    d.type.text = "" ↔ d.type = .literals [] := by
  rw [TypeExpr.text_eq_empty_iff fun a ha => (h.alternatives a ha).2, h.members_eq_nil_iff]

end FieldDefinition

namespace Schema

/-- Every link of a field leads to a system collection, or to a collection of the schema that has a
name. -/
def NamesTargets (s : Schema) : Prop :=
  ∀ identifier c, s.get? identifier = some c → ∀ d ∈ c.fields, ∀ link ∈ d.links,
    isSystem link.collection = true ∨ ∃ e, s.get? link.collection = some e ∧ e.name ≠ ""

section

variable (s : Schema)

theorem single_linkType (link : Link) : (s.linkType link).Single := by
  obtain ⟨name, hname⟩ := s.linkTarget_eq_named link.collection
  unfold linkType
  rw [hname]
  exact TypeExpr.single_arrayIf (TypeExpr.single_named name) link.multiple

theorem text_linkType_ne_empty {link : Link} (h : isSystem link.collection = true ∨
    ∃ e, s.get? link.collection = some e ∧ e.name ≠ "") : (s.linkType link).text ≠ "" := by
  have htarget : ∃ name, s.linkTarget link.collection = .named name ∧ name ≠ "" := by
    unfold linkTarget
    cases hs : isSystem link.collection with
    | true => exact ⟨_, rfl, by simp [allCollectionsRoot]⟩
    | false =>
      rw [hs] at h
      obtain ⟨e, he, hname⟩ := h.resolve_left (by decide)
      rw [he]
      exact ⟨e.name, rfl, hname⟩
  obtain ⟨name, htype, hname⟩ := htarget
  unfold linkType TypeExpr.arrayIf
  rw [htype]
  split
  · exact TypeExpr.text_array_ne_empty _
  · exact hname

/-- The alternatives that a field is shown with: its links from the last to the first, those of its
own type, and `null`. -/
def alternatives (d : FieldDefinition) : List TypeExpr :=
  (d.links.map s.linkType).reverse ++ d.type.members ++ if d.nullable then [.null] else []

theorem alternatives_cases {d : FieldDefinition} {a : TypeExpr} (ha : a ∈ s.alternatives d) :
    (∃ link ∈ d.links, a = s.linkType link) ∨ a ∈ d.type.members ∨ a = .null := by
  unfold alternatives at ha
  rcases List.mem_append.mp ha with ha | ha
  · rcases List.mem_append.mp ha with ha | ha
    · obtain ⟨link, hl, rfl⟩ := List.mem_map.mp (List.mem_reverse.mp ha)
      exact Or.inl ⟨link, hl, rfl⟩
    · exact Or.inr (Or.inl ha)
  · split at ha
    · exact Or.inr (Or.inr (List.mem_singleton.mp ha))
    · cases ha

theorem single_alternatives {d : FieldDefinition} (h : d.Regular) :
    ∀ a ∈ s.alternatives d, a.Single := by
  intro a ha
  rcases s.alternatives_cases ha with ⟨link, -, rfl⟩ | ha | rfl
  · exact s.single_linkType link
  · exact (h.alternatives a ha).1
  · exact TypeExpr.single_named _

/-- A shown type is made of the alternatives. -/
theorem members_shownType {d : FieldDefinition} (h : d.Regular) :
    (s.shownType d).members = s.alternatives d := by
  rw [shownType_eq]
  exact TypeExpr.members_unionOf (s.single_alternatives h)

theorem text_ne_empty_of_mem_alternatives {d : FieldDefinition} (h : d.Regular)
    (hlinks : ∀ link ∈ d.links, isSystem link.collection = true ∨
      ∃ e, s.get? link.collection = some e ∧ e.name ≠ "") :
    ∀ a ∈ s.alternatives d, a.text ≠ "" := by
  intro a ha
  rcases s.alternatives_cases ha with ⟨link, hl, rfl⟩ | ha | rfl
  · exact s.text_linkType_ne_empty (hlinks link hl)
  · exact (h.alternatives a ha).2
  · decide

/-- Nothing is shown exactly for a set without literals that has no links and is not nullable. -/
theorem alternatives_eq_nil_iff {d : FieldDefinition} (h : d.Regular) :
    s.alternatives d = [] ↔ d.type = .literals [] ∧ d.links = [] ∧ d.nullable = false := by
  unfold alternatives
  rw [List.append_eq_nil_iff, List.append_eq_nil_iff, List.reverse_eq_nil_iff, List.map_eq_nil_iff,
    h.members_eq_nil_iff]
  cases d.nullable with
  | true => simp
  | false => simp [and_comm]

end

end Schema

namespace DataModel

/-- Where links lead to something with a name, no alternative of a type in an interface is without a
text. A whole type is without one exactly for a discriminator that may choose from no collection:
always when it is the primary key, and otherwise when it has no links and is not nullable. -/
theorem shown_types_empty_iff (m : DataModel) (naming : Naming) (options : RenderOptions)
    (identifier : String) (c : CollectionDefinition)
    (hc : (m.build naming).schema.get? identifier = some c)
    (hnames : (m.build naming).schema.NamesTargets) :
    (∃ before after, (m.build naming).schema.render options = before ++
      String.join ((("interface " ++ c.name ++ " \x7b") ::
        c.primaryKey?.toList.map (fun d => memberLine options.indent.unit d.name d.type) ++
        c.plainFields.map (fun d => memberLine options.indent.unit d.name
          ((m.build naming).schema.shownType d)) ++ ["\x7d"]).map
            (blockLine options.indent.unit)) ++ after) ∧
    (∀ type : TypeExpr, type.text = " | ".intercalate (type.members.map TypeExpr.text)) ∧
    (∀ d ∈ c.primaryKey?, (∀ a ∈ d.type.members, a.text ≠ "") ∧
      (d.type.text = "" ↔ d.type = .literals [])) ∧
    (∀ d ∈ c.plainFields, (∀ a ∈ ((m.build naming).schema.shownType d).members, a.text ≠ "") ∧
      (((m.build naming).schema.shownType d).text = "" ↔
        d.type = .literals [] ∧ d.links = [] ∧ d.nullable = false)) ∧
    ∀ d ∈ c.fields, d.type = .literals [] ↔
      d.name = "collection" ∧ ∃ r, m.PairedBy identifier r ∧ r.Allows [] := by
  have hregular : ∀ d ∈ c.fields, d.Regular := fun d hd => m.regular_of_mem_fields hc hd
  refine ⟨?_, TypeExpr.text_eq_intercalate_members, ?_, ?_, ?_⟩
  · have hlines : (m.build naming).schema.interface options.indent.unit c =
        ("interface " ++ c.name ++ " \x7b") ::
          c.primaryKey?.toList.map (fun d => memberLine options.indent.unit d.name d.type) ++
          c.plainFields.map (fun d => memberLine options.indent.unit d.name
            ((m.build naming).schema.shownType d)) ++ ["\x7d"] := by
      unfold Schema.interface
      rw [Schema.members_eq_append]
      rfl
    rw [← hlines]
    exact Schema.interface_in_render _ options hc
  · intro d hd
    have hr := hregular d (List.mem_of_find?_eq_some hd)
    exact ⟨fun a ha => (hr.alternatives a ha).2, hr.text_type_eq_empty_iff⟩
  · intro d hd
    have hmem := ((CollectionDefinition.mem_plainFields_iff c d).mp hd).1
    have hr := hregular d hmem
    have htexts := Schema.text_ne_empty_of_mem_alternatives _ hr (hnames identifier c hc d hmem)
    rw [← Schema.members_shownType _ hr] at htexts
    refine ⟨htexts, ?_⟩
    rw [TypeExpr.text_eq_empty_iff htexts, Schema.members_shownType _ hr]
    exact Schema.alternatives_eq_nil_iff _ hr
  · intro d hd
    exact literals_iff_of_mem_fields hc hd []

def cards : DataModel where
  collections := [{ collection := "cards" }]
  fields :=
    [({ collection := "cards", field := "id", kind := "integer" } : Field).primaryKey,
      { collection := "cards", field := "collection", kind := "string" },
      { collection := "cards", field := "item", kind := "string" },
      ({ collection := "cards", field := "parent", kind := "integer" } : Field).nullable,
      { collection := "cards", field := "owner", kind := "uuid" }]
  relations :=
    [({ collection := "cards", field := "item" } : Relation).withAllowedCollections [],
      Relation.manyToOne "cards" "parent" "cards",
      Relation.manyToOne "cards" "owner" "directus_users"]

def cardsDefinition : CollectionDefinition where
  name := "cards"
  system := false
  singleton := false
  fields :=
    [⟨"id", .number, false, true, .none⟩,
      ⟨"collection", .literals [], false, false, .none⟩,
      ⟨"item", .string, false, false, .manyToAny []⟩,
      ⟨"parent", .number, true, false, .manyToOne "cards"⟩,
      ⟨"owner", .string, false, false, .manyToOne "directus_users"⟩]

theorem entries_build_cards :
    (cards.build .database).schema.entries = [("cards", cardsDefinition)] := rfl

theorem get?_build_cards :
    (cards.build .database).schema.get? "cards" = some cardsDefinition := rfl

theorem namesTargets_cards : (cards.build .database).schema.NamesTargets := by
  intro identifier c hc d hd link hlink
  have hentry := (Schema.get?_eq_some_iff_mem _ identifier c).mp hc
  rw [entries_build_cards] at hentry
  obtain ⟨-, rfl⟩ := Prod.mk.inj (List.mem_singleton.mp hentry)
  simp only [cardsDefinition, List.mem_cons, List.not_mem_nil, or_false] at hd
  -- Only the last two fields have links, one within the schema and one to a system collection.
  rcases hd with rfl | rfl | rfl | rfl | rfl
  · cases hlink
  · cases hlink
  · cases hlink
  · obtain rfl := List.mem_singleton.mp hlink
    exact Or.inr ⟨cardsDefinition, get?_build_cards, by decide⟩
  · obtain rfl := List.mem_singleton.mp hlink
    exact Or.inl (by decide)

/-- The discriminator of cards about nothing is shown without a type. -/
theorem shown_types_empty_cards :
    (cards.build .database).schema.get? "cards" = some cardsDefinition ∧
    (cards.build .database).schema.NamesTargets ∧
    ∀ d ∈ cardsDefinition.plainFields, ((cards.build .database).schema.shownType d).text = "" ↔
      d.type = .literals [] ∧ d.links = [] ∧ d.nullable = false := by
  have h := shown_types_empty_iff cards .database {} "cards" cardsDefinition get?_build_cards
    namesTargets_cards
  exact ⟨get?_build_cards, namesTargets_cards, fun d hd => (h.2.2.2.1 d hd).2⟩

/-- The column of a discriminator without a choice is declared without a type. -/
theorem discriminator_without_type :
    ¬∀ (m : DataModel) (naming : Naming) (identifier : String) (c : CollectionDefinition),
      (m.build naming).schema.get? identifier = some c →
      (m.build naming).schema.NamesTargets →
        ∀ d ∈ c.plainFields, ((m.build naming).schema.shownType d).text ≠ "" := by
  intro h
  have hcards := h cards .database "cards" cardsDefinition get?_build_cards namesTargets_cards
  apply hcards ⟨"collection", .literals [], false, false, .none⟩
  · apply (CollectionDefinition.mem_plainFields_iff _ _).mpr
    exact ⟨List.mem_cons_of_mem _ List.mem_cons_self, rfl⟩
  · rfl

end DataModel

end ContentTypes
