import ContentTypes.Proofs.FieldShapes
import ContentTypes.Proofs.ImportedNames

/-! What the links of a declaration file refer to. The file declares one body twice. A link in it is
written with an imported name, with the name of an interface of the same body, or with the empty
name where its target has no place in the schema; the root interfaces name declared interfaces
only. -/

namespace ContentTypes

namespace Schema

/-- What a link to a collection is written with, given the lines of a body: the type of a system
collection with a name of the import line, the name on the opening line of an interface of the body,
or nothing for a collection that is not in the schema. -/
inductive Refers (s : Schema) (imported : List String) (indent : String) (body : List String) :
    String → String → Prop
  | imported {target name : String} (hs : isSystem target = true)
      (hn : name = systemTypeName target) (hi : name ∈ imported) :
      Refers s imported indent body target (name ++ "<AllDirectusCollections>")
  | declared {target : String} {d : CollectionDefinition} (hs : isSystem target = false)
      (hd : s.get? target = some d)
      (hi : (("interface " ++ d.name ++ " \x7b") :: s.members indent d ++ ["\x7d"]) <:+: body) :
      Refers s imported indent body target d.name
  | dangling {target : String} (hs : isSystem target = false) (hn : s.get? target = none) :
      Refers s imported indent body target ""

/-- A link to one row is written with the token that its target refers by. -/
theorem exists_refers (s : Schema) (options : RenderOptions) {identifier : String}
    {c : CollectionDefinition} (hc : s.get? identifier = some c) {f : FieldDefinition}
    (hf : f ∈ c.fields) (hk : f.primaryKey = false) {link : Link} (hl : link ∈ f.links)
    (hm : link.multiple = false) :
    ∃ token, s.linkType link = .named token ∧
      s.Refers (s.importedNames options) options.indent.unit
        (s.bodyLines options.indent.unit options.rootName).1 link.collection token := by
  have htype : s.linkType link = s.linkTarget link.collection := by
    unfold linkType
    rw [hm]
    rfl
  rw [htype]
  unfold linkTarget
  cases hs : isSystem link.collection with
  | true =>
    have himported : systemTypeName link.collection ∈ s.importedNames options := by
      apply (s.mem_importedNames_iff options _).mpr
      exact ⟨_, ⟨identifier, c, f, link, hc, hf, hk, hl, rfl⟩, hs, rfl⟩
    have htoken : systemTypeName link.collection ++ "<" ++ allCollectionsRoot ++ ">" =
        systemTypeName link.collection ++ "<AllDirectusCollections>" := by
      rw [String.append_assoc, String.append_assoc]
      rfl
    rw [htoken]
    exact ⟨_, rfl, .imported hs rfl himported⟩
  | false =>
    cases hd : s.get? link.collection with
    | none => exact ⟨"", rfl, .dangling hs hd⟩
    | some d =>
      have hdeclared := s.interface_infix_bodyLines options.indent.unit options.rootName hd
      exact ⟨d.name, rfl, .declared hs hd hdeclared⟩

/-- Links that are each written with a token are written with a list of tokens. -/
theorem exists_tokens (s : Schema) {R : String → String → Prop} {links : List Link}
    (h : ∀ link ∈ links, ∃ token, s.linkType link = .named token ∧ R link.collection token) :
    ∃ tokens : List String, links.map s.linkType = tokens.map TypeExpr.named ∧
      List.Forall₂ (fun link token => R link.collection token) links tokens := by
  induction links with
  | nil => exact ⟨[], rfl, .nil⟩
  | cons link rest ih =>
    obtain ⟨token, htype, htoken⟩ := h link List.mem_cons_self
    obtain ⟨tokens, htypes, htokens⟩ := ih fun l hl => h l (List.mem_cons_of_mem link hl)
    refine ⟨token :: tokens, ?_, .cons htoken htokens⟩
    rw [List.map_cons, List.map_cons, htype, htypes]

/-- A field that is no key has its line with its shown type. -/
theorem line_mem_members (s : Schema) (indent : String) {c : CollectionDefinition}
    {f : FieldDefinition} (hf : f ∈ c.fields) (hk : f.primaryKey = false) :
    memberLine indent f.name (s.shownType f) ∈ s.members indent c := by
  have hplain : f ∈ c.plainFields := (c.mem_plainFields_iff f).mpr ⟨hf, hk⟩
  unfold members
  exact List.mem_append_right _ (List.mem_map.mpr ⟨f, hplain, rfl⟩)

theorem rootEntry_eq (indent identifier : String) (c : CollectionDefinition) :
    rootEntry indent identifier c = indent ++ identifier ++ ": " ++
      c.name ++ (if c.singleton then "" else "[]") ++ ";" := by
  unfold rootEntry memberLine TypeExpr.arrayIf
  cases c.singleton with
  | true => simp [TypeExpr.text]
  | false => simp [TypeExpr.text, TypeExpr.needsParentheses, String.append_assoc]

theorem mem_identifiers_iff (s : Schema) (identifier : String) :
    identifier ∈ s.identifiers ↔ (s.get? identifier).isSome = true := by
  unfold identifiers
  rw [List.mem_map, Option.isSome_iff_exists]
  constructor
  · rintro ⟨⟨_, c⟩, he, rfl⟩
    exact ⟨c, (s.get?_eq_some_iff_mem _ c).mpr he⟩
  · rintro ⟨c, hc⟩
    exact ⟨(identifier, c), (s.get?_eq_some_iff_mem _ c).mp hc, rfl⟩

/-- Identifiers ascend. -/
theorem pairwise_identifiers (s : Schema) : s.identifiers.Pairwise (· < ·) :=
  List.pairwise_map.mpr s.ascending

/-- The file is its import line and two blocks of one body, which is made of the interfaces and of
two root interfaces. -/
theorem render_eq_blocks (s : Schema) (options : RenderOptions) :
    s.render options =
      (if s.importedNames options = [] then ""
        else "import \x7b " ++ ", ".intercalate (s.importedNames options) ++
          " \x7d from '@directus/sdk';\n\n") ++
      declareBlock ("declare module '" ++ options.moduleName ++ "'")
        (s.bodyLines options.indent.unit options.rootName).1 options.indent.unit ++ "\n" ++
      declareBlock "declare global" (s.bodyLines options.indent.unit options.rootName).1
        options.indent.unit ++ "\n" ++ "export \x7b\x7d;\n" := by
  have hi : (s.bodyLines options.indent.unit options.rootName).2.statement =
      if s.importedNames options = [] then "" else "import \x7b " ++
        ", ".intercalate (s.importedNames options) ++ " \x7d from '@directus/sdk';\n\n" :=
    statement_eq _
  rw [← hi]
  rfl

end Schema

namespace DataModel

/-- No collection record names the identifier, or none of its field records has a place. -/
def Lacks (m : DataModel) (identifier : String) : Prop :=
  (∀ r ∈ m.collections, r.collection ≠ identifier) ∨
    ∀ f ∈ m.fields, f.collection = identifier → ¬f.Resolvable m.relations

/-- A collection has no definitions exactly when none of its records has a place. -/
theorem definitionsOf_eq_nil_iff (m : DataModel) (identifier : String) :
    m.definitionsOf identifier = [] ↔
      ∀ f ∈ m.fields, f.collection = identifier → ¬f.Resolvable m.relations := by
  have hlength := ((m.forall₂_definitionsOf_iff identifier _).mpr rfl).length_eq
  have hnil : m.definitionsOf identifier = [] ↔ m.resolvableOf identifier = [] := by
    rw [← List.length_eq_zero_iff, ← hlength, List.length_eq_zero_iff]
  rw [hnil]
  unfold resolvableOf
  simp only [List.filter_eq_nil_iff, decide_eq_true_eq, not_and]

/-- An identifier is not in the schema exactly when it was never listed or has no field with a
place. -/
theorem get?_build_eq_none_iff (m : DataModel) (naming : Naming) (identifier : String) :
    (m.build naming).schema.get? identifier = none ↔ m.Lacks identifier := by
  have hsome := m.get?_build_eq_some_iff naming identifier
  have hlisted := exists_firstWith_iff (fun r : Collection => r.collection = identifier)
    m.collections
  unfold Lacks
  rw [← definitionsOf_eq_nil_iff]
  constructor
  · intro hn
    by_cases hl : ∃ r ∈ m.collections, r.collection = identifier
    · obtain ⟨r, hr⟩ := hlisted.mpr hl
      have hid : r.collection = identifier := hr.holds
      refine Or.inr ?_
      by_contra hfields
      have hd : (m.build naming).schema.get? identifier = some (m.define naming r) := by
        apply (hsome _).mpr
        exact ⟨r, hr, rfl, by rw [← hid] at hfields; exact hfields⟩
      rw [hn] at hd
      cases hd
    · exact Or.inl fun r hr hid => hl ⟨r, hr, hid⟩
  · intro hlacks
    by_contra hn
    obtain ⟨d, hd⟩ := Option.ne_none_iff_exists'.mp hn
    obtain ⟨r, hr, rfl, hfields⟩ := (hsome d).mp hd
    have hid : r.collection = identifier := hr.holds
    rcases hlacks with hunlisted | hempty
    · obtain ⟨r', hr', hid'⟩ := hlisted.mp ⟨r, hr⟩
      exact hunlisted r' hr' hid'
    · rw [← hid] at hempty
      exact hfields hempty

/-- A collection is flagged as one of the platform exactly by its identifier. -/
theorem system_of_get?_build (m : DataModel) {naming : Naming} {identifier : String}
    {c : CollectionDefinition} (hc : (m.build naming).schema.get? identifier = some c) :
    c.system = isSystem identifier := by
  obtain ⟨r, hr, rfl, -⟩ := (m.get?_build_eq_some_iff naming identifier c).mp hc
  have hid : r.collection = identifier := hr.holds
  simp only [define, hid]

/-- The user root goes by identifiers, which is going by the flags of the collections. -/
theorem userEntries_build (m : DataModel) (naming : Naming) :
    (m.build naming).schema.userEntries =
      (m.build naming).schema.entries.filter fun e => !e.2.system := by
  unfold Schema.userEntries
  apply List.filter_congr
  intro e he
  have hc := (Schema.get?_eq_some_iff_mem _ e.1 e.2).mpr he
  rw [m.system_of_get?_build hc]

def reviews : DataModel where
  collections := [{ collection := "reviews" }, { collection := "books" },
    { collection := "shelves" }]
  fields :=
    [{ collection := "reviews", field := "item", kind := "string" },
      { collection := "books", field := "title", kind := "string" },
      { collection := "shelves", field := "photo", kind := "binary" }]
  relations :=
    [({ collection := "reviews", field := "item" } : Relation).withAllowedCollections
      ["directus_users", "books", "shelves", "places"]]

def reviewedItem : FieldDefinition :=
  ⟨"item", .string, false, false, .manyToAny ["directus_users", "books", "shelves", "places"]⟩

def reviewsDefinition : CollectionDefinition where
  name := "Reviews"
  system := false
  singleton := false
  fields := [reviewedItem]

example : ((reviews.build .pascalCase).schema.shownType reviewedItem).text =
    " |  | Books | DirectusUsers<AllDirectusCollections> | string" := by
  decide +kernel

end DataModel

end ContentTypes
