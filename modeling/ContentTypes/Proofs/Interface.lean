import ContentTypes.Declarations
import ContentTypes.Proofs.SchemaContents

/-! The lines of a declaration body without the imports that are collected beside them. The member
lines of an interface show the first primary key and every field that is none, so a field has no
line of its own exactly when it is a further primary key of its collection. -/

namespace ContentTypes

namespace Schema

/-- The type a field is written with, which does not hang on the names met before it. -/
def shownType (s : Schema) (f : FieldDefinition) : TypeExpr := (s.fieldType f {}).1

def members (s : Schema) (indent : String) (c : CollectionDefinition) : List String :=
  c.keyLines indent ++ c.plainFields.map fun f => memberLine indent f.name (s.shownType f)

/-- The lines of a collection show the first key with its own type and every other field with the
type it is written with. -/
theorem members_eq_append (s : Schema) (indent : String) (c : CollectionDefinition) :
    s.members indent c =
      c.primaryKey?.toList.map (fun f => memberLine indent f.name f.type) ++
        c.plainFields.map fun f => memberLine indent f.name (s.shownType f) := by
  unfold members CollectionDefinition.keyLines
  cases c.primaryKey? with
  | none => rfl
  | some f => rfl

def interface (s : Schema) (indent : String) (c : CollectionDefinition) : List String :=
  ("interface " ++ c.name ++ " \x7b") :: s.members indent c ++ ["\x7d"]

/-- Links are put in front one by one, so their types come in reverse order. -/
theorem shownType_eq (s : Schema) (f : FieldDefinition) :
    s.shownType f = .unionOf ((f.links.map s.linkType).reverse ++ f.type.members ++
      if f.nullable then [.null] else []) := by
  unfold shownType fieldType
  dsimp only
  rw [List.foldl_flip_cons_eq_append]
  cases f.nullable with
  | true => rfl
  | false => simp only [Bool.false_eq_true, ↓reduceIte, List.append_nil]

/-- Each line shows its own field, whatever was imported for those before it. -/
theorem memberLines_fst (s : Schema) (indent : String) (fields : List FieldDefinition)
    (imports : Imports) :
    (s.memberLines indent fields imports).1 =
      fields.map fun f => memberLine indent f.name (s.shownType f) := by
  induction fields generalizing imports with
  | nil => rfl
  | cons f rest ih =>
    simp only [memberLines, List.map_cons, ih]
    rfl

/-- The imports are collected from the links in the order of the lines. -/
theorem memberLines_snd (s : Schema) (indent : String) (fields : List FieldDefinition)
    (imports : Imports) :
    (s.memberLines indent fields imports).2 =
      (fields.flatMap (·.links)).foldl .addLink imports := by
  induction fields generalizing imports with
  | nil => rfl
  | cons f rest ih =>
    simp only [memberLines, ih, List.flatMap_cons, List.foldl_append]
    rfl

theorem interfaceLines_fst (s : Schema) (indent : String) (c : CollectionDefinition)
    (imports : Imports) : (s.interfaceLines indent c imports).1 = s.interface indent c := by
  simp only [interfaceLines, interface, members, memberLines_fst]
  simp only [List.cons_append, List.append_assoc]

theorem interfacesLines_fst (s : Schema) (indent : String) (cs : List CollectionDefinition)
    (imports : Imports) :
    (s.interfacesLines indent cs imports).1 = cs.flatMap fun c => s.interface indent c ++ [""] := by
  induction cs generalizing imports with
  | nil => rfl
  | cons c rest ih =>
    simp only [interfacesLines, ih, interfaceLines_fst, List.flatMap_cons]

theorem interfacesLines_snd (s : Schema) (indent : String) (cs : List CollectionDefinition)
    (imports : Imports) :
    (s.interfacesLines indent cs imports).2 =
      (cs.flatMap fun c => c.plainFields.flatMap (·.links)).foldl .addLink imports := by
  induction cs generalizing imports with
  | nil => rfl
  | cons c rest ih =>
    simp only [interfacesLines, interfaceLines, ih, memberLines_snd, List.flatMap_cons,
      List.foldl_append]

/-- The body lists the interfaces by identifier and then the two root interfaces. -/
theorem bodyLines_fst (s : Schema) (indent rootName : String) :
    (s.bodyLines indent rootName).1 =
      (s.entries.flatMap fun e => s.interface indent e.2 ++ [""]) ++
        rootLines indent rootName s.userEntries ++ [""] ++
        rootLines indent allCollectionsRoot s.entries := by
  simp only [bodyLines, interfacesLines_fst, List.flatMap_map]

/-- The imports of a body are collected from the links in the order of its lines. -/
theorem bodyLines_snd (s : Schema) (indent rootName : String) :
    (s.bodyLines indent rootName).2 =
      (s.entries.flatMap fun e => e.2.plainFields.flatMap (·.links)).foldl .addLink {} := by
  simp only [bodyLines, interfacesLines_snd, List.flatMap_map]

/-- The body of the file holds the interface of each collection of the schema. -/
theorem interface_infix_bodyLines (s : Schema) (indent rootName : String)
    {identifier : String} {c : CollectionDefinition} (hc : s.get? identifier = some c) :
    s.interface indent c <:+: (s.bodyLines indent rootName).1 := by
  obtain ⟨before, after, hs⟩ := List.append_of_mem ((s.get?_eq_some_iff_mem _ _).mp hc)
  rw [bodyLines_fst, hs]
  simp only [List.flatMap_append, List.flatMap_cons, List.append_assoc]
  exact ⟨_, _, List.append_assoc _ _ _⟩

theorem infix_declareBlock {lines body : List String} (h : lines <:+: body)
    (header indent : String) :
    ∃ before after, declareBlock header body indent =
      before ++ String.join (lines.map (blockLine indent)) ++ after := by
  obtain ⟨front, back, rfl⟩ := h
  refine ⟨header ++ " \x7b\n" ++ String.join (front.map (blockLine indent)),
    String.join (back.map (blockLine indent)) ++ "\x7d\n", ?_⟩
  unfold declareBlock
  simp only [List.map_append, String.join_append, String.append_assoc]

/-- The interface of a collection stands in the file. -/
theorem interface_in_render (s : Schema) (options : RenderOptions) {identifier : String}
    {c : CollectionDefinition} (hc : s.get? identifier = some c) :
    ∃ before after, s.render options = before ++
      String.join ((s.interface options.indent.unit c).map (blockLine options.indent.unit)) ++
        after := by
  have hi := s.interface_infix_bodyLines options.indent.unit options.rootName hc
  obtain ⟨before, after, hb⟩ := infix_declareBlock hi "declare global" options.indent.unit
  -- The first block stands in front; the interface is found in the second one.
  refine ⟨(s.bodyLines options.indent.unit options.rootName).2.statement ++
    declareBlock ("declare module '" ++ options.moduleName ++ "'")
      (s.bodyLines options.indent.unit options.rootName).1 options.indent.unit ++ "\n" ++ before,
    after ++ "\n" ++ "export \x7b\x7d;\n", ?_⟩
  unfold render
  simp only [hb, String.append_assoc]

end Schema

namespace CollectionDefinition

def keys (c : CollectionDefinition) : List FieldDefinition := c.fields.filter (·.primaryKey)

def shown (c : CollectionDefinition) : List FieldDefinition := c.primaryKey?.toList ++ c.plainFields

/-- The fields that follow the key are those without a flag, each of them once. -/
theorem plainFields_perm (c : CollectionDefinition) :
    c.plainFields.Perm (c.fields.filter (!·.primaryKey)) :=
  sortBy_perm _ _

theorem mem_plainFields_iff (c : CollectionDefinition) (f : FieldDefinition) :
    f ∈ c.plainFields ↔ f ∈ c.fields ∧ f.primaryKey = false := by
  rw [c.plainFields_perm.mem_iff, List.mem_filter, Bool.not_eq_true']

theorem plainFields_sorted (c : CollectionDefinition) :
    c.plainFields.Pairwise fun f g => f.name ≤ g.name := by
  have htrans : ∀ f g h : FieldDefinition, decide (f.name ≤ g.name) = true →
      decide (g.name ≤ h.name) = true → decide (f.name ≤ h.name) = true := by
    intro f g h hfg hgh
    exact decide_eq_true (String.le_trans (of_decide_eq_true hfg) (of_decide_eq_true hgh))
  have htotal : ∀ f g : FieldDefinition,
      (decide (f.name ≤ g.name) || decide (g.name ≤ f.name)) = true := by
    intro f g
    simpa using String.le_total f.name g.name
  exact (pairwise_sortBy htrans htotal _).imp of_decide_eq_true

/-- The fields that are shown and the keys after the first are all fields of the collection. -/
theorem shown_append_perm (c : CollectionDefinition) : (c.shown ++ c.keys.tail).Perm c.fields := by
  -- The key that is shown is the first of the keys, so with the others it makes up all of them.
  have hkeys : c.primaryKey?.toList ++ c.keys.tail = c.keys := by
    unfold primaryKey? keys
    rw [← List.head?_filter]
    cases c.fields.filter (·.primaryKey) <;> rfl
  calc
    List.Perm (c.shown ++ c.keys.tail)
        (c.primaryKey?.toList ++ (c.keys.tail ++ c.plainFields)) := by
      unfold shown
      rw [List.append_assoc]
      exact List.perm_append_comm.append_left _
    _ = c.keys ++ c.plainFields := by rw [← List.append_assoc, hkeys]
    List.Perm _ (c.keys ++ c.fields.filter (!·.primaryKey)) := c.plainFields_perm.append_left _
    List.Perm _ c.fields := List.filter_append_perm _ _

end CollectionDefinition

/-- Each of the fields has one of the lines, which carries its name. -/
def ShowsEach (indent : String) (fields : List FieldDefinition) (lines : List String) : Prop :=
  ∃ order : List FieldDefinition, order.Perm fields ∧
    List.Forall₂ (fun f line => ∃ type, line = memberLine indent f.name type) order lines

theorem ShowsEach.length_eq {indent : String} {fields : List FieldDefinition} {lines : List String}
    (h : ShowsEach indent fields lines) : lines.length = fields.length := by
  obtain ⟨order, hperm, hlines⟩ := h
  rw [← hlines.length_eq, hperm.length_eq]

namespace Schema

theorem showsEach_shown (s : Schema) (indent : String) (c : CollectionDefinition) :
    ShowsEach indent c.shown (s.members indent c) := by
  refine ⟨c.shown, .refl _, ?_⟩
  unfold CollectionDefinition.shown members CollectionDefinition.keyLines
  apply List.rel_append
  · cases c.primaryKey? with
    | none => exact .nil
    | some f => exact .cons ⟨f.type, rfl⟩ .nil
  · rw [List.forall₂_map_right_iff]
    exact List.forall₂_same.mpr fun f _ => ⟨s.shownType f, rfl⟩

/-- The member lines miss exactly the keys after the first. -/
theorem length_members_add (s : Schema) (indent : String) (c : CollectionDefinition) :
    (s.members indent c).length + c.keys.tail.length = c.fields.length := by
  rw [(s.showsEach_shown indent c).length_eq, ← List.length_append]
  exact c.shown_append_perm.length_eq

/-- Fields and lines are equally many exactly when there is at most one key. -/
theorem length_members_iff (s : Schema) (indent : String) (c : CollectionDefinition) :
    (s.members indent c).length = c.fields.length ↔ c.keys.length ≤ 1 := by
  have h := s.length_members_add indent c
  rw [List.length_tail] at h
  omega

/-- Each field has its line exactly when there is at most one key. -/
theorem showsEach_fields_iff (s : Schema) (indent : String) (c : CollectionDefinition) :
    ShowsEach indent c.fields (s.members indent c) ↔ c.keys.length ≤ 1 := by
  constructor
  · intro h
    exact (s.length_members_iff indent c).mp h.length_eq
  · intro h
    obtain ⟨order, hperm, hlines⟩ := s.showsEach_shown indent c
    -- No key comes after the first, so the fields that are shown are all fields.
    have htail : c.keys.tail = [] := by
      apply List.length_eq_zero_iff.mp
      rw [List.length_tail]
      omega
    have hshown := c.shown_append_perm
    rw [htail, List.append_nil] at hshown
    exact ⟨order, hperm.trans hshown, hlines⟩

end Schema

namespace DataModel

/-- A collection of the schema has as many keys as it has records that are resolvable keys. -/
theorem length_keys (m : DataModel) {naming : Naming} {identifier : String}
    {c : CollectionDefinition} (hc : (m.build naming).schema.get? identifier = some c) :
    c.keys.length = ((m.resolvableOf identifier).filter (·.isPrimaryKey)).length := by
  obtain ⟨r, hr, hd, -⟩ := (m.get?_build_eq_some_iff naming identifier c).mp hc
  -- Records and definitions correspond in order, and the flag is copied from one to the other.
  have h := ((m.describes_iff naming identifier c).mpr ⟨r, hr, hd⟩).fields
  refine (List.Forall₂.length_eq (List.rel_filter ?_ h)).symm
  intro f d hfd
  change f.isPrimaryKey = true ↔ d.primaryKey = true
  rw [hfd.primaryKey]

/-- The member lines of a collection, which the file writes between the opening and the closing
line of its interface, miss one field for every resolvable primary key after the first. So they show
each field exactly when the collection has at most one such record. -/
theorem members_show_fields_iff (m : DataModel) (naming : Naming) (options : RenderOptions)
    (identifier : String) (c : CollectionDefinition)
    (hc : (m.build naming).schema.get? identifier = some c) :
    (∀ imports, ((m.build naming).schema.interfaceLines options.indent.unit c imports).1 =
      ("interface " ++ c.name ++ " \x7b") ::
        (m.build naming).schema.members options.indent.unit c ++ ["\x7d"]) ∧
    (∃ before after, (m.build naming).schema.render options = before ++
      String.join (((m.build naming).schema.interface options.indent.unit c).map
        (blockLine options.indent.unit)) ++ after) ∧
    ((m.build naming).schema.members options.indent.unit c).length +
      (((m.resolvableOf identifier).filter (·.isPrimaryKey)).length - 1) = c.fields.length ∧
    (((m.build naming).schema.members options.indent.unit c).length = c.fields.length ↔
      ((m.resolvableOf identifier).filter (·.isPrimaryKey)).length ≤ 1) ∧
    (ShowsEach options.indent.unit c.fields
        ((m.build naming).schema.members options.indent.unit c) ↔
      ((m.resolvableOf identifier).filter (·.isPrimaryKey)).length ≤ 1) := by
  rw [← m.length_keys hc]
  refine ⟨?_, ?_, ?_, ?_, ?_⟩
  · intro imports
    rw [Schema.interfaceLines_fst]
    rfl
  · exact Schema.interface_in_render _ options hc
  · rw [← List.length_tail]
    exact Schema.length_members_add _ _ _
  · exact Schema.length_members_iff _ _ _
  · exact Schema.showsEach_fields_iff _ _ _

def compositeKey : DataModel where
  collections := [{ collection := "posts_tags" }]
  fields :=
    [({ collection := "posts_tags", field := "post", kind := "integer" } : Field).primaryKey,
      ({ collection := "posts_tags", field := "tag", kind := "integer" } : Field).primaryKey]

def compositeKeyDefinition : CollectionDefinition where
  name := "posts_tags"
  system := false
  singleton := false
  fields := [⟨"post", .number, false, true, .none⟩, ⟨"tag", .number, false, true, .none⟩]

theorem get?_build_compositeKey :
    (compositeKey.build .database).schema.get? "posts_tags" = some compositeKeyDefinition := rfl

/-- The second column of a key has no line. -/
theorem members_show_fields_composite_key :
    (compositeKey.build .database).schema.get? "posts_tags" = some compositeKeyDefinition ∧
    (((compositeKey.build .database).schema.members (Indent.unit {})
        compositeKeyDefinition).length = compositeKeyDefinition.fields.length ↔
      ((compositeKey.resolvableOf "posts_tags").filter (·.isPrimaryKey)).length ≤ 1) :=
  ⟨get?_build_compositeKey, (members_show_fields_iff compositeKey .database {} "posts_tags"
    compositeKeyDefinition get?_build_compositeKey).2.2.2.1⟩

/-- A key of two columns has one member line, so a field of it is lost. -/
theorem composite_key_field_lost :
    ¬∀ (m : DataModel) (naming : Naming) (options : RenderOptions) (identifier : String)
      (c : CollectionDefinition), (m.build naming).schema.get? identifier = some c →
        ((m.build naming).schema.members options.indent.unit c).length = c.fields.length ∧
        ShowsEach options.indent.unit c.fields
          ((m.build naming).schema.members options.indent.unit c) := by
  intro h
  have hl := (h compositeKey .database {} "posts_tags" compositeKeyDefinition
    get?_build_compositeKey).1
  rw [Schema.length_members_iff] at hl
  exact absurd hl (by decide)

end DataModel

end ContentTypes
