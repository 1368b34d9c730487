import ContentTypes.Proofs.LiteralReading
import ContentTypes.Proofs.ShownTypes

/-! The quoted parts of a declaration file: the name of the module, and the literals of
discriminators. They are written as they are, so a reader of the file gets them back exactly when
nothing in them has a meaning of its own between quotes. -/

namespace ContentTypes

/-! ### The line of a discriminator -/

theorem intercalate_append_eq_join (s : String) (xs : List String) {ys : List String}
    (hne : ys ≠ []) : s.intercalate (xs ++ ys) =
      String.join (xs.map (· ++ s)) ++ s.intercalate ys := by
  induction xs with
  | nil => simp
  | cons x rest ih =>
    have hrest : rest ++ ys ≠ [] := List.append_ne_nil_of_right_ne_nil rest hne
    rw [List.cons_append, ← List.singleton_append,
      String.intercalate_append_of_ne_nil (List.cons_ne_nil x []) hrest,
      String.intercalate_singleton, ih, List.map_cons, String.join_cons]
    simp only [String.append_assoc]

theorem CollectionDefinition.mem_fields_of_mem_shown (c : CollectionDefinition)
    {d : FieldDefinition} (h : d ∈ c.shown) : d ∈ c.fields := by
  rcases List.mem_append.mp h with hkey | hplain
  · exact List.mem_of_find?_eq_some (Option.mem_toList.mp hkey)
  · exact ((c.mem_plainFields_iff d).mp hplain).1

namespace Schema

def linksText (s : Schema) (d : FieldDefinition) : String :=
  String.join ((d.links.map s.linkType).reverse.map fun t => t.text ++ " | ")

/-- The line of a field up to the field's own type. A key is shown without links. -/
def lineStart (s : Schema) (indent : String) (d : FieldDefinition) : String :=
  indent ++ d.name ++ ": " ++ if d.primaryKey then "" else s.linksText d

def lineEnd (d : FieldDefinition) : String :=
  if d.nullable && !d.primaryKey then " | null;" else ";"

/-- A shown type is its links, the own type of the field, and `null` for a nullable one. -/
theorem text_shownType (s : Schema) {d : FieldDefinition} (h : d.Regular)
    (hne : d.type.members ≠ []) :
    (s.shownType d).text ++ ";" =
      s.linksText d ++ d.type.text ++ if d.nullable then " | null;" else ";" := by
  have hown : d.type.members.map TypeExpr.text ≠ [] := mt List.map_eq_nil_iff.mp hne
  have hlinks : (d.links.map s.linkType).reverse.map (fun t => t.text ++ " | ") =
      ((d.links.map s.linkType).reverse.map TypeExpr.text).map (· ++ " | ") := by
    rw [List.map_map]
    rfl
  rw [TypeExpr.text_eq_intercalate_members, s.members_shownType h, alternatives,
    TypeExpr.text_eq_intercalate_members d.type, List.map_append, List.map_append,
    List.append_assoc, intercalate_append_eq_join _ _ (List.append_ne_nil_of_left_ne_nil hown _),
    linksText, hlinks, String.append_assoc, String.append_assoc, String.append_right_inj]
  cases d.nullable with
  | true =>
    have hnull : [TypeExpr.null].map TypeExpr.text ≠ [] := List.cons_ne_nil _ _
    rw [if_pos rfl, if_pos rfl, String.intercalate_append_of_ne_nil hown hnull, List.map_singleton,
      String.intercalate_singleton, String.append_assoc, String.append_assoc]
    rfl
  | false =>
    rw [if_neg Bool.false_ne_true, if_neg Bool.false_ne_true, List.map_nil, List.append_nil]

/-- A field with alternatives of its own that is shown has a line with its own type in it. -/
theorem line_mem_interface (s : Schema) (indent : String) {c : CollectionDefinition}
    {d : FieldDefinition} (hshown : d ∈ c.shown) (h : d.Regular) (hne : d.type.members ≠ []) :
    s.lineStart indent d ++ d.type.text ++ lineEnd d ∈ s.interface indent c := by
  have hmember : s.lineStart indent d ++ d.type.text ++ lineEnd d ∈ s.members indent c := by
    rw [members_eq_append]
    rcases List.mem_append.mp hshown with hkey | hplain
    · have hprimary : d.primaryKey = true := List.find?_some (Option.mem_toList.mp hkey)
      apply List.mem_append_left
      apply List.mem_map.mpr
      refine ⟨d, hkey, ?_⟩
      simp [lineStart, lineEnd, hprimary, memberLine]
    · have hprimary := ((c.mem_plainFields_iff d).mp hplain).2
      apply List.mem_append_right
      apply List.mem_map.mpr
      refine ⟨d, hplain, ?_⟩
      rw [memberLine, String.append_assoc, s.text_shownType h hne]
      simp [lineStart, lineEnd, hprimary, String.append_assoc]
  unfold interface
  simp [hmember]

theorem lineEnd_not_prefix (d : FieldDefinition) {after : List Char}
    (h : (lineEnd d).toList <+: after) : ¬" | '".toList <+: after := by
  intro hbar
  unfold lineEnd at h
  split at h
  · have hprefix := List.prefix_of_prefix_length_le hbar h (by decide)
    exact absurd hprefix (by decide)
  · have hprefix := List.prefix_of_prefix_length_le h hbar (by decide)
    exact absurd hprefix (by decide)

end Schema

namespace TypeExpr

/-- Literals are written in quotes, as they are, with bars between them. -/
theorem toList_text_literals (values : List String) :
    (literals values).text.toList = StringLiteral.quoteAll (values.map String.toList) := by
  have hquote : (values.map fun value => (literalText value).toList) =
      (values.map String.toList).map StringLiteral.quote := by
    rw [List.map_map]
    exact List.map_congr_left fun value _ => toList_literalText value
  rw [toList_text_literals_eq_intercalate, hquote]
  rfl

end TypeExpr

/-- Literals denote themselves exactly when none of them has a quote, a backslash or a line break.
-/
theorem StringLiteral.readLiterals_text_iff {values : List String} (hne : values ≠ [])
    {after : List Char} (hafter : ¬" | '".toList <+: after) :
    readLiterals ((TypeExpr.literals values).text.toList ++ after) =
        some (values.map (units ·.toList), after) ↔
      ∀ value ∈ values, IsPlain value.toList := by
  have hread := readLiterals_quoteAll_iff (values.map String.toList)
    (mt List.map_eq_nil_iff.mp hne) hafter
  rw [List.map_map, List.forall_mem_map] at hread
  rw [TypeExpr.toList_text_literals]
  exact hread

namespace Schema

/-- The module name stands in quotes behind the imports. -/
theorem header_in_render (s : Schema) (options : RenderOptions) : ∃ after, s.render options =
    (s.bodyLines options.indent.unit options.rootName).2.statement ++ "declare module " ++
      TypeExpr.literalText options.moduleName ++ after := by
  have hquote : "declare module '" = "declare module " ++ "'" := by decide
  refine ⟨" \x7b\n" ++ String.join ((s.bodyLines options.indent.unit options.rootName).1.map
      (blockLine options.indent.unit)) ++ "\x7d\n" ++ "\n" ++
    declareBlock "declare global" (s.bodyLines options.indent.unit options.rootName).1
      options.indent.unit ++ "\n" ++ "export \x7b\x7d;\n", ?_⟩
  unfold render
  dsimp only
  rw [hquote, declareBlock, TypeExpr.literalText]
  simp only [String.append_assoc]

end Schema

namespace DataModel

open StringLiteral

/-- The name of the module and the literals of a discriminator as a reader of the file takes them.
The file begins with the header, but for an import, and the interface of a collection holds a line
with the literals of its discriminator, one for each collection that the relation beside it allows.
The reader gets the name exactly when it is plain, and the literals in order exactly when all of
them are. -/
theorem quoted_text_reads_back_iff (m : DataModel) (naming : Naming) (options : RenderOptions) :
    (∃ after, (m.build naming).schema.render options =
        ((m.build naming).schema.bodyLines options.indent.unit options.rootName).2.statement ++
          "declare module " ++ TypeExpr.literalText options.moduleName ++ after ∧
      (readLiteral (TypeExpr.literalText options.moduleName ++ after).toList =
          some (units options.moduleName.toList, after.toList) ↔
        IsPlain options.moduleName.toList)) ∧
    ∀ identifier c, (m.build naming).schema.get? identifier = some c →
      (∃ before after, (m.build naming).schema.render options = before ++
        String.join (((m.build naming).schema.interface options.indent.unit c).map
          (blockLine options.indent.unit)) ++ after) ∧
      ∀ d ∈ c.shown, ∀ targets, d.type = .literals targets →
        (d.name = "collection" ∧ ∃ r, m.PairedBy identifier r ∧ r.Allows targets) ∧
        (targets = [] → d.type.text = "") ∧
        (targets ≠ [] →
          (m.build naming).schema.lineStart options.indent.unit d ++ d.type.text ++
            Schema.lineEnd d ∈ (m.build naming).schema.interface options.indent.unit c ∧
          ∀ after : List Char, (Schema.lineEnd d).toList <+: after →
            (readLiterals (d.type.text.toList ++ after) =
                some (targets.map (units ·.toList), after) ↔
              ∀ target ∈ targets, IsPlain target.toList)) := by
  refine ⟨?_, ?_⟩
  · obtain ⟨after, hrender⟩ := (m.build naming).schema.header_in_render options
    refine ⟨after, hrender, ?_⟩
    rw [String.toList_append, TypeExpr.toList_literalText]
    exact readLiteral_quote_iff after.toList
  · intro identifier c hc
    refine ⟨Schema.interface_in_render _ options hc, ?_⟩
    intro d hd targets htype
    have hmem := c.mem_fields_of_mem_shown hd
    refine ⟨(literals_iff_of_mem_fields hc hmem targets).mp htype, ?_, ?_⟩
    · rintro rfl
      rw [htype]
      rfl
    · intro hne
      have hown : d.type.members ≠ [] := by
        rw [htype, TypeExpr.members]
        exact mt List.map_eq_nil_iff.mp hne
      refine ⟨Schema.line_mem_interface _ _ hd (m.regular_of_mem_fields hc hmem) hown, ?_⟩
      intro after hafter
      rw [htype]
      exact readLiterals_text_iff hne (Schema.lineEnd_not_prefix d hafter)

/-- The literals of a discriminator read back. -/
theorem quoted_text_reads_back_pageBlocks :
    (pageBlocks.build .pascalCase).schema.get? "blocks" = some blocksDefinition ∧
    ∃ column ∈ blocksDefinition.shown, column.type = .literals ["pages", "directus_files"] ∧
      readLiterals (column.type.text ++ ";").toList =
        some ([units "pages".toList, units "directus_files".toList], [';']) := by
  have hblocks : (pageBlocks.build .pascalCase).schema.get? "blocks" = some blocksDefinition := rfl
  have hcolumn : (⟨"collection", .literals ["pages", "directus_files"], false, false, .none⟩ :
    FieldDefinition) ∈ blocksDefinition.shown := by
    apply List.mem_append_right
    exact (CollectionDefinition.mem_plainFields_iff _ _).mpr ⟨List.mem_cons_self, rfl⟩
  obtain ⟨-, hall⟩ := quoted_text_reads_back_iff pageBlocks .pascalCase {}
  obtain ⟨-, hlines⟩ := hall "blocks" blocksDefinition hblocks
  obtain ⟨-, -, hread⟩ := hlines _ hcolumn ["pages", "directus_files"] rfl
  refine ⟨hblocks, _, hcolumn, rfl, ?_⟩
  rw [String.toList_append]
  exact ((hread (List.cons_ne_nil _ _)).2 [';'] (List.prefix_refl _)).mpr (by decide)

def slots : DataModel where
  collections := [{ collection := "slots" }]
  fields :=
    [{ collection := "slots", field := "collection", kind := "string" },
      { collection := "slots", field := "item", kind := "string" }]
  relations :=
    [({ collection := "slots", field := "item" } : Relation).withAllowedCollections
      ["editor's_picks"]]

def slotsDefinition : CollectionDefinition where
  name := "slots"
  system := false
  singleton := false
  fields :=
    [⟨"collection", .literals ["editor's_picks"], false, false, .none⟩,
      ⟨"item", .string, false, false, .manyToAny ["editor's_picks"]⟩]

/-- The quote in the name ends the literal too early. -/
theorem literal_ends_early :
    ¬∀ (m : DataModel) (naming : Naming) (identifier : String) (c : CollectionDefinition)
      (d : FieldDefinition) (targets : List String) (after : List Char),
      (m.build naming).schema.get? identifier = some c → d ∈ c.shown →
        d.type = .literals targets → targets ≠ [] → (Schema.lineEnd d).toList <+: after →
          readLiterals (d.type.text.toList ++ after) =
            some (targets.map (units ·.toList), after) := by
  intro h
  have hslots : (slots.build .database).schema.get? "slots" = some slotsDefinition := rfl
  have hcolumn : (⟨"collection", .literals ["editor's_picks"], false, false, .none⟩ :
    FieldDefinition) ∈ slotsDefinition.shown := by
    apply List.mem_append_right
    exact (CollectionDefinition.mem_plainFields_iff _ _).mpr ⟨List.mem_cons_self, rfl⟩
  have hread := h slots .database "slots" slotsDefinition _ ["editor's_picks"] [';'] hslots hcolumn
    rfl (List.cons_ne_nil _ _) (List.prefix_refl _)
  have hplain := (readLiterals_text_iff (List.cons_ne_nil _ _) (by decide)).mp hread
  exact absurd hplain (by decide)

end DataModel

end ContentTypes
