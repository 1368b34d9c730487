import ContentTypes.Proofs.CaseConversion
import ContentTypes.Proofs.ImportedNames

/-! When two generated names are one. A system collection keeps its identifier as its name and is
imported under its Pascal case; the name of any other collection is left to the naming strategy. The
conversions are not injective, so names can clash, but on plain identifiers nothing is confused. -/

namespace ContentTypes

namespace Text

theorem head?_pascalCase (rest : List Char) :
    (pascalCase ('d' :: 'i' :: rest)).head? = some 'D' := by
  have hupper : upperChar 'd' = ['D'] := by decide +kernel
  have hsep : isSeparatorCluster ['d'] = false := by decide +kernel
  -- The second letter is needed: a mark would join the first one and change its cluster.
  have hjoins : (Seam.start 'd').joins 'i' = false := by decide +kernel
  have hclusters : ∃ gs, graphemes ('d' :: 'i' :: rest) = ['d'] :: gs := by
    simp only [graphemes, clustersFrom, hjoins, Bool.false_eq_true, ↓reduceIte,
      List.reverse_singleton]
    exact ⟨_, rfl⟩
  obtain ⟨gs, hgs⟩ := hclusters
  obtain ⟨word, others, hwords⟩ := wordsOfClusters_singleton_cons hsep gs
  unfold pascalCase words
  rw [hgs, hwords, List.flatMap_cons, capitalize, hupper]
  rfl

end Text

def displayName (naming : Naming) (identifier : String) : String :=
  if isSystem identifier then identifier else naming.apply identifier

def isPlain (identifier : String) : Bool := Text.plainFrom false identifier.toList

theorem isSystem_toList {identifier : String} (h : isSystem identifier = true) :
    ∃ rest, identifier.toList = 'd' :: 'i' :: rest := by
  obtain ⟨rest, hrest⟩ := List.isPrefixOf_iff_prefix.mp h
  exact ⟨"rectus_".toList ++ rest, hrest.symm⟩

/-- The type name of a system collection begins with a capital. -/
theorem head?_systemTypeName {identifier : String} (h : isSystem identifier = true) :
    (systemTypeName identifier).toList.head? = some 'D' := by
  obtain ⟨rest, hrest⟩ := isSystem_toList h
  unfold systemTypeName Naming.apply
  rw [String.toList_ofList, hrest, Text.head?_pascalCase]

/-- A plain identifier can be read back from its name under every strategy. -/
theorem restore_apply (naming : Naming) {identifier : String} (h : isPlain identifier = true) :
    Text.restore false (naming.apply identifier).toList = identifier.toList := by
  cases naming with
  | database => exact Text.restore_self (Text.mem_of_plainFrom h) false
  | camelCase =>
    unfold Naming.apply
    rw [String.toList_ofList]
    exact Text.restore_camelCase h
  | pascalCase =>
    unfold Naming.apply
    rw [String.toList_ofList]
    exact Text.restore_pascalCase h

theorem restore_displayName (naming : Naming) {identifier : String}
    (h : isPlain identifier = true) :
    Text.restore false (displayName naming identifier).toList = identifier.toList := by
  unfold displayName
  split
  · exact Text.restore_self (Text.mem_of_plainFrom h) false
  · exact restore_apply naming h

/-- Plain identifiers of one display name are the same. -/
theorem displayName_injective_of_isPlain (naming : Naming) {a b : String} (ha : isPlain a = true)
    (hb : isPlain b = true) (h : displayName naming a = displayName naming b) : a = b := by
  apply String.toList_inj.mp
  rw [← restore_displayName naming ha, ← restore_displayName naming hb, h]

/-- A strategy confuses two identifiers of users that it gives one name, and an identifier of users
with that of a system collection which it gives as its name. -/
def Naming.Confuses (naming : Naming) (a b : String) : Prop :=
  isSystem a = false ∧ isSystem b = false ∧ naming.apply a = naming.apply b ∨
    isSystem a = true ∧ isSystem b = false ∧ a = naming.apply b ∨
    isSystem a = false ∧ isSystem b = true ∧ naming.apply a = b

/-- Two collections are declared under one name exactly when the strategy confuses their
identifiers. -/
theorem displayName_eq_iff_confuses (naming : Naming) {a b : String} (hne : a ≠ b) :
    displayName naming a = displayName naming b ↔ naming.Confuses a b := by
  unfold displayName Naming.Confuses
  cases isSystem a <;> cases isSystem b <;> simp [hne]

/-- Identifiers that are kept as they are do not clash. -/
theorem database_not_confuses {a b : String} (hne : a ≠ b) : ¬Naming.database.Confuses a b := by
  rintro (⟨-, -, h⟩ | ⟨-, -, h⟩ | ⟨-, -, h⟩) <;> exact hne h

/-- A system collection is not declared under the type name of any. -/
theorem systemTypeName_ne_of_isSystem {identifier target : String} (h : isSystem identifier = true)
    (ht : isSystem target = true) : identifier ≠ systemTypeName target := by
  intro he
  obtain ⟨rest, hrest⟩ := isSystem_toList h
  -- The identifier starts with a small letter, the type name with its capital.
  have hd := head?_systemTypeName ht
  rw [← he, hrest] at hd
  exact absurd hd (by simp)

/-- A declared name is that of an imported type exactly when an identifier of users is converted to
it. -/
theorem displayName_eq_systemTypeName_iff (naming : Naming) {identifier target : String}
    (ht : isSystem target = true) :
    displayName naming identifier = systemTypeName target ↔
      isSystem identifier = false ∧ naming.apply identifier = systemTypeName target := by
  unfold displayName
  cases h : isSystem identifier with
  | true => simpa using systemTypeName_ne_of_isSystem h ht
  | false => simp

/-- Plain identifiers do not clash with imported types. -/
theorem displayName_ne_systemTypeName_of_isPlain (naming : Naming) {identifier target : String}
    (h : isPlain identifier = true) (ht : isSystem target = true) (hp : isPlain target = true) :
    displayName naming identifier ≠ systemTypeName target := by
  intro he
  have hs : isSystem identifier = false :=
    ((displayName_eq_systemTypeName_iff naming ht).mp he).1
  -- The one name is read back as both identifiers, but only one of them is the platform's.
  have hback : identifier.toList = target.toList := by
    rw [← restore_displayName naming h, he]
    exact restore_apply .pascalCase hp
  rw [String.toList_inj.mp hback, ht] at hs
  exact absurd hs (by decide)

/-- A link to a collection of users is written with the name of the collection. -/
theorem Schema.linkTarget_of_get? (s : Schema) {identifier : String} {c : CollectionDefinition}
    (hc : s.get? identifier = some c) (hs : isSystem identifier = false) :
    s.linkTarget identifier = .named c.name := by
  simp only [linkTarget, hs, hc, Bool.false_eq_true, ↓reduceIte]

namespace DataModel

theorem name_of_get?_build (m : DataModel) {naming : Naming} {identifier : String}
    {c : CollectionDefinition} (hc : (m.build naming).schema.get? identifier = some c) :
    c.name = displayName naming identifier := by
  obtain ⟨r, hr, rfl, -⟩ := (m.get?_build_eq_some_iff naming identifier c).mp hc
  have hid : r.collection = identifier := hr.holds
  simp only [define, hid, displayName]

/-- Two collections of a built schema have one name exactly when the naming strategy confuses their
identifiers, which `database` never does and no strategy does with plain ones; the links to them
then have one target. The name of a collection is imported exactly when users own the collection and
the strategy gives it the type name of a system collection that is linked to, which does not happen
with plain identifiers. -/
theorem names_clash_iff (m : DataModel) (naming : Naming) (options : RenderOptions) :
    (∀ a b c d, (m.build naming).schema.get? a = some c →
      (m.build naming).schema.get? b = some d → a ≠ b →
        (c.name = d.name ↔ naming.Confuses a b) ∧
        (naming = .database → c.name ≠ d.name) ∧
        (isPlain a = true → isPlain b = true → c.name ≠ d.name) ∧
        (isSystem a = false → isSystem b = false →
          ((m.build naming).schema.linkTarget a = (m.build naming).schema.linkTarget b ↔
            c.name = d.name))) ∧
    (∃ rest, (m.build naming).schema.render options =
      (Imports.mk ((m.build naming).schema.importedNames options)).statement ++ rest) ∧
    (∀ name, name ∈ (m.build naming).schema.importedNames options ↔
      ∃ target, (m.build naming).schema.LinksTo target ∧ isSystem target = true ∧
        name = systemTypeName target) ∧
    ∀ a c, (m.build naming).schema.get? a = some c →
      (c.name ∈ (m.build naming).schema.importedNames options ↔
        isSystem a = false ∧ ∃ target, (m.build naming).schema.LinksTo target ∧
          isSystem target = true ∧ naming.apply a = systemTypeName target) ∧
      (isPlain a = true →
        (∀ target, (m.build naming).schema.LinksTo target → isSystem target = true →
          isPlain target = true) →
        c.name ∉ (m.build naming).schema.importedNames options) := by
  refine ⟨?_, Schema.render_eq_statement_append _ options, Schema.mem_importedNames_iff _ options,
    ?_⟩
  · intro a b c d ha hb hne
    -- Everything about two collections comes from the display names of their identifiers.
    have hiff : c.name = d.name ↔ naming.Confuses a b := by
      rw [m.name_of_get?_build ha, m.name_of_get?_build hb]
      exact displayName_eq_iff_confuses naming hne
    refine ⟨hiff, ?_, ?_, ?_⟩
    · rintro rfl h
      exact database_not_confuses hne (hiff.mp h)
    · intro hpa hpb h
      rw [m.name_of_get?_build ha, m.name_of_get?_build hb] at h
      exact hne (displayName_injective_of_isPlain naming hpa hpb h)
    · intro hsa hsb
      rw [Schema.linkTarget_of_get? _ ha hsa, Schema.linkTarget_of_get? _ hb hsb,
        TypeExpr.named.injEq]
  · intro a c ha
    rw [Schema.mem_importedNames_iff, m.name_of_get?_build ha]
    constructor
    · constructor
      · rintro ⟨target, hl, ht, he⟩
        obtain ⟨hs, happly⟩ := (displayName_eq_systemTypeName_iff naming ht).mp he
        exact ⟨hs, target, hl, ht, happly⟩
      · rintro ⟨hs, target, hl, ht, happly⟩
        exact ⟨target, hl, ht, (displayName_eq_systemTypeName_iff naming ht).mpr ⟨hs, happly⟩⟩
    · rintro hp hplain ⟨target, hl, ht, he⟩
      exact displayName_ne_systemTypeName_of_isPlain naming hp ht (hplain target hl ht) he

def confusable : DataModel where
  collections :=
    [{ collection := "blog_post" }, { collection := "blog-post" },
      { collection := "DirectusUsers" }]
  fields :=
    [{ collection := "blog_post", field := "title", kind := "string" },
      { collection := "blog-post", field := "title", kind := "string" },
      { collection := "DirectusUsers", field := "account", kind := "uuid" }]
  relations := [Relation.manyToOne "DirectusUsers" "account" "directus_users"]

def confusedPosts : CollectionDefinition where
  name := "BlogPost"
  system := false
  singleton := false
  fields := [⟨"title", .string, false, false, .none⟩]

def confusedUsers : CollectionDefinition where
  name := "DirectusUsers"
  system := false
  singleton := false
  fields := [⟨"account", .string, false, false, .manyToOne "directus_users"⟩]

theorem get?_build_confusable :
    (confusable.build .pascalCase).schema.get? "blog_post" = some confusedPosts ∧
    (confusable.build .pascalCase).schema.get? "blog-post" = some confusedPosts ∧
    (confusable.build .pascalCase).schema.get? "DirectusUsers" = some confusedUsers :=
  ⟨rfl, rfl, rfl⟩

theorem importedNames_confusable :
    (confusable.build .pascalCase).schema.importedNames {} = ["DirectusUsers"] := by
  decide +kernel

theorem linksTo_confusable {target : String}
    (h : (confusable.build .pascalCase).schema.LinksTo target) : target = "directus_users" := by
  have hlinks : (confusable.build .pascalCase).schema.entries.flatMap
      (fun e => e.2.plainFields.flatMap (·.links)) = [⟨"directus_users", false⟩] := by
    decide +kernel
  obtain ⟨link, hlink, rfl⟩ := (Schema.linksTo_iff_exists_link _ target).mp h
  rw [hlinks] at hlink
  rw [List.mem_singleton.mp hlink]

/-- The posts have one name because their identifiers are confused. That name is not imported, for
one of the identifiers is plain and so is the only one that is linked to. -/
theorem names_clash_confusable :
    Naming.pascalCase.Confuses "blog_post" "blog-post" ∧
      confusedPosts.name ∉ (confusable.build .pascalCase).schema.importedNames {} := by
  obtain ⟨hpost, hother, -⟩ := get?_build_confusable
  have hne : "blog_post" ≠ "blog-post" := by decide
  have hclash := (names_clash_iff confusable .pascalCase {}).1 "blog_post" "blog-post" confusedPosts
    confusedPosts hpost hother hne
  have himport := (names_clash_iff confusable .pascalCase {}).2.2.2 "blog_post" confusedPosts hpost
  refine ⟨hclash.1.mp rfl, himport.2 (by decide) ?_⟩
  intro target hl _
  rw [linksTo_confusable hl]
  decide

/-- Two collections can have one name, and a collection can have a name that the file imports. -/
theorem confusable_names_clash :
    (¬∀ (m : DataModel) (naming : Naming) (a b : String) (c d : CollectionDefinition),
      (m.build naming).schema.get? a = some c → (m.build naming).schema.get? b = some d → a ≠ b →
        c.name ≠ d.name) ∧
    ¬∀ (m : DataModel) (naming : Naming) (options : RenderOptions) (a : String)
      (c : CollectionDefinition), (m.build naming).schema.get? a = some c →
        c.name ∉ (m.build naming).schema.importedNames options := by
  obtain ⟨hpost, hother, husers⟩ := get?_build_confusable
  constructor
  · intro h
    exact h confusable .pascalCase "blog_post" "blog-post" confusedPosts confusedPosts hpost hother
      (by decide) rfl
  · intro h
    apply h confusable .pascalCase {} "DirectusUsers" confusedUsers husers
    rw [importedNames_confusable]
    exact List.mem_singleton_self _

end DataModel

end ContentTypes
