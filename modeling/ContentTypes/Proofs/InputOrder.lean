import ContentTypes.Proofs.Interface
import Mathlib.Data.List.Nodup

/-! Records in another order give the same file, as long as no two of them compete. Each search for
a first record then has one record to find, and what is left of the order is undone by sorting. -/

namespace ContentTypes

/-- A search among elements of which at most one passes finds it in any order. -/
theorem find?_eq_of_perm {α : Type} {p : α → Bool} {l l' : List α} (hp : l.Perm l')
    (hu : l.Pairwise fun a b => ¬(p a = true ∧ p b = true)) : l.find? p = l'.find? p := by
  induction hp with
  | nil => rfl
  | cons a _ ih =>
    rw [List.find?_cons, List.find?_cons, ih (List.pairwise_cons.mp hu).2]
  | swap a b l =>
    -- Of the two that change places at most one passes, so it is found first both times.
    have hab : ¬(p b = true ∧ p a = true) := (List.pairwise_cons.mp hu).1 a (by simp)
    simp only [List.find?_cons]
    cases ha : p a <;> cases hb : p b <;> simp_all
  | trans h₁ _ ih₁ ih₂ =>
    have hs : ∀ {a b}, ¬(p a = true ∧ p b = true) → ¬(p b = true ∧ p a = true) :=
      fun h hab => h hab.symm
    exact (ih₁ hu).trans (ih₂ ((h₁.pairwise_iff hs).mp hu))

theorem isSome_eq_of_rel {α β : Type} {R : α → β → Prop} {a : Option α} {b : Option β}
    (h : Option.Rel R a b) : a.isSome = b.isSome := by
  cases h <;> rfl

/-- In a list in ascending order no key is found that is smaller than the first one. -/
theorem not_lt_of_lookup_isSome {k key : String} {value : CollectionDefinition}
    {rest : List (String × CollectionDefinition)}
    (hs : ((key, value) :: rest).Pairwise fun a b => a.1 < b.1)
    (h : (((key, value) :: rest).lookup k).isSome = true) : ¬k < key := by
  intro hlt
  have hall : ∀ e ∈ (key, value) :: rest, k < e.1 := by
    rw [List.forall_mem_cons]
    exact ⟨hlt, fun e he => String.lt_trans hlt ((List.pairwise_cons.mp hs).1 e he)⟩
  rw [lookup_of_forall_lt hall] at h
  exact absurd h (by decide)

/-- Entries in ascending order are related one by one when their look-ups are. -/
theorem forall₂_of_lookup {R : CollectionDefinition → CollectionDefinition → Prop}
    {l l' : List (String × CollectionDefinition)} (hl : l.Pairwise fun a b => a.1 < b.1)
    (hl' : l'.Pairwise fun a b => a.1 < b.1)
    (h : ∀ k, Option.Rel R (l.lookup k) (l'.lookup k)) :
    List.Forall₂ (fun a b => a.1 = b.1 ∧ R a.2 b.2) l l' := by
  induction l generalizing l' with
  | nil =>
    cases l' with
    | nil => exact .nil
    | cons entry rest =>
      have hk := isSome_eq_of_rel (h entry.1)
      rw [List.lookup_nil, List.lookup_cons_self] at hk
      cases hk
  | cons entry rest ih =>
    obtain ⟨key, value⟩ := entry
    have hkey := isSome_eq_of_rel (h key)
    rw [List.lookup_cons_self] at hkey
    cases l' with
    | nil => cases hkey
    | cons entry' rest' =>
      obtain ⟨key', value'⟩ := entry'
      have hkey' := isSome_eq_of_rel (h key')
      rw [List.lookup_cons_self] at hkey'
      -- Each of the two first keys is found in the other list, so neither is the smaller one.
      have hlt : ¬key < key' := not_lt_of_lookup_isSome hl' hkey.symm
      have hgt : ¬key' < key := not_lt_of_lookup_isSome hl hkey'
      obtain rfl : key = key' := String.le_antisymm (String.not_lt.mp hgt) (String.not_lt.mp hlt)
      obtain ⟨hhead, htail⟩ := List.pairwise_cons.mp hl
      obtain ⟨hhead', htail'⟩ := List.pairwise_cons.mp hl'
      have hv := h key
      rw [List.lookup_cons_self, List.lookup_cons_self] at hv
      refine .cons ⟨rfl, by cases hv; assumption⟩ (ih htail htail' ?_)
      intro k
      by_cases hk : k = key
      · subst hk
        rw [lookup_of_forall_lt hhead, lookup_of_forall_lt hhead']
        exact .none
      · have hb : (k == key) = false := by simpa using hk
        have hk := h k
        simpa only [List.lookup_cons, hb] using hk

namespace CollectionDefinition

/-- Two collections of which a declaration file shows the same. -/
structure Alike (c d : CollectionDefinition) : Prop where
  name : c.name = d.name
  singleton : c.singleton = d.singleton
  primaryKey : c.primaryKey? = d.primaryKey?
  plainFields : c.plainFields = d.plainFields

/-- Fields of different names, among them at most one primary key, may change places. -/
theorem alike_of_perm {c d : CollectionDefinition} (hname : c.name = d.name)
    (hsingle : c.singleton = d.singleton) (hp : c.fields.Perm d.fields)
    (hnames : (c.fields.map (·.name)).Nodup)
    (hkeys : c.fields.Pairwise fun f g => ¬(f.primaryKey = true ∧ g.primaryKey = true)) :
    c.Alike d := by
  -- Sorted lists of the same fields are equal once no two of these fields have one name.
  refine ⟨hname, hsingle, find?_eq_of_perm hp hkeys,
    List.Perm.eq_of_pairwise ?_ c.plainFields_sorted d.plainFields_sorted ?_⟩
  · intro f g hf hg hfg hgf
    have hfc := List.mem_of_mem_filter (c.plainFields_perm.mem_iff.mp hf)
    have hgd := List.mem_of_mem_filter (d.plainFields_perm.mem_iff.mp hg)
    have heq := String.le_antisymm hfg hgf
    exact List.inj_on_of_nodup_map hnames hfc (hp.mem_iff.mpr hgd) heq
  · exact c.plainFields_perm.trans ((hp.filter _).trans d.plainFields_perm.symm)

end CollectionDefinition

theorem map_eq_map_of_forall₂ {α β γ : Type} {R : α → β → Prop} {l : List α} {l' : List β}
    (h : List.Forall₂ R l l') {f : α → γ} {g : β → γ} (hfg : ∀ a b, R a b → f a = g b) :
    l.map f = l'.map g := by
  induction h with
  | nil => rfl
  | cons hab _ ih => rw [List.map_cons, List.map_cons, hfg _ _ hab, ih]

namespace Schema

/-- Two schemas with the same identifiers, whose collections are shown the same. -/
def Alike (s t : Schema) : Prop :=
  ∀ identifier, Option.Rel CollectionDefinition.Alike (s.get? identifier) (t.get? identifier)

section

variable {s t : Schema}

theorem Alike.entries (h : s.Alike t) :
    List.Forall₂ (fun a b => a.1 = b.1 ∧ a.2.Alike b.2) s.entries t.entries :=
  forall₂_of_lookup s.ascending t.ascending h

theorem Alike.linkType_eq (h : s.Alike t) (link : Link) : s.linkType link = t.linkType link := by
  unfold linkType linkTarget
  -- A link is written with the name of its target, whatever else the target holds.
  have hl := h link.collection
  generalize s.get? link.collection = c at hl ⊢
  generalize t.get? link.collection = d at hl ⊢
  cases hl with
  | none => rfl
  | some hcd => simp only [hcd.name]

/-- Schemas that are alike show a field with one type. -/
theorem Alike.shownType_eq (h : s.Alike t) (f : FieldDefinition) :
    s.shownType f = t.shownType f := by
  simp only [shownType, fieldType, h.linkType_eq]

theorem Alike.interface_eq (h : s.Alike t) (indent : String) {c d : CollectionDefinition}
    (hcd : c.Alike d) : s.interface indent c = t.interface indent d := by
  unfold interface members CollectionDefinition.keyLines
  simp only [hcd.name, hcd.primaryKey, hcd.plainFields, h.shownType_eq]

theorem rootLines_congr (indent name : String) {l l' : List (String × CollectionDefinition)}
    (h : List.Forall₂ (fun a b => a.1 = b.1 ∧ a.2.Alike b.2) l l') :
    rootLines indent name l = rootLines indent name l' := by
  have hmap : l.map (fun e => rootEntry indent e.1 e.2) =
      l'.map fun e => rootEntry indent e.1 e.2 := by
    apply map_eq_map_of_forall₂ h
    intro a b hab
    unfold rootEntry
    rw [hab.1, hab.2.name, hab.2.singleton]
  unfold rootLines
  rw [hmap]

/-- Schemas that are alike have one body and one import line. -/
theorem Alike.bodyLines_eq (h : s.Alike t) (indent rootName : String) :
    s.bodyLines indent rootName = t.bodyLines indent rootName := by
  have huser :
      rootLines indent rootName s.userEntries = rootLines indent rootName t.userEntries := by
    apply rootLines_congr
    refine List.rel_filter ?_ h.entries
    intro a b hab
    change (!isSystem a.1) = true ↔ (!isSystem b.1) = true
    rw [hab.1]
  have hface : s.entries.map (fun e => s.interface indent e.2 ++ [""]) =
      t.entries.map fun e => t.interface indent e.2 ++ [""] := by
    apply map_eq_map_of_forall₂ h.entries
    intro a b hab
    rw [h.interface_eq indent hab.2]
  have hlinks : s.entries.map (fun e => e.2.plainFields.flatMap (·.links)) =
      t.entries.map fun e => e.2.plainFields.flatMap (·.links) := by
    apply map_eq_map_of_forall₂ h.entries
    intro a b hab
    rw [hab.2.plainFields]
  apply Prod.ext
  · rw [bodyLines_fst, bodyLines_fst, huser, rootLines_congr indent _ h.entries,
      List.flatMap_def, List.flatMap_def, hface]
  · rw [bodyLines_snd, bodyLines_snd, List.flatMap_def, List.flatMap_def, hlinks]

/-- Schemas that are alike are written to the same file. -/
theorem Alike.render_eq (h : s.Alike t) (options : RenderOptions) :
    s.render options = t.render options := by
  unfold render
  simp only [h.bodyLines_eq]

end

end Schema

namespace DataModel

/-- Two data models with the same records, each list in an order of its own. -/
structure SameRecords (m m' : DataModel) : Prop where
  collections : m.collections.Perm m'.collections
  fields : m.fields.Perm m'.fields
  relations : m.relations.Perm m'.relations

/-- No two records of a data model compete for one place: identifiers, fields, primary keys, foreign
keys and the fields that list rows are all named once. -/
structure Distinct (m : DataModel) : Prop where
  collections : (m.collections.map (·.collection)).Nodup
  fields : (m.fields.map fun f => (f.collection, f.field)).Nodup
  keys : m.fields.Pairwise fun f g =>
    ¬(f.collection = g.collection ∧ f.isPrimaryKey = true ∧ g.isPrimaryKey = true)
  forward : (m.relations.map fun r => (r.collection, r.field)).Nodup
  reverse : m.relations.Pairwise fun r r' =>
    ∀ collection field, ¬(r.PointsBack collection field ∧ r'.PointsBack collection field)

/-- A search for a key that every element has for itself finds the same in any order. -/
theorem find?_key_eq_of_perm {α β : Type} {p : α → Bool} {l l' : List α} (hp : l.Perm l')
    (key : α → β) (hn : (l.map key).Nodup) (hkey : ∀ a b, p a = true → p b = true → key a = key b) :
    l.find? p = l'.find? p := by
  apply find?_eq_of_perm hp
  exact (List.pairwise_map.mp hn).imp fun hne hab => hne (hkey _ _ hab.1 hab.2)

section

variable {m m' : DataModel}

/-- Where no two records compete, the order of the relations does not matter to a field. -/
theorem resolve_eq_of_sameRecords (hp : m.SameRecords m') (hd : m.Distinct) (f : Field) :
    f.resolve m.relations = f.resolve m'.relations := by
  have hforward (collection field : String) : forwardRelation? m.relations collection field =
      forwardRelation? m'.relations collection field := by
    apply find?_key_eq_of_perm hp.relations _ hd.forward
    intro r r' hr hr'
    simp only [Bool.and_eq_true, beq_iff_eq] at hr hr'
    rw [hr.1, hr.2, hr'.1, hr'.2]
  apply Field.resolve_congr (hforward _ _) _ fun _ => hforward _ _
  apply find?_eq_of_perm hp.relations
  refine hd.reverse.imp ?_
  intro r r' h hrr'
  exact h f.collection f.field
    ⟨(r.pointsBackTo_iff _ _).mp hrr'.1, (r'.pointsBackTo_iff _ _).mp hrr'.2⟩

/-- In another order the same fields are defined. -/
theorem definitionsOf_perm (hp : m.SameRecords m') (hd : m.Distinct) (c : String) :
    (m.definitionsOf c).Perm (m'.definitionsOf c) := by
  unfold definitionsOf fieldsOf
  simp only [resolve_eq_of_sameRecords hp hd]
  exact (hp.fields.filter _).filterMap _

theorem pairwise_definitionsOf (m : DataModel) (c : String) {R : Field → Field → Prop}
    {S : FieldDefinition → FieldDefinition → Prop} (h : m.fields.Pairwise R)
    (hRS : ∀ f g d e, f.collection = c → g.collection = c → R f g → f.Defines m.relations d →
      g.Defines m.relations e → S d e) : (m.definitionsOf c).Pairwise S := by
  unfold definitionsOf
  -- What tells two records of the collection apart is carried over to their definitions.
  rw [List.pairwise_filterMap]
  refine (h.sublist List.filter_sublist).imp_of_mem ?_
  intro f g hf hg hfg d hd e he
  have hfd := ((f.toOption_resolve_eq_some_iff _ d).mp hd).2
  have hge := ((g.toOption_resolve_eq_some_iff _ e).mp he).2
  exact hRS f g d e (collection_of_mem_fieldsOf hf) (collection_of_mem_fieldsOf hg) hfg hfd hge

theorem define_alike (hp : m.SameRecords m') (hd : m.Distinct) (naming : Naming) (r : Collection) :
    (m.define naming r).Alike (m'.define naming r) := by
  have hfields : (m.define naming r).fields.Perm (m'.define naming r).fields :=
    definitionsOf_perm hp hd r.collection
  refine CollectionDefinition.alike_of_perm ?_ ?_ hfields ?_ ?_
  · rfl
  · rfl
  · apply List.pairwise_map.mpr
    apply m.pairwise_definitionsOf r.collection (List.pairwise_map.mp hd.fields)
    intro f g d e hf hg hfg hfd hge hde
    rw [hfd.name, hge.name] at hde
    exact hfg (Prod.ext (hf.trans hg.symm) hde)
  · apply m.pairwise_definitionsOf r.collection hd.keys
    intro f g d e hf hg hfg hfd hge hde
    rw [hfd.primaryKey, hge.primaryKey] at hde
    exact hfg ⟨hf.trans hg.symm, hde⟩

/-- In another order the records give a schema that is shown the same. -/
theorem build_alike (hp : m.SameRecords m') (hd : m.Distinct) (naming : Naming) :
    (m.build naming).schema.Alike (m'.build naming).schema := by
  intro c
  have hfind :
      m.collections.find? (·.collection == c) = m'.collections.find? (·.collection == c) := by
    apply find?_key_eq_of_perm hp.collections _ hd.collections
    intro r r' hr hr'
    rw [eq_of_beq hr, eq_of_beq hr']
  rw [get?_build, get?_build, ← hfind]
  cases m.collections.find? (·.collection == c) with
  | none => exact .none
  | some r =>
    -- A collection is left out of both schemas or of none, for it has as many fields in both.
    have hlen : (m.define naming r).fields.isEmpty = (m'.define naming r).fields.isEmpty :=
      (definitionsOf_perm hp hd r.collection).isEmpty_eq
    simp only [Option.map_some, Option.filter_some, hlen]
    split
    · exact .some (define_alike hp hd naming r)
    · exact .none

end

/-- The declaration file of a data model is that of its records in any other order, as long as no
two of them compete. -/
theorem render_build_eq_of_sameRecords (m m' : DataModel) (hp : m.SameRecords m')
    (hd : m.Distinct) (naming : Naming) (options : RenderOptions) :
    (m.build naming).schema.render options = (m'.build naming).schema.render options := by
  have halike := build_alike hp hd naming
  exact halike.render_eq options

def articles : DataModel where
  collections := [{ collection := "articles" }, { collection := "directus_users" }]
  fields :=
    [({ collection := "articles", field := "id", kind := "uuid" } : Field).primaryKey,
      { collection := "articles", field := "author", kind := "uuid" },
      ({ collection := "articles", field := "editor", kind := "uuid" } : Field).nullable,
      ({ collection := "directus_users", field := "id", kind := "uuid" } : Field).primaryKey]
  relations :=
    [(Relation.manyToOne "articles" "author" "directus_users").withOneField
        "directus_users" "texts",
      Relation.manyToOne "articles" "editor" "directus_users"]

def articlesReversed : DataModel where
  collections := articles.collections.reverse
  fields := articles.fields.reverse
  relations := articles.relations.reverse

theorem sameRecords_articlesReversed : articles.SameRecords articlesReversed where
  collections := (List.reverse_perm _).symm
  fields := (List.reverse_perm _).symm
  relations := (List.reverse_perm _).symm

theorem articles_distinct : articles.Distinct where
  collections := by decide
  fields := by decide
  keys := by decide
  forward := by decide
  reverse := by
    refine List.pairwise_cons.mpr ⟨?_, List.pairwise_singleton _ _⟩
    intro r hr collection field h
    -- The second relation names no field that lists its rows.
    obtain rfl := List.mem_singleton.mp hr
    obtain ⟨data, hdata, -⟩ := h.2
    cases hdata

/-- The lists from their ends give the same file. -/
theorem render_articles_eq_reversed :
    articles.SameRecords articlesReversed ∧ articles.Distinct ∧
      (articles.build .pascalCase).schema.render {} =
        (articlesReversed.build .pascalCase).schema.render {} :=
  ⟨sameRecords_articlesReversed, articles_distinct,
    render_build_eq_of_sameRecords articles articlesReversed sameRecords_articlesReversed
      articles_distinct .pascalCase {}⟩

end DataModel

end ContentTypes
