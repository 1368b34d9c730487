import ContentTypes.Proofs.Resolution

/-! What the schema of a data model holds. An identifier is looked up as if the collection records
had been searched for it, which gives a description of the whole schema through the records
alone. -/

namespace ContentTypes

namespace Schema

/-- A collection is found under its identifier. -/
theorem get?_eq_some_iff_mem (s : Schema) (identifier : String) (c : CollectionDefinition) :
    s.get? identifier = some c ↔ (identifier, c) ∈ s.entries := by
  obtain ⟨entries, hs⟩ := s
  unfold get?
  dsimp only
  induction entries with
  | nil => simp
  | cons entry rest ih =>
    obtain ⟨key, value⟩ := entry
    obtain ⟨hhead, htail⟩ := List.pairwise_cons.mp hs
    by_cases hk : identifier = key
    · subst hk
      -- Identifiers ascend, so the rest has no further entry of this one.
      have hn : (identifier, c) ∉ rest := by
        intro h
        exact String.lt_irrefl identifier (hhead (identifier, c) h)
      simp [List.lookup_cons_self, hn, eq_comm]
    · have hb : (identifier == key) = false := by simpa using hk
      simp [List.lookup_cons, hb, hk, ih htail]

end Schema

namespace Built

/-- An identifier keeps what it has; one that is free gets the record that names it. -/
theorem get?_addCollection (m : DataModel) (naming : Naming) (b : Built) (r : Collection)
    (c : String) :
    (addCollection m naming b r).schema.get? c =
      (b.schema.get? c).or (if r.collection = c then some (m.define naming r) else none) := by
  unfold addCollection
  cases hc : b.schema.contains r.collection with
  | true =>
    obtain ⟨d, hd⟩ := Option.isSome_iff_exists.mp hc
    by_cases hr : r.collection = c
    · subst hr
      simp [hd]
    · simp [hr]
  | false =>
    have hn : b.schema.get? r.collection = none := by
      simpa [Schema.contains] using hc
    simp only [Bool.false_eq_true, ↓reduceIte, Schema.get?_insert, hn, Option.getD_none]
    by_cases hr : r.collection = c
    · subst hr
      simp [hn]
    · simp [hr, Ne.symm hr]

/-- Taking in records adds the first one of an identifier that is still free. -/
theorem get?_foldl_addCollection (m : DataModel) (naming : Naming) (rs : List Collection)
    (b : Built) (c : String) :
    (rs.foldl (addCollection m naming) b).schema.get? c =
      (b.schema.get? c).or ((rs.find? (·.collection == c)).map (m.define naming)) := by
  -- What was taken in before the records wins over all of them, so it is part of the induction.
  induction rs generalizing b with
  | nil => simp
  | cons r rest ih =>
    rw [List.foldl_cons, ih, get?_addCollection, Option.or_assoc, List.find?_cons]
    by_cases hr : r.collection = c
    · simp [hr]
    · have hb : (r.collection == c) = false := by simpa using hr
      simp [hr, hb]

end Built

namespace DataModel

/-- A built schema has the first record of an identifier, unless it has no fields. -/
theorem get?_build (m : DataModel) (naming : Naming) (c : String) :
    (m.build naming).schema.get? c =
      ((m.collections.find? (·.collection == c)).map (m.define naming)).filter
        (!·.fields.isEmpty) := by
  unfold build Built.finish
  rw [Schema.get?_filter, Built.get?_foldl_addCollection]
  rfl

/-- A collection is in the schema exactly when it is the definition of the first record of its
identifier and has fields. -/
theorem get?_build_eq_some_iff (m : DataModel) (naming : Naming) (c : String)
    (d : CollectionDefinition) :
    (m.build naming).schema.get? c = some d ↔
      ∃ r, FirstWith (·.collection = c) m.collections r ∧ m.define naming r = d ∧
        d.fields ≠ [] := by
  have hf (r : Collection) : m.collections.find? (·.collection == c) = some r ↔
      FirstWith (·.collection = c) m.collections r :=
    find?_eq_some_iff_firstWith (by simp) _ _
  simp only [get?_build, Option.filter_eq_some_iff, Option.map_eq_some_iff, hf,
    Bool.not_eq_true', List.isEmpty_eq_false_iff]
  constructor
  · rintro ⟨⟨r, hr, hd⟩, hn⟩
    exact ⟨r, hr, hd, hn⟩
  · rintro ⟨r, hr, hd, hn⟩
    exact ⟨⟨r, hr, hd⟩, hn⟩

theorem collection_of_mem_fieldsOf {m : DataModel} {c : String} {f : Field}
    (hf : f ∈ m.fieldsOf c) : f.collection = c := by
  simpa using (List.mem_filter.mp hf).2

/-- The field records of a collection that have a place in the schema, in input order. -/
def resolvableOf (m : DataModel) (c : String) : List Field :=
  m.fields.filter fun f => f.collection = c ∧ f.Resolvable m.relations

/-- What a schema says about the collection `c`, in terms of the records alone. -/
structure Describes (m : DataModel) (naming : Naming) (c : String) (d : CollectionDefinition) :
    Prop where
  singleton : ∃ r, FirstWith (·.collection = c) m.collections r ∧ d.singleton = r.isSingleton
  system : d.system = true ↔ "directus_".toList <+: c.toList
  name : d.name = if d.system then c else naming.apply c
  fields : List.Forall₂ (fun f e => f.Defines m.relations e) (m.resolvableOf c) d.fields

/-- The definitions of a list of records are those of its resolvable records, one for each. -/
theorem forall₂_defines_iff (relations : List Relation) (fs : List Field)
    (ds : List FieldDefinition) :
    List.Forall₂ (fun f d => f.Defines relations d) (fs.filter fun f => f.Resolvable relations) ds ↔
      fs.filterMap (fun f => (f.resolve relations).toOption) = ds := by
  induction fs generalizing ds with
  | nil => simp [eq_comm]
  | cons f rest ih =>
    by_cases hf : f.Resolvable relations
    · obtain ⟨d, hd⟩ := (f.resolvable_iff relations).mp hf
      -- The description of a resolvable record fits one definition only.
      have hu (e : FieldDefinition) : f.Defines relations e ↔ d = e := by
        have he := f.resolve_eq_ok_iff relations e
        rw [hd, Except.ok.injEq] at he
        rw [he]
        exact ⟨fun h => ⟨hf, h⟩, fun h => h.2⟩
      simp only [List.filter_cons, hf, decide_true, ↓reduceIte, List.forall₂_cons_left_iff, hu, ih,
        List.filterMap_cons, hd, Except.toOption]
      constructor
      · rintro ⟨_, _, rfl, rfl, rfl⟩
        rfl
      · rintro rfl
        exact ⟨d, _, rfl, rfl, rfl⟩
    · have hn : (f.resolve relations).toOption = none := by
        cases hd : f.resolve relations with
        | error reason => rfl
        | ok d => exact absurd ((f.resolvable_iff relations).mpr ⟨d, hd⟩) hf
      simp only [List.filter_cons, hf, decide_false, Bool.false_eq_true, ↓reduceIte, ih,
        List.filterMap_cons, hn]

theorem filter_fieldsOf (m : DataModel) (c : String) (p : Field → Bool) :
    (m.fieldsOf c).filter p = m.fields.filter fun f => f.collection = c ∧ p f = true := by
  unfold fieldsOf
  rw [List.filter_filter]
  apply List.filter_congr
  intro f _
  rw [Bool.decide_and, Bool.and_comm, Bool.decide_eq_true]
  rfl

theorem resolvableOf_eq_filter (m : DataModel) (c : String) :
    m.resolvableOf c = (m.fieldsOf c).filter fun f => f.Resolvable m.relations := by
  rw [filter_fieldsOf]
  simp only [decide_eq_true_eq]
  rfl

theorem forall₂_definitionsOf_iff (m : DataModel) (c : String) (ds : List FieldDefinition) :
    List.Forall₂ (fun f d => f.Defines m.relations d) (m.resolvableOf c) ds ↔
      m.definitionsOf c = ds := by
  rw [resolvableOf_eq_filter]
  exact forall₂_defines_iff m.relations (m.fieldsOf c) ds

/-- Definitions are those of records with a place. -/
theorem mem_definitionsOf_iff (m : DataModel) (c : String) (d : FieldDefinition) :
    d ∈ m.definitionsOf c ↔ ∃ f ∈ m.resolvableOf c, f.Defines m.relations d := by
  unfold definitionsOf
  rw [resolvableOf_eq_filter, List.mem_filterMap]
  simp only [Field.toOption_resolve_eq_some_iff, List.mem_filter, decide_eq_true_eq, and_assoc]

/-- The description fits the definition of the first record of an identifier and no other. -/
theorem describes_iff (m : DataModel) (naming : Naming) (c : String) (d : CollectionDefinition) :
    m.Describes naming c d ↔
      ∃ r, FirstWith (·.collection = c) m.collections r ∧ m.define naming r = d := by
  have hs : isSystem c = true ↔ "directus_".toList <+: c.toList := List.isPrefixOf_iff_prefix
  constructor
  · intro h
    obtain ⟨r, hr, hsingle⟩ := h.singleton
    have hc : r.collection = c := hr.holds
    have hsys : d.system = isSystem c := Bool.eq_iff_iff.mpr (h.system.trans hs.symm)
    have hname := h.name
    have hfields := (m.forall₂_definitionsOf_iff c d.fields).mp h.fields
    refine ⟨r, hr, ?_⟩
    -- The description fixes every part of the collection, so it is the one defined.
    cases d
    simp only [define, hc, CollectionDefinition.mk.injEq]
    dsimp only at hsingle hsys hname hfields
    rw [hsys] at hname
    exact ⟨hname.symm, hsys.symm, hsingle.symm, hfields⟩
  · rintro ⟨r, hr, rfl⟩
    have hc : r.collection = c := hr.holds
    refine ⟨⟨r, hr, rfl⟩, ?_, ?_, ?_⟩
    · simp only [define, hc, hs]
    · simp only [define, hc]
    · rw [forall₂_definitionsOf_iff]
      simp only [define, hc]

theorem exists_firstWith_iff {α : Type} (p : α → Prop) [DecidablePred p] (l : List α) :
    (∃ a, FirstWith p l a) ↔ ∃ a ∈ l, p a := by
  have hp : ∀ a, decide (p a) = true ↔ p a := by simp
  simp only [← find?_eq_some_iff_firstWith hp, ← Option.isSome_iff_exists, List.find?_isSome,
    decide_eq_true_eq]

/-- A built schema is described by the records: an identifier is in it exactly when a collection
record names it and one of its field records has a place, and then its collection is the one that
fits the description. -/
theorem build_describes_records (m : DataModel) (naming : Naming) (c : String) :
    (((m.build naming).schema.get? c).isSome = true ↔
      (∃ r ∈ m.collections, r.collection = c) ∧
        ∃ f ∈ m.fields, f.collection = c ∧ f.Resolvable m.relations) ∧
    ∀ d, (m.build naming).schema.get? c = some d ↔
      m.resolvableOf c ≠ [] ∧ m.Describes naming c d := by
  have hget (d : CollectionDefinition) : (m.build naming).schema.get? c = some d ↔
      m.resolvableOf c ≠ [] ∧ m.Describes naming c d := by
    rw [get?_build_eq_some_iff]
    constructor
    · rintro ⟨r, hr, hd, hn⟩
      have h := (m.describes_iff naming c d).mpr ⟨r, hr, hd⟩
      refine ⟨?_, h⟩
      intro he
      have hl := h.fields.length_eq
      rw [he] at hl
      exact hn (List.length_eq_zero_iff.mp hl.symm)
    · rintro ⟨hn, h⟩
      obtain ⟨r, hr, hd⟩ := (m.describes_iff naming c d).mp h
      refine ⟨r, hr, hd, ?_⟩
      intro he
      have hl := h.fields.length_eq
      rw [he] at hl
      exact hn (List.length_eq_zero_iff.mp hl)
  refine ⟨?_, hget⟩
  have hres : m.resolvableOf c ≠ [] ↔
      ∃ f ∈ m.fields, f.collection = c ∧ f.Resolvable m.relations := by
    simp [resolvableOf, List.filter_eq_nil_iff]
  rw [Option.isSome_iff_exists, ← hres, ← exists_firstWith_iff]
  simp only [hget, describes_iff]
  constructor
  · rintro ⟨d, hn, r, hr, -⟩
    exact ⟨⟨r, hr⟩, hn⟩
  · rintro ⟨⟨r, hr⟩, hn⟩
    exact ⟨m.define naming r, hn, r, hr, rfl⟩

end DataModel

end ContentTypes
