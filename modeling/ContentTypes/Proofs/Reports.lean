import ContentTypes.Proofs.SchemaContents

/-! The reports that are made while a schema is built. Every collection record and every field
record of a listed collection either has a place in the schema or is reported once, and nothing else
is reported. -/

namespace ContentTypes

namespace Field

def dropReport (f : Field) : Event :=
  .droppedField f.collection f.field f.kind
    (if isSystem f.collection && f.isGenerated then .generatedSystemColumn else .unmappedType)

/-- A field without a place is reported with its reason. -/
theorem resolve_of_not_resolvable {f : Field} {relations : List Relation}
    (h : ¬f.Resolvable relations) :
    ∃ reason, f.resolve relations = .error reason ∧ f.dropped reason = f.dropReport := by
  cases hr : f.resolve relations with
  | ok d => exact absurd ((f.resolvable_iff relations).mpr ⟨d, hr⟩) h
  | error reason =>
    refine ⟨reason, rfl, ?_⟩
    unfold resolve at hr
    unfold dropped dropReport
    cases hg : isSystem f.collection && f.isGenerated with
    | true =>
      rw [hg] at hr
      obtain rfl := Except.error.inj hr
      rfl
    | false =>
      rw [hg] at hr
      -- What is not refused as a generated column is refused only for want of a type.
      split at hr
      · rename_i hc
        cases hc
      · split at hr
        · obtain rfl := Except.error.inj hr
          rfl
        · cases hr

end Field

namespace DataModel

def unresolvableOf (m : DataModel) (c : String) : List Field :=
  m.fields.filter fun f => f.collection = c ∧ ¬f.Resolvable m.relations

/-- The reports due on a collection record that follows others: that it is a duplicate, or which of
its field records are left out. -/
def reportsOn (m : DataModel) (earlier : List Collection) (r : Collection) : List Event :=
  if ∃ e ∈ earlier, e.collection = r.collection then [.duplicateCollection r.collection]
  else (m.unresolvableOf r.collection).map (·.dropReport)

def reports (m : DataModel) (earlier : List Collection) : List Collection → List Event
  | [] => []
  | r :: rest => m.reportsOn earlier r ++ m.reports (earlier ++ [r]) rest

theorem unresolvableOf_eq_filter (m : DataModel) (c : String) :
    m.unresolvableOf c = (m.fieldsOf c).filter fun f => !decide (f.Resolvable m.relations) := by
  rw [filter_fieldsOf]
  simp only [Bool.not_eq_true', decide_eq_false_iff_not]
  rfl

theorem filterMap_drops_eq_map (relations : List Relation) (fs : List Field) :
    (fs.filterMap fun f => match f.resolve relations with
      | .ok _ => none
      | .error reason => some (f.dropped reason)) =
      (fs.filter fun f => !decide (f.Resolvable relations)).map (·.dropReport) := by
  induction fs with
  | nil => rfl
  | cons f rest ih =>
    by_cases hf : f.Resolvable relations
    · obtain ⟨d, hd⟩ := (f.resolvable_iff relations).mp hf
      simp only [List.filterMap_cons, hd, ih, List.filter_cons, hf, decide_true, Bool.not_true,
        Bool.false_eq_true, ↓reduceIte]
    · obtain ⟨reason, hr, hreport⟩ := Field.resolve_of_not_resolvable hf
      simp only [List.filterMap_cons, hr, hreport, ih, List.filter_cons, hf, decide_false,
        Bool.not_false, ↓reduceIte, List.map_cons]

/-- The reports on a collection are those due on its records without a place. -/
theorem dropsOf_eq_map (m : DataModel) (c : String) :
    m.dropsOf c = (m.unresolvableOf c).map (·.dropReport) := by
  rw [unresolvableOf_eq_filter]
  exact filterMap_drops_eq_map m.relations (m.fieldsOf c)

/-- A field record of a collection is either resolved or reported. -/
theorem length_fieldsOf (m : DataModel) (c : String) :
    (m.fieldsOf c).length = (m.definitionsOf c).length + (m.dropsOf c).length := by
  have hdefs : (m.resolvableOf c).length = (m.definitionsOf c).length :=
    ((m.forall₂_definitionsOf_iff c _).mpr rfl).length_eq
  calc
    (m.fieldsOf c).length = (m.resolvableOf c).length + (m.unresolvableOf c).length := by
      rw [resolvableOf_eq_filter, unresolvableOf_eq_filter]
      exact List.length_eq_length_filter_add _
    _ = (m.definitionsOf c).length + (m.dropsOf c).length := by
      rw [hdefs, dropsOf_eq_map, List.length_map]

theorem exists_collection_append_iff (seen : List Collection) (r : Collection) (c : String) :
    (∃ e ∈ seen ++ [r], e.collection = c) ↔ (∃ e ∈ seen, e.collection = c) ∨ r.collection = c := by
  simp only [List.mem_append, List.mem_singleton, or_and_right, exists_or, exists_eq_left]

/-- The field records of a collection that was not listed before come on top of the others. -/
theorem length_listed_append (m : DataModel) {seen : List Collection} {r : Collection}
    (hr : ¬∃ e ∈ seen, e.collection = r.collection) :
    (m.fields.filter fun f => ∃ e ∈ seen ++ [r], e.collection = f.collection).length =
      (m.fields.filter fun f => ∃ e ∈ seen, e.collection = f.collection).length +
        (m.fieldsOf r.collection).length := by
  simp only [exists_collection_append_iff]
  -- The two parts are apart because no field record is both of an old and of the new collection.
  rw [List.length_eq_length_filter_add fun f : Field =>
    decide (∃ e ∈ seen, e.collection = f.collection), List.filter_filter, List.filter_filter]
  congr 2
  · apply List.filter_congr
    intro f _
    rw [← Bool.decide_and, decide_eq_decide]
    exact and_iff_left_of_imp Or.inl
  · apply List.filter_congr
    intro f _
    rw [Bool.eq_iff_iff]
    simp only [Bool.and_eq_true, Bool.not_eq_true', decide_eq_false_iff_not, decide_eq_true_eq,
      beq_iff_eq]
    constructor
    · rintro ⟨hn, hf | hf⟩
      · exact absurd hf hn
      · exact hf.symm
    · intro hf
      rw [hf]
      exact ⟨hr, Or.inr rfl⟩

/-- A further record adds its own reports at the end. -/
theorem reports_append_singleton (m : DataModel) (earlier rs : List Collection) (r : Collection) :
    m.reports earlier (rs ++ [r]) = m.reports earlier rs ++ m.reportsOn (earlier ++ rs) r := by
  induction rs generalizing earlier with
  | nil => simp [reports]
  | cons s rest ih => simp [reports, ih]

end DataModel

/-- Of reports that all have one message, the others are none. -/
theorem countP_message {events : List Event} {message : String}
    (h : ∀ e ∈ events, e.message = message) (other : String) :
    events.countP (·.message == other) = if other = message then events.length else 0 := by
  split
  · rename_i ho
    rw [List.countP_eq_length]
    intro e he
    rw [h e he, ho, beq_self_eq_true]
  · rename_i ho
    rw [List.countP_eq_zero]
    intro e he
    rw [h e he, beq_iff_eq]
    exact Ne.symm ho

theorem DataModel.countP_message_dropsOf (m : DataModel) (c message : String) :
    (m.dropsOf c).countP (·.message == message) =
      if message = "Dropping field" then (m.dropsOf c).length else 0 := by
  apply countP_message
  rw [m.dropsOf_eq_map, List.forall_mem_map]
  intro f _
  rfl

theorem insertEntry_perm {identifier : String} (c : CollectionDefinition)
    {entries : List (String × CollectionDefinition)} (h : entries.lookup identifier = none) :
    (insertEntry identifier c entries).Perm ((identifier, c) :: entries) := by
  induction entries with
  | nil => exact .refl _
  | cons entry rest ih =>
    obtain ⟨key, value⟩ := entry
    have hne : (identifier == key) = false := by
      by_contra hk
      rw [Bool.not_eq_false] at hk
      simp [List.lookup_cons, hk] at h
    have hrest : rest.lookup identifier = none := by
      simpa only [List.lookup_cons, hne] using h
    unfold insertEntry
    split
    · exact .refl _
    · split
      · exact ((ih hrest).cons _).trans (.swap _ _ _)
      -- The place of an equal key would be taken over, but the key is free.
      · rename_i hlt hgt
        have heq := String.le_antisymm (String.not_lt.mp hgt) (String.not_lt.mp hlt)
        simp [heq] at hne

namespace Built

/-- What has been done when the collection records `seen` have been taken in. -/
structure Accounts (m : DataModel) (seen : List Collection) (b : Built) : Prop where
  taken : ∀ c, b.schema.contains c = true ↔ ∃ r ∈ seen, r.collection = c
  events : b.events = m.reports [] seen
  records : seen.length =
    b.schema.size + b.events.countP (·.message == "Skipping duplicate collection")
  fields : (m.fields.filter fun f => ∃ r ∈ seen, r.collection = f.collection).length =
    (b.schema.entries.flatMap (·.2.fields)).length +
      b.events.countP (·.message == "Dropping field")

/-- A further record of an identifier is reported as a duplicate. -/
theorem Accounts.duplicate {m : DataModel} {seen : List Collection} {b : Built}
    (h : Accounts m seen b) {r : Collection} (hr : ∃ e ∈ seen, e.collection = r.collection) :
    Accounts m (seen ++ [r])
      { b with events := b.events ++ [.duplicateCollection r.collection] } := by
  have hsame (c : String) :
      (∃ e ∈ seen ++ [r], e.collection = c) ↔ ∃ e ∈ seen, e.collection = c := by
    rw [DataModel.exists_collection_append_iff]
    apply or_iff_left_of_imp
    rintro rfl
    exact hr
  refine ⟨?_, ?_, ?_, ?_⟩
  · intro c
    rw [hsame]
    exact h.taken c
  · rw [DataModel.reports_append_singleton, DataModel.reportsOn, List.nil_append, if_pos hr,
      ← h.events]
  · have hrec := h.records
    have hone : [Event.duplicateCollection r.collection].countP
        (·.message == "Skipping duplicate collection") = 1 := rfl
    rw [List.countP_append, hone, List.length_append, List.length_singleton]
    change _ = b.schema.size + _
    omega
  · have hfields := h.fields
    simp only [hsame]
    rw [List.countP_append, ← Nat.add_assoc, ← hfields]
    rfl

/-- The first record of an identifier gets a collection, and its field records are resolved or
reported. -/
theorem Accounts.first {m : DataModel} {seen : List Collection} {b : Built}
    (h : Accounts m seen b) (naming : Naming) {r : Collection}
    (hr : ¬∃ e ∈ seen, e.collection = r.collection) :
    Accounts m (seen ++ [r])
      ⟨b.schema.insert r.collection (m.define naming r), b.events ++ m.dropsOf r.collection⟩ := by
  -- Nothing is replaced: the schema has just the identifiers seen so far.
  have hfree : b.schema.get? r.collection = none := by
    have hn := mt (h.taken r.collection).mp hr
    simpa [Schema.contains] using hn
  have hperm : (b.schema.insert r.collection (m.define naming r)).entries.Perm
      ((r.collection, m.define naming r) :: b.schema.entries) := insertEntry_perm _ hfree
  refine ⟨?_, ?_, ?_, ?_⟩
  · intro c
    have ht := h.taken c
    unfold Schema.contains at ht ⊢
    rw [Schema.get?_insert, DataModel.exists_collection_append_iff, ← ht]
    split
    · rename_i hc
      simp [hc]
    · rename_i hc
      simp [Ne.symm hc]
  · rw [DataModel.reports_append_singleton, DataModel.reportsOn, List.nil_append, if_neg hr,
      ← h.events, DataModel.dropsOf_eq_map]
  · have hrec := h.records
    have hdrops : (m.dropsOf r.collection).countP (·.message == "Skipping duplicate collection") =
        0 := by
      rw [DataModel.countP_message_dropsOf, if_neg (by decide)]
    have hsize : (b.schema.insert r.collection (m.define naming r)).size = b.schema.size + 1 :=
      hperm.length_eq
    rw [List.countP_append, hdrops, List.length_append, List.length_singleton, hsize]
    omega
  · have hfields := h.fields
    have hdrops : (m.dropsOf r.collection).countP (·.message == "Dropping field") =
        (m.dropsOf r.collection).length := by
      rw [DataModel.countP_message_dropsOf, if_pos rfl]
    have hentries :
        ((b.schema.insert r.collection (m.define naming r)).entries.flatMap (·.2.fields)).length =
          (m.definitionsOf r.collection).length +
            (b.schema.entries.flatMap (·.2.fields)).length := by
      rw [(hperm.flatMap_right _).length_eq, List.flatMap_cons, List.length_append]
      rfl
    have hlisted := m.length_listed_append hr
    have hsum := m.length_fieldsOf r.collection
    rw [List.countP_append, hdrops, hentries, hlisted, h.fields, hsum]
    omega

/-- One more collection record is accounted for. -/
theorem Accounts.addCollection {m : DataModel} {seen : List Collection} {b : Built}
    (h : Accounts m seen b) (naming : Naming) (r : Collection) :
    Accounts m (seen ++ [r]) (b.addCollection m naming r) := by
  unfold Built.addCollection
  by_cases hr : ∃ e ∈ seen, e.collection = r.collection
  · rw [if_pos ((h.taken _).mpr hr)]
    exact h.duplicate hr
  · rw [if_neg (mt (h.taken _).mp hr)]
    exact h.first naming hr

/-- So are any number of them, one after the other. -/
theorem Accounts.foldl {m : DataModel} {seen : List Collection} {b : Built}
    (h : Accounts m seen b) (naming : Naming) (rs : List Collection) :
    Accounts m (seen ++ rs) (rs.foldl (Built.addCollection m naming) b) := by
  -- The account is of the records before the ones to come, so it moves on with each of them.
  induction rs generalizing seen b with
  | nil => simpa using h
  | cons r rest ih =>
    have hnext := ih (h.addCollection naming r)
    rwa [List.append_assoc, List.singleton_append] at hnext

theorem accounts_empty (m : DataModel) : Accounts m [] ⟨.empty, []⟩ where
  taken c := by simp [Schema.contains, Schema.get?, Schema.empty]
  events := rfl
  records := rfl
  fields := by simp [Schema.empty]

def empties (b : Built) : List String := (b.schema.entries.filter (·.2.fields.isEmpty)).map (·.1)

theorem pairwise_empties (b : Built) : b.empties.Pairwise (· < ·) :=
  List.pairwise_map.mpr (b.schema.ascending.filter _)

theorem events_finish (b : Built) :
    b.finish.events = b.events ++ b.empties.map .emptyCollection ++
      [.builtSchema b.finish.schema.size] := by
  unfold finish empties
  rw [List.map_map]
  rfl

/-- A collection is kept or reported as empty. -/
theorem size_add_length_empties (b : Built) :
    b.finish.schema.size + b.empties.length = b.schema.size := by
  have h := List.length_eq_length_filter_add (l := b.schema.entries) fun e => e.2.fields.isEmpty
  unfold empties
  rw [List.length_map]
  change (b.schema.entries.filter fun e => !e.2.fields.isEmpty).length + _ = _
  unfold Schema.size
  omega

/-- Collections without fields have none to lose. -/
theorem flatMap_fields_finish (b : Built) :
    b.finish.schema.entries.flatMap (·.2.fields) = b.schema.entries.flatMap (·.2.fields) := by
  change (b.schema.entries.filter fun e => !e.2.fields.isEmpty).flatMap _ = _
  induction b.schema.entries with
  | nil => rfl
  | cons e rest ih =>
    rw [List.filter_cons]
    split
    · rw [List.flatMap_cons, List.flatMap_cons, ih]
    · rename_i he
      have hnil : e.2.fields = [] := by simpa using he
      rw [ih, List.flatMap_cons, hnil, List.nil_append]

end Built

namespace DataModel

/-- What there is when all records have been taken in, before collections without fields go. -/
def taken (m : DataModel) (naming : Naming) : Built :=
  m.collections.foldl (Built.addCollection m naming) ⟨.empty, []⟩

/-- When all records are taken in, all are accounted for. -/
theorem accounts_taken (m : DataModel) (naming : Naming) :
    Built.Accounts m m.collections (m.taken naming) :=
  (Built.accounts_empty m).foldl naming m.collections

/-- A collection is left without fields when it is listed and none of its field records has a place
in the schema. -/
theorem mem_empties_taken_iff (m : DataModel) (naming : Naming) (c : String) :
    c ∈ (m.taken naming).empties ↔
      (∃ r ∈ m.collections, r.collection = c) ∧ m.resolvableOf c = [] := by
  have hget : (m.taken naming).schema.get? c =
      (m.collections.find? (·.collection == c)).map (m.define naming) := by
    unfold taken
    rw [Built.get?_foldl_addCollection]
    rfl
  have hdefs : m.resolvableOf c = [] ↔ m.definitionsOf c = [] := by
    have hlen := ((m.forall₂_definitionsOf_iff c _).mpr rfl).length_eq
    rw [← List.length_eq_zero_iff, hlen, List.length_eq_zero_iff]
  have hmem : c ∈ (m.taken naming).empties ↔
      ∃ d, (m.taken naming).schema.get? c = some d ∧ d.fields = [] := by
    unfold Built.empties
    simp [Schema.get?_eq_some_iff_mem]
  -- Whichever record of the identifier comes first, its fields are those of the identifier.
  rw [hmem, hget, hdefs]
  constructor
  · rintro ⟨d, hd, hn⟩
    obtain ⟨r, hr, rfl⟩ := Option.map_eq_some_iff.mp hd
    have hc : r.collection = c := by simpa using List.find?_some hr
    refine ⟨⟨r, List.mem_of_find?_eq_some hr, hc⟩, ?_⟩
    rw [← hc]
    exact hn
  · rintro ⟨⟨r, hr, hc⟩, hn⟩
    have hfound : (m.collections.find? (·.collection == c)).isSome = true :=
      List.find?_isSome.mpr ⟨r, hr, by simpa using hc⟩
    obtain ⟨s, hs⟩ := Option.isSome_iff_exists.mp hfound
    have hsc : s.collection = c := by simpa using List.find?_some hs
    refine ⟨m.define naming s, by rw [hs, Option.map_some], ?_⟩
    change m.definitionsOf s.collection = []
    rw [hsc, hn]

/-- Taking in records reports duplicates and dropped fields only. -/
theorem message_of_mem_reports {m : DataModel} {earlier rs : List Collection} {e : Event}
    (he : e ∈ m.reports earlier rs) :
    e.message = "Skipping duplicate collection" ∨ e.message = "Dropping field" := by
  induction rs generalizing earlier with
  | nil => cases he
  | cons r rest ih =>
    rcases List.mem_append.mp he with he | he
    · unfold reportsOn at he
      split at he
      · rw [List.mem_singleton.mp he]
        exact Or.inl rfl
      · obtain ⟨f, -, rfl⟩ := List.mem_map.mp he
        exact Or.inr rfl
    · exact ih he

/-- How often a message is reported, by the stages of building. -/
theorem countP_message_events_build (m : DataModel) (naming : Naming) (message : String) :
    (m.build naming).events.countP (·.message == message) =
      (m.taken naming).events.countP (·.message == message) +
        (if message = "Dropping empty collection" then (m.taken naming).empties.length else 0) +
        if message = "Built schema" then 1 else 0 := by
  change (m.taken naming).finish.events.countP _ = _
  have hempties : ∀ e ∈ (m.taken naming).empties.map Event.emptyCollection,
      e.message = "Dropping empty collection" := by
    rw [List.forall_mem_map]
    intro c _
    rfl
  have hbuilt : ∀ e ∈ [Event.builtSchema (m.taken naming).finish.schema.size],
      e.message = "Built schema" := List.forall_mem_singleton.mpr rfl
  rw [Built.events_finish, List.countP_append, List.countP_append, countP_message hempties,
    countP_message hbuilt, List.length_map, List.length_singleton]

theorem collection_of_mem_reports {m : DataModel} {earlier rs : List Collection} {e : Event}
    (he : e ∈ m.reports earlier rs) {c : String} (hc : ("collection", c) ∈ e.details) :
    ∃ r ∈ rs, r.collection = c := by
  induction rs generalizing earlier with
  | nil => cases he
  | cons r rest ih =>
    rcases List.mem_append.mp he with he | he
    · refine ⟨r, List.mem_cons_self, ?_⟩
      unfold reportsOn at he
      split at he
      · rw [List.mem_singleton.mp he] at hc
        simpa [Event.details, eq_comm] using hc
      · obtain ⟨f, hf, rfl⟩ := List.mem_map.mp he
        have hfc : f.collection = r.collection := by
          have hmem := (List.mem_filter.mp hf).2
          simp only [decide_eq_true_eq] at hmem
          exact hmem.1
        have hcf : c = f.collection := by simpa [Field.dropReport, Event.details] using hc
        rw [hcf, hfc]
    · obtain ⟨s, hs, hsc⟩ := ih he
      exact ⟨s, List.mem_cons_of_mem _ hs, hsc⟩

/-- Only listed collections are reported on. -/
theorem collection_of_mem_events_build {m : DataModel} {naming : Naming} {e : Event}
    (he : e ∈ (m.build naming).events) {c : String} (hc : ("collection", c) ∈ e.details) :
    ∃ r ∈ m.collections, r.collection = c := by
  change e ∈ (m.taken naming).finish.events at he
  rw [Built.events_finish, (m.accounts_taken naming).events] at he
  rcases List.mem_append.mp he with he | he
  · rcases List.mem_append.mp he with he | he
    · exact collection_of_mem_reports he hc
    · obtain ⟨d, hd, rfl⟩ := List.mem_map.mp he
      have hcd : c = d := by simpa [Event.details] using hc
      rw [hcd]
      exact ((m.mem_empties_taken_iff naming d).mp hd).1
  · rw [List.mem_singleton.mp he] at hc
    simp [Event.details] at hc

/-- Building a schema reports, in this order: for each collection record that it is a duplicate or
which of its field records have no place in the schema, in ascending order the collections that are
left without fields, and the size of the schema. So collection records are as many as the
collections of the schema and the reports on others, field records of listed collections are as many
as the fields of the schema and the reports on others, and no report is about a collection that is
not listed. -/
theorem events_build_account_for_records (m : DataModel) (naming : Naming) :
    (∃ empties : List String, empties.Pairwise (· < ·) ∧
      (∀ c, c ∈ empties ↔ (∃ r ∈ m.collections, r.collection = c) ∧ m.resolvableOf c = []) ∧
      (m.build naming).events = m.reports [] m.collections ++ empties.map .emptyCollection ++
        [.builtSchema (m.build naming).schema.size]) ∧
    m.collections.length = (m.build naming).schema.size +
      (m.build naming).events.countP (·.message == "Skipping duplicate collection") +
      (m.build naming).events.countP (·.message == "Dropping empty collection") ∧
    (m.fields.filter fun f => ∃ r ∈ m.collections, r.collection = f.collection).length =
      ((m.build naming).schema.entries.flatMap (·.2.fields)).length +
      (m.build naming).events.countP (·.message == "Dropping field") ∧
    ∀ e ∈ (m.build naming).events, ∀ c, ("collection", c) ∈ e.details →
      ∃ r ∈ m.collections, r.collection = c := by
  have h := m.accounts_taken naming
  refine ⟨⟨(m.taken naming).empties, Built.pairwise_empties _, m.mem_empties_taken_iff naming, ?_⟩,
    ?_, ?_, ?_⟩
  · rw [← h.events]
    exact Built.events_finish _
  -- An empty collection keeps its place until all records are taken in, so it is counted there.
  · have hsize : (m.build naming).schema.size + (m.taken naming).empties.length =
        (m.taken naming).schema.size := Built.size_add_length_empties _
    have hempty :
        (m.taken naming).events.countP (·.message == "Dropping empty collection") = 0 := by
      rw [List.countP_eq_zero, h.events]
      intro e he
      rcases message_of_mem_reports he with hm | hm
      · rw [hm]
        decide
      · rw [hm]
        decide
    have hrec := h.records
    simp only [countP_message_events_build, hempty, ↓reduceIte, String.reduceEq]
    omega
  · have hfields : (m.build naming).schema.entries.flatMap (·.2.fields) =
        (m.taken naming).schema.entries.flatMap (·.2.fields) := Built.flatMap_fields_finish _
    simp only [countP_message_events_build, hfields, String.reduceEq, ↓reduceIte, Nat.add_zero]
    exact h.fields
  · intro e he c hc
    exact collection_of_mem_events_build he hc

def folders : DataModel where
  collections :=
    [{ collection := "folder" }, { collection := "directus_users" }, { collection := "folder" },
      { collection := "archive" }]
  fields :=
    [{ collection := "folder", field := "blob", kind := "binary" },
      { collection := "directus_users", field := "id", kind := "uuid" },
      ({ collection := "directus_users", field := "search", kind := "string" } : Field).generated,
      { collection := "trash", field := "blob", kind := "binary" }]

theorem events_build_account_for_folders :
    (folders.build .database).events =
      [.droppedField "folder" "blob" "binary" .unmappedType,
        .droppedField "directus_users" "search" "string" .generatedSystemColumn,
        .duplicateCollection "folder", .emptyCollection "archive", .emptyCollection "folder",
        .builtSchema 1] ∧
    .emptyCollection "archive" ∈ (folders.build .database).events ∧
    ∃ r ∈ folders.collections, r.collection = "archive" := by
  have he : .emptyCollection "archive" ∈ (folders.build .database).events := by decide
  refine ⟨rfl, he, ?_⟩
  exact (events_build_account_for_records folders .database).2.2.2 _ he "archive" (by decide)

end DataModel

end ContentTypes
