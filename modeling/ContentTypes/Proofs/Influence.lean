import ContentTypes.Proofs.SchemaContents

/-! How far a record reaches. A collection of a built schema hangs on the records that name it and
on no others. A relation record that comes or goes changes at most the definitions of the fields
that it names. -/

namespace ContentTypes

/-- A search sees only elements that pass, so lists that agree on these give the same. -/
theorem find?_eq_of_filter_eq {α : Type} {p q : α → Bool} (hpq : ∀ a, p a = true → q a = true)
    {l l' : List α} (h : l.filter q = l'.filter q) : l.find? p = l'.find? p := by
  -- The filter by `q` takes away nothing that `p` could find.
  have hand : (fun a => decide (q a = true ∧ p a = true)) = p := by
    funext a
    have ha := hpq a
    cases hp : p a <;> simp_all
  calc
    l.find? p = (l.filter q).find? p := by rw [List.find?_filter, hand]
    _ = (l'.filter q).find? p := by rw [h]
    _ = l'.find? p := by rw [List.find?_filter, hand]

theorem find?_append_cons_of_neg {α : Type} {p : α → Bool} {a : α} (ha : ¬p a = true)
    (before after : List α) :
    (before ++ a :: after).find? p = (before ++ after).find? p := by
  rw [List.find?_append, List.find?_append, List.find?_cons_of_neg ha]

/-- The relation record names the field record: as its foreign key, as the place that lists its
rows, or as the discriminator beside its foreign key `item`. -/
def Relation.Names (r : Relation) (f : Field) : Prop :=
  r.IsKey f.collection f.field ∨ r.PointsBack f.collection f.field ∨
    f.field = "collection" ∧ r.IsKey f.collection "item"

/-- A field record keeps its definition, or the reason why it has none, when a relation record that
does not name it comes or goes. -/
theorem Field.resolve_append_cons {f : Field} {r : Relation} (h : ¬r.Names f)
    (before after : List Relation) :
    f.resolve (before ++ r :: after) = f.resolve (before ++ after) := by
  unfold Relation.Names at h
  push Not at h
  obtain ⟨hkey, hback, hitem⟩ := h
  -- Each of the three searches passes over the record.
  apply resolve_congr
  · apply find?_append_cons_of_neg
    intro hr
    simp only [Bool.and_eq_true, beq_iff_eq] at hr
    exact hkey hr
  · apply find?_append_cons_of_neg
    intro hr
    exact hback ((r.pointsBackTo_iff _ _).mp hr)
  · intro hf
    apply find?_append_cons_of_neg
    intro hr
    simp only [Bool.and_eq_true, beq_iff_eq] at hr
    exact hitem hf hr

namespace DataModel

/-- Two data models hold the same about the collection `c`: its first record or none, its field
records, the relation records with a foreign key of it and those whose rows it lists, in the same
order each. -/
structure AgreeOn (m m' : DataModel) (c : String) : Prop where
  record : m.collections.find? (·.collection == c) = m'.collections.find? (·.collection == c)
  fields : m.fieldsOf c = m'.fieldsOf c
  foreignKeys : m.relations.filter (·.collection == c) = m'.relations.filter (·.collection == c)
  listings : m.relations.filter (fun r => r.metadata.any (·.oneCollection == some c)) =
    m'.relations.filter (fun r => r.metadata.any (·.oneCollection == some c))

section

variable {m m' : DataModel}

/-- Data models that agree on a collection have the same first relation for a foreign key of it. -/
theorem AgreeOn.forwardRelation?_eq {c : String} (h : m.AgreeOn m' c) (field : String) :
    forwardRelation? m.relations c field = forwardRelation? m'.relations c field := by
  refine find?_eq_of_filter_eq ?_ h.foreignKeys
  intro r hr
  exact (Bool.and_eq_true_iff.mp hr).1

/-- Data models that agree on a collection have the same first relation that a field of it lists. -/
theorem AgreeOn.reverseRelation?_eq {c : String} (h : m.AgreeOn m' c) (field : String) :
    reverseRelation? m.relations c field = reverseRelation? m'.relations c field := by
  refine find?_eq_of_filter_eq ?_ h.listings
  intro r hr
  obtain ⟨data, hdata, hc, -⟩ := (r.pointsBackTo_iff c field).mp hr
  rw [hdata, Option.any_some, hc, beq_self_eq_true]

/-- A field resolves alike in data models that agree on its collection. -/
theorem AgreeOn.resolve_eq {c : String} (h : m.AgreeOn m' c) {f : Field} (hf : f.collection = c) :
    f.resolve m.relations = f.resolve m'.relations := by
  subst hf
  exact Field.resolve_congr (h.forwardRelation?_eq _) (h.reverseRelation?_eq _)
    fun _ => h.forwardRelation?_eq _

/-- The schema has the same under an identifier when the first collection record is the same and
the same field records are resolved alike. -/
theorem get?_build_congr {c : String} (naming : Naming)
    (hrecord : m.collections.find? (·.collection == c) = m'.collections.find? (·.collection == c))
    (hfields : m.fieldsOf c = m'.fieldsOf c)
    (hresolve : ∀ f ∈ m.fieldsOf c, f.resolve m.relations = f.resolve m'.relations) :
    (m.build naming).schema.get? c = (m'.build naming).schema.get? c := by
  have hdefs : m.definitionsOf c = m'.definitionsOf c := by
    unfold definitionsOf
    rw [← hfields]
    apply List.filterMap_congr
    intro f hf
    rw [hresolve f hf]
  rw [get?_build, get?_build, ← hrecord]
  cases hr : m.collections.find? (·.collection == c) with
  | none => rfl
  | some r =>
    have hc : r.collection = c := by simpa using List.find?_some hr
    have hdefine : m.define naming r = m'.define naming r := by
      unfold define
      rw [hc, hdefs]
    rw [Option.map_some, Option.map_some, hdefine]

end

/-- Records only reach what they name. Two data models that hold the same about a collection have
the same collection in their schemas. A relation record that comes or goes, at any place of the
list, leaves every field record alone that it does not name, and every collection none of whose
field records it names. -/
theorem build_depends_on_names :
    (∀ (m m' : DataModel) (naming : Naming) (c : String), m.AgreeOn m' c →
      (m.build naming).schema.get? c = (m'.build naming).schema.get? c) ∧
    (∀ (before after : List Relation) (r : Relation) (f : Field), ¬r.Names f →
      f.resolve (before ++ r :: after) = f.resolve (before ++ after)) ∧
    ∀ (m : DataModel) (naming : Naming) (before after : List Relation) (r : Relation) (c : String),
      (∀ f ∈ m.fieldsOf c, ¬r.Names f) →
        ({ m with relations := before ++ r :: after }.build naming).schema.get? c =
          ({ m with relations := before ++ after }.build naming).schema.get? c := by
  refine ⟨?_, ?_, ?_⟩
  · intro m m' naming c h
    apply get?_build_congr naming h.record h.fields
    intro f hf
    exact h.resolve_eq (collection_of_mem_fieldsOf hf)
  · intro before after r f h
    exact Field.resolve_append_cons h before after
  · intro m naming before after r c h
    refine get?_build_congr naming rfl rfl ?_
    intro f hf
    exact Field.resolve_append_cons (h f hf) before after

def authorField : Field := { collection := "posts", field := "author", kind := "uuid" }

def commentRelation : Relation :=
  (Relation.manyToOne "comments" "post" "posts").withOneField "posts" "comments"

def posts : DataModel where
  collections := [{ collection := "posts" }, { collection := "comments" }]
  fields :=
    [(({ collection := "posts", field := "comments", kind := "alias" } : Field).withSpecial
        ["o2m"]).primaryKey,
      authorField,
      { collection := "comments", field := "text", kind := "text" }]
  relations :=
    [commentRelation, Relation.manyToOne "posts" "author" "directus_users"]

def taggedPosts : DataModel where
  collections := [{ collection := "tags" }, { collection := "posts" }]
  fields :=
    [{ collection := "tags", field := "post", kind := "integer" },
      (({ collection := "posts", field := "comments", kind := "alias" } : Field).withSpecial
        ["o2m"]).primaryKey,
      authorField]
  relations :=
    [Relation.manyToOne "tags" "post" "posts", Relation.manyToOne "posts" "author" "directus_users",
      commentRelation]

/-- The other records do not change what the two data models hold about posts. -/
theorem posts_agreeOn_taggedPosts : posts.AgreeOn taggedPosts "posts" where
  record := by decide
  fields := by decide
  foreignKeys := by decide
  listings := by decide

theorem commentRelation_not_names_authorField : ¬commentRelation.Names authorField := by
  rintro (h | ⟨data, hdata, -, hfield⟩ | h)
  · exact absurd h.1 (by decide)
  · obtain rfl := Option.some.inj hdata
    exact absurd hfield (by decide)
  · exact absurd h.1 (by decide)

/-- The posts are the same in both models, and their author hangs on no relation that lists
comments. -/
theorem build_depends_on_names_posts :
    posts.AgreeOn taggedPosts "posts" ∧
    (posts.build .pascalCase).schema.get? "posts" =
      (taggedPosts.build .pascalCase).schema.get? "posts" ∧
    ((posts.build .pascalCase).schema.get? "posts").isSome = true ∧
    ¬commentRelation.Names authorField ∧
    authorField.resolve (taggedPosts.relations ++ commentRelation :: posts.relations) =
      authorField.resolve (taggedPosts.relations ++ posts.relations) := by
  refine ⟨posts_agreeOn_taggedPosts, ?_, rfl, commentRelation_not_names_authorField, ?_⟩
  · exact build_depends_on_names.1 posts taggedPosts .pascalCase "posts" posts_agreeOn_taggedPosts
  · exact build_depends_on_names.2.1 taggedPosts.relations posts.relations commentRelation
      authorField commentRelation_not_names_authorField

end DataModel

end ContentTypes
