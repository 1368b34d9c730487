import ContentTypes.Build
import Mathlib.Data.List.Forall2

/-! The type and the relation that a field record stands for, said without the functions that find
them. `Field.HasType` and `Field.HasRelation` give the rules, each with the rules that go before it.
Resolving a record finds what they say and refuses exactly the records that they leave out. -/

namespace ContentTypes

def FirstWith {α : Type} (p : α → Prop) (l : List α) (a : α) : Prop :=
  ∃ before after, l = before ++ a :: after ∧ p a ∧ ∀ b ∈ before, ¬p b

theorem FirstWith.holds {α : Type} {p : α → Prop} {l : List α} {a : α} (h : FirstWith p l a) :
    p a := by
  obtain ⟨_, _, _, ha, _⟩ := h
  exact ha

/-- A search by a test finds the first element with the property tested. -/
theorem find?_eq_some_iff_firstWith {α : Type} {p : α → Bool} {q : α → Prop}
    (hpq : ∀ a, p a = true ↔ q a) (l : List α) (a : α) :
    l.find? p = some a ↔ FirstWith q l a := by
  rw [List.find?_eq_some_iff_append]
  constructor
  · rintro ⟨ha, before, after, hl, hb⟩
    refine ⟨before, after, hl, (hpq a).mp ha, ?_⟩
    intro b hmem hq
    have hn := hb b hmem
    rw [(hpq b).mpr hq] at hn
    exact absurd hn (by decide)
  · rintro ⟨before, after, hl, ha, hb⟩
    refine ⟨(hpq a).mpr ha, before, after, hl, ?_⟩
    intro b hmem
    have hn : ¬p b = true := fun hp => hb b hmem ((hpq b).mp hp)
    simpa using hn

theorem find?_eq_none_iff_forall {α : Type} {p : α → Bool} {q : α → Prop}
    (hpq : ∀ a, p a = true ↔ q a) (l : List α) :
    l.find? p = none ↔ ∀ a ∈ l, ¬q a := by
  simp only [List.find?_eq_none, hpq]

namespace Relation

def IsKey (r : Relation) (collection field : String) : Prop :=
  r.collection = collection ∧ r.field = field

def PointsBack (r : Relation) (collection field : String) : Prop :=
  ∃ data, r.metadata = some data ∧ data.oneCollection = some collection ∧
    data.oneField = some field

def Allows (r : Relation) (targets : List String) : Prop :=
  ∃ data, r.metadata = some data ∧ data.oneAllowedCollections = some targets

theorem pointsBackTo_iff (r : Relation) (collection field : String) :
    r.pointsBackTo collection field = true ↔ r.PointsBack collection field := by
  unfold pointsBackTo PointsBack
  cases r.metadata <;> simp

theorem allowedCollections_eq_some_iff (r : Relation) (targets : List String) :
    r.allowedCollections = some targets ↔ r.Allows targets := by
  unfold allowedCollections Allows
  cases r.metadata <;> simp

theorem allowedCollections_eq_none_iff (r : Relation) :
    r.allowedCollections = none ↔ ∀ targets, ¬r.Allows targets := by
  simp only [← allowedCollections_eq_some_iff]
  exact Option.eq_none_iff_forall_ne_some

end Relation

/-- The relation of a foreign key is the first record that describes it. -/
theorem forwardRelation?_eq_some_iff (relations : List Relation) (collection field : String)
    (r : Relation) :
    forwardRelation? relations collection field = some r ↔
      FirstWith (·.IsKey collection field) relations r :=
  find?_eq_some_iff_firstWith (by simp [Relation.IsKey]) relations r

theorem forwardRelation?_eq_none_iff (relations : List Relation) (collection field : String) :
    forwardRelation? relations collection field = none ↔
      ∀ r ∈ relations, ¬r.IsKey collection field :=
  find?_eq_none_iff_forall (by simp [Relation.IsKey]) relations

/-- The relation that a field lists is the first record that points back to it. -/
theorem reverseRelation?_eq_some_iff (relations : List Relation) (collection field : String)
    (r : Relation) :
    reverseRelation? relations collection field = some r ↔
      FirstWith (·.PointsBack collection field) relations r :=
  find?_eq_some_iff_firstWith (fun r => r.pointsBackTo_iff collection field) relations r

namespace Field

/-- The record is a primary key without a column, tagged as one side of a relation. -/
def IsListingKey (f : Field) : Prop :=
  f.kind = "alias" ∧ f.isPrimaryKey = true ∧
    ∃ data, f.metadata = some data ∧ ∃ tag ∈ data.special, tag ∈ ["o2m", "m2m", "m2a"]

/-- The record lists the rows of `target`, which the first relation pointing back to it names. -/
def Lists (f : Field) (relations : List Relation) (target : String) : Prop :=
  f.IsListingKey ∧ ∃ r, FirstWith (·.PointsBack f.collection f.field) relations r ∧
    r.collection = target

/-- The record is the discriminator beside a foreign key `item` that allows `targets`. -/
def Discriminates (f : Field) (relations : List Relation) (targets : List String) : Prop :=
  f.field = "collection" ∧
    ∃ r, FirstWith (·.IsKey f.collection "item") relations r ∧ r.Allows targets

/-- The type of a record's values. A discriminator goes before a key that lists rows, and that
before the type of the tag. -/
inductive HasType (f : Field) (relations : List Relation) : TypeExpr → Prop
  | discriminator {targets : List String} (hd : f.Discriminates relations targets) :
    HasType f relations (.literals targets)
  | listing {target : String} (hd : ∀ targets, ¬f.Discriminates relations targets)
    (hl : f.Lists relations target) : HasType f relations (.array (.named "unknown"))
  | primitive {type : TypeExpr} (hd : ∀ targets, ¬f.Discriminates relations targets)
    (hl : ∀ target, ¬f.Lists relations target) (hp : primitiveType f.kind = some type) :
    HasType f relations type

/-- The relation of a record. A key that lists rows goes before the foreign key of its own name,
where a single target goes before a list of allowed ones. -/
inductive HasRelation (f : Field) (relations : List Relation) : RelationKind → Prop
  | listing {target : String} (hl : f.Lists relations target) :
    HasRelation f relations (.oneToMany target)
  | single {r : Relation} {target : String} (hl : ∀ target, ¬f.Lists relations target)
    (hr : FirstWith (·.IsKey f.collection f.field) relations r)
    (ht : r.relatedCollection = some target) : HasRelation f relations (.manyToOne target)
  | several {r : Relation} {targets : List String} (hl : ∀ target, ¬f.Lists relations target)
    (hr : FirstWith (·.IsKey f.collection f.field) relations r)
    (ht : r.relatedCollection = none) (ha : r.Allows targets) :
    HasRelation f relations (.manyToAny targets)
  | bare {r : Relation} (hl : ∀ target, ¬f.Lists relations target)
    (hr : FirstWith (·.IsKey f.collection f.field) relations r)
    (ht : r.relatedCollection = none) (ha : ∀ targets, ¬r.Allows targets) :
    HasRelation f relations .none
  | absent (hl : ∀ target, ¬f.Lists relations target)
    (hr : ∀ r ∈ relations, ¬r.IsKey f.collection f.field) : HasRelation f relations .none

/-- The record has a place in the schema: it is no generated column of a system collection, and
some rule gives it a type. -/
def Resolvable (f : Field) (relations : List Relation) : Prop :=
  ¬("directus_".toList <+: f.collection.toList ∧ f.isGenerated = true) ∧
    ∃ type, f.HasType relations type

/-- The definition says what the record says, with the type and the relation of the rules. -/
structure Defines (f : Field) (relations : List Relation) (d : FieldDefinition) : Prop where
  name : d.name = f.field
  nullable : d.nullable = f.isNullable
  primaryKey : d.primaryKey = f.isPrimaryKey
  type : f.HasType relations d.type
  relation : f.HasRelation relations d.relation

theorem isListingKey_iff (f : Field) :
    (f.isRelationAlias && f.isPrimaryKey) = true ↔ f.IsListingKey := by
  unfold isRelationAlias hasSpecial IsListingKey
  cases f.metadata with
  | none => simp
  | some data =>
    simp only [Option.any_some, List.contains_eq_mem, Bool.and_eq_true, beq_iff_eq,
      Bool.or_eq_true, decide_eq_true_eq, Option.some.injEq, List.mem_cons, List.not_mem_nil,
      or_false]
    constructor
    · rintro ⟨⟨hk, ht⟩, hp⟩
      refine ⟨hk, hp, data, rfl, ?_⟩
      rcases ht with (ht | ht) | ht
      · exact ⟨_, ht, Or.inl rfl⟩
      · exact ⟨_, ht, Or.inr (Or.inl rfl)⟩
      · exact ⟨_, ht, Or.inr (Or.inr rfl)⟩
    · rintro ⟨hk, hp, _, rfl, tag, ht, rfl | rfl | rfl⟩
      · exact ⟨⟨hk, Or.inl (Or.inl ht)⟩, hp⟩
      · exact ⟨⟨hk, Or.inl (Or.inr ht)⟩, hp⟩
      · exact ⟨⟨hk, Or.inr ht⟩, hp⟩

/-- The targets of a discriminator are those of the key beside it. -/
theorem discriminatorTargets_eq_some_iff (f : Field) (relations : List Relation)
    (targets : List String) :
    f.discriminatorTargets relations = some targets ↔ f.Discriminates relations targets := by
  unfold discriminatorTargets Discriminates
  rw [show discriminatorField = "collection" from rfl, show itemField = "item" from rfl]
  split
  · rename_i hf
    simp only [hf, true_and, Option.bind_eq_some_iff, forwardRelation?_eq_some_iff,
      Relation.allowedCollections_eq_some_iff]
  · rename_i hf
    simp [hf]

theorem discriminatorTargets_eq_none_iff (f : Field) (relations : List Relation) :
    f.discriminatorTargets relations = none ↔ ∀ targets, ¬f.Discriminates relations targets := by
  simp only [← discriminatorTargets_eq_some_iff]
  exact Option.eq_none_iff_forall_ne_some

/-- A foreign key refers to rows, but never lists them. -/
theorem forwardKind_ne_oneToMany (r : Relation) (target : String) :
    r.forwardKind ≠ .oneToMany target := by
  unfold Relation.forwardKind
  split <;> simp

/-- A field lists rows exactly under the rule for keys without a column. -/
theorem lists_iff (f : Field) (relations : List Relation) (target : String) :
    f.relationKind relations = .oneToMany target ↔ f.Lists relations target := by
  unfold Lists
  simp only [← isListingKey_iff, ← reverseRelation?_eq_some_iff]
  unfold relationKind
  -- Only a listing key is looked for on the other side, and a foreign key lists nothing.
  cases f.isRelationAlias && f.isPrimaryKey with
  | false =>
    simp only [Bool.false_eq_true, ↓reduceIte, false_and, iff_false]
    split
    · exact forwardKind_ne_oneToMany _ _
    · simp
  | true =>
    simp only [↓reduceIte, true_and]
    cases reverseRelation? relations f.collection f.field with
    | some r => simp
    | none =>
      simp only [reduceCtorEq, false_and, exists_false, iff_false]
      split
      · exact forwardKind_ne_oneToMany _ _
      · simp

/-- A record that lists no rows has the relation of the foreign key of its own name. -/
theorem relationKind_of_not_lists {f : Field} {relations : List Relation}
    (hl : ∀ target, ¬f.Lists relations target) :
    f.relationKind relations =
      match forwardRelation? relations f.collection f.field with
      | some r => r.forwardKind
      | none => .none := by
  simp only [← lists_iff] at hl
  unfold relationKind at hl ⊢
  cases ha : f.isRelationAlias && f.isPrimaryKey with
  | false => rfl
  | true =>
    cases hr : reverseRelation? relations f.collection f.field with
    | none => rfl
    | some r =>
      have hn := hl r.collection
      simp only [ha, hr, ↓reduceIte, not_true_eq_false] at hn

theorem hasRelation_relationKind (f : Field) (relations : List Relation) :
    f.HasRelation relations (f.relationKind relations) := by
  by_cases hl : ∃ target, f.Lists relations target
  · obtain ⟨target, ht⟩ := hl
    rw [(lists_iff f relations target).mpr ht]
    exact .listing ht
  · have hn : ∀ target, ¬f.Lists relations target := fun target ht => hl ⟨target, ht⟩
    rw [relationKind_of_not_lists hn]
    -- What is left follows the foreign key: none, a single target, several of them, or neither.
    cases hf : forwardRelation? relations f.collection f.field with
    | none => exact .absent hn ((forwardRelation?_eq_none_iff _ _ _).mp hf)
    | some r =>
      have hr := (forwardRelation?_eq_some_iff _ _ _ _).mp hf
      simp only [Relation.forwardKind]
      cases ht : r.relatedCollection with
      | some target => exact .single hn hr ht
      | none =>
        cases ha : r.allowedCollections with
        | some targets => exact .several hn hr ht ((r.allowedCollections_eq_some_iff _).mp ha)
        | none => exact .bare hn hr ht (r.allowedCollections_eq_none_iff.mp ha)

/-- The rules leave a record no choice of its relation. -/
theorem relationKind_eq_of_hasRelation {f : Field} {relations : List Relation} {k : RelationKind}
    (h : f.HasRelation relations k) : f.relationKind relations = k := by
  cases h with
  | listing hl => exact (lists_iff _ _ _).mpr hl
  | single hl hr ht =>
    rw [relationKind_of_not_lists hl, (forwardRelation?_eq_some_iff _ _ _ _).mpr hr]
    simp only [Relation.forwardKind, ht]
  | several hl hr ht ha =>
    rw [relationKind_of_not_lists hl, (forwardRelation?_eq_some_iff _ _ _ _).mpr hr]
    simp only [Relation.forwardKind, ht, (Relation.allowedCollections_eq_some_iff _ _).mpr ha]
  | bare hl hr ht ha =>
    rw [relationKind_of_not_lists hl, (forwardRelation?_eq_some_iff _ _ _ _).mpr hr]
    simp only [Relation.forwardKind, ht, (Relation.allowedCollections_eq_none_iff _).mpr ha]
  | absent hl hr =>
    rw [relationKind_of_not_lists hl, (forwardRelation?_eq_none_iff _ _ _).mpr hr]

/-- The relation of a field is the one that the rules give it. -/
theorem relationKind_eq_iff (f : Field) (relations : List Relation) (k : RelationKind) :
    f.relationKind relations = k ↔ f.HasRelation relations k := by
  constructor
  · rintro rfl
    exact hasRelation_relationKind f relations
  · exact relationKind_eq_of_hasRelation

/-- A field that lists rows has no type of its own. -/
theorem primitiveType_of_lists {f : Field} {relations : List Relation} {target : String}
    (h : f.Lists relations target) : primitiveType f.kind = none := by
  rw [h.1.1]
  rfl

/-- The type of a field is the one that the rules give it. -/
theorem valueType?_eq_some_iff (f : Field) (relations : List Relation) (type : TypeExpr) :
    f.valueType? relations = some type ↔ f.HasType relations type := by
  unfold valueType?
  constructor
  · intro h
    cases hd : f.discriminatorTargets relations with
    | some targets =>
      rw [hd] at h
      obtain rfl := Option.some.inj h
      exact .discriminator ((discriminatorTargets_eq_some_iff _ _ _).mp hd)
    | none =>
      have hn := (discriminatorTargets_eq_none_iff _ _).mp hd
      simp only [hd] at h
      split at h
      · rename_i target hk
        have hl := (lists_iff _ _ _).mp hk
        -- The type of the tag would go first here, but a key that lists rows has none.
        rw [primitiveType_of_lists hl] at h
        obtain rfl := Option.some.inj h
        exact .listing hn hl
      · rename_i hk
        exact .primitive hn (fun target hl => hk target ((lists_iff _ _ _).mpr hl)) h
  · intro h
    cases h with
    | discriminator hd => rw [(discriminatorTargets_eq_some_iff _ _ _).mpr hd]
    | listing hd hl =>
      simp only [(discriminatorTargets_eq_none_iff _ _).mpr hd, (lists_iff _ _ _).mpr hl,
        primitiveType_of_lists hl]
      rfl
    | primitive hd hl hp =>
      simp only [(discriminatorTargets_eq_none_iff _ _).mpr hd]
      split
      · rename_i target hk
        exact absurd ((lists_iff _ _ _).mp hk) (hl target)
      · exact hp

/-- A definition is found exactly for the records with a place in the schema, and it is the one that
the rules describe. -/
theorem resolve_eq_ok_iff (f : Field) (relations : List Relation) (d : FieldDefinition) :
    f.resolve relations = .ok d ↔ f.Resolvable relations ∧ f.Defines relations d := by
  have hs : isSystem f.collection = true ↔ "directus_".toList <+: f.collection.toList :=
    List.isPrefixOf_iff_prefix
  unfold resolve Resolvable
  rw [← hs, ← Bool.and_eq_true]
  cases isSystem f.collection && f.isGenerated with
  -- A generated column of a system collection is left out before its type is looked at.
  | true => simp
  | false =>
    simp only [Bool.false_eq_true, ↓reduceIte, not_false_eq_true, true_and,
      ← valueType?_eq_some_iff]
    constructor
    · intro h
      split at h
      · cases h
      · rename_i type ht
        obtain rfl := Except.ok.inj h
        exact ⟨⟨type, ht⟩, rfl, rfl, rfl, (valueType?_eq_some_iff _ _ _).mp ht,
          hasRelation_relationKind f relations⟩
    · rintro ⟨-, h⟩
      rw [(valueType?_eq_some_iff _ _ _).mpr h.type]
      -- Both sides are records, so it is enough that their parts agree.
      cases d
      simp only [Except.ok.injEq, FieldDefinition.mk.injEq, true_and]
      exact ⟨h.name.symm, h.nullable.symm, h.primaryKey.symm,
        (relationKind_eq_iff _ _ _).mpr h.relation⟩

theorem toOption_resolve_eq_some_iff (f : Field) (relations : List Relation)
    (d : FieldDefinition) :
    (f.resolve relations).toOption = some d ↔ f.Resolvable relations ∧ f.Defines relations d := by
  rw [← resolve_eq_ok_iff]
  cases f.resolve relations <;> simp [Except.toOption]

/-- A record has a place exactly when it resolves. -/
theorem resolvable_iff (f : Field) (relations : List Relation) :
    f.Resolvable relations ↔ ∃ d, f.resolve relations = .ok d := by
  constructor
  · intro h
    obtain ⟨hg, type, ht⟩ := h
    exact ⟨_, (resolve_eq_ok_iff f relations ⟨f.field, type, f.isNullable, f.isPrimaryKey,
      f.relationKind relations⟩).mpr ⟨⟨hg, type, ht⟩, rfl, rfl, rfl, ht,
      hasRelation_relationKind f relations⟩⟩
  · rintro ⟨d, h⟩
    exact ((resolve_eq_ok_iff f relations d).mp h).1

instance (f : Field) (relations : List Relation) : Decidable (f.Resolvable relations) :=
  decidable_of_iff ((f.resolve relations).isOk = true) <| by
    rw [resolvable_iff]
    cases f.resolve relations <;> simp [Except.isOk, Except.toBool]

/-- Resolving a record reads the relations through three searches only, one of them just for a
discriminator. -/
theorem resolve_congr {f : Field} {relations relations' : List Relation}
    (hf : forwardRelation? relations f.collection f.field =
      forwardRelation? relations' f.collection f.field)
    (hr : reverseRelation? relations f.collection f.field =
      reverseRelation? relations' f.collection f.field)
    (hi : f.field = discriminatorField → forwardRelation? relations f.collection itemField =
      forwardRelation? relations' f.collection itemField) :
    f.resolve relations = f.resolve relations' := by
  have hk : f.relationKind relations = f.relationKind relations' := by
    unfold relationKind
    rw [hf, hr]
  have hd : f.discriminatorTargets relations = f.discriminatorTargets relations' := by
    unfold discriminatorTargets
    split
    · rename_i hn
      rw [hi hn]
    · rfl
  unfold resolve valueType?
  rw [hk, hd]

end Field

end ContentTypes
