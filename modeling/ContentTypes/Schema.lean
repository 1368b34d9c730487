import ContentTypes.RelationKind
import ContentTypes.TypeExpr

/-!
The normalized schema: collections with resolved fields, kept in ascending order of their
identifiers. The order is part of the type, so two schemas with the same collections are equal.
-/

namespace ContentTypes

structure FieldDefinition where
  name : String
  type : TypeExpr
  nullable : Bool
  primaryKey : Bool
  relation : RelationKind
  deriving Inhabited

structure CollectionDefinition where
  /-- The name of the interface. -/
  name : String
  system : Bool
  singleton : Bool
  /-- The fields in input order. -/
  fields : List FieldDefinition
  deriving Inhabited

namespace CollectionDefinition

def primaryKey? (c : CollectionDefinition) : Option FieldDefinition := c.fields.find? (·.primaryKey)

def field? (c : CollectionDefinition) (name : String) : Option FieldDefinition :=
  c.fields.find? (·.name == name)

end CollectionDefinition

structure Schema where
  entries : List (String × CollectionDefinition)
  ascending : entries.Pairwise fun a b => a.1 < b.1

namespace Schema

def empty : Schema := ⟨[], .nil⟩

instance : Inhabited Schema := ⟨empty⟩

def get? (s : Schema) (identifier : String) : Option CollectionDefinition :=
  s.entries.lookup identifier

def contains (s : Schema) (identifier : String) : Bool := (s.get? identifier).isSome

def size (s : Schema) : Nat := s.entries.length

def isEmpty (s : Schema) : Bool := s.entries.isEmpty

def identifiers (s : Schema) : List String := s.entries.map (·.1)

end Schema

/-- Puts an entry in front of the first one with a greater identifier. An identifier that is taken
keeps what it has. -/
def insertEntry (identifier : String) (c : CollectionDefinition) :
    List (String × CollectionDefinition) → List (String × CollectionDefinition)
  | [] => [(identifier, c)]
  | (key, value) :: rest =>
    if identifier < key then (identifier, c) :: (key, value) :: rest
    else if key < identifier then (key, value) :: insertEntry identifier c rest
    else (key, value) :: rest

/-- An entry is put in front of greater ones only. -/
theorem mem_insertEntry {e : String × CollectionDefinition} {identifier : String}
    {c : CollectionDefinition} {entries : List (String × CollectionDefinition)}
    (h : e ∈ insertEntry identifier c entries) : e = (identifier, c) ∨ e ∈ entries := by
  induction entries with
  | nil => simpa [insertEntry] using h
  | cons entry rest ih =>
    obtain ⟨key, value⟩ := entry
    simp only [insertEntry] at h
    split at h
    · simpa using h
    · split at h
      · rcases List.mem_cons.1 h with h | h
        · exact Or.inr (by simp [h])
        · exact (ih h).imp_right (List.mem_cons_of_mem _)
      · exact Or.inr h

/-- Identifiers ascend when an entry has been put in. -/
theorem ascending_insertEntry (identifier : String) (c : CollectionDefinition)
    {entries : List (String × CollectionDefinition)}
    (h : entries.Pairwise fun a b => a.1 < b.1) :
    (insertEntry identifier c entries).Pairwise fun a b => a.1 < b.1 := by
  induction entries with
  | nil => simp [insertEntry]
  | cons entry rest ih =>
    obtain ⟨key, value⟩ := entry
    obtain ⟨hhead, htail⟩ := List.pairwise_cons.1 h
    simp only [insertEntry]
    split
    · rename_i hlt
      refine List.pairwise_cons.2 ⟨fun e he => ?_, h⟩
      rcases List.mem_cons.1 he with rfl | he
      · exact hlt
      · exact String.lt_trans hlt (hhead e he)
    · split
      · rename_i hgt
        refine List.pairwise_cons.2 ⟨fun e he => ?_, ih htail⟩
        rcases mem_insertEntry he with rfl | he
        · exact hgt
        · exact hhead e he
      · exact h

/-- A key that is smaller than all others is not in the list. -/
theorem lookup_of_forall_lt {k : String} {entries : List (String × CollectionDefinition)}
    (h : ∀ e ∈ entries, k < e.1) : entries.lookup k = none := by
  rw [List.lookup_eq_none_iff]
  intro e he
  have hne : k ≠ e.1 := fun heq => String.lt_irrefl k (heq ▸ h e he)
  simpa using hne

/-- An identifier that is free gets the entry; every other one keeps what it has. -/
theorem lookup_insertEntry {entries : List (String × CollectionDefinition)}
    (h : entries.Pairwise fun a b => a.1 < b.1) (k : String) (c : CollectionDefinition)
    (identifier : String) :
    (insertEntry k c entries).lookup identifier =
      if identifier = k then some ((entries.lookup k).getD c) else entries.lookup identifier := by
  induction entries with
  | nil =>
    by_cases hk : identifier = k <;> simp [insertEntry, List.lookup_cons, hk, beq_false_of_ne]
  | cons entry rest ih =>
    obtain ⟨key, value⟩ := entry
    obtain ⟨hhead, htail⟩ := List.pairwise_cons.1 h
    simp only [insertEntry]
    split
    · rename_i hlt
      have habsent : List.lookup k ((key, value) :: rest) = none :=
        lookup_of_forall_lt fun e he => by
          rcases List.mem_cons.1 he with rfl | he
          · exact hlt
          · exact String.lt_trans hlt (hhead e he)
      rw [habsent]
      by_cases hk : identifier = k <;> simp [List.lookup_cons, hk, beq_false_of_ne]
    · split
      · rename_i hgt
        have hne : k ≠ key := fun heq => String.lt_irrefl k (heq ▸ hgt)
        by_cases hkey : identifier = key
        · subst hkey
          simp [List.lookup_cons_self, Ne.symm hne]
        · simp [List.lookup_cons, hkey, hne, ih htail, beq_false_of_ne]
      · rename_i hlt hgt
        have heq : k = key := String.le_antisymm (String.not_lt.1 hgt) (String.not_lt.1 hlt)
        subst heq
        by_cases hk : identifier = k <;> simp [List.lookup_cons, hk, beq_false_of_ne]

theorem lookup_filter_of_ascending {entries : List (String × CollectionDefinition)}
    (h : entries.Pairwise fun a b => a.1 < b.1) (keep : CollectionDefinition → Bool)
    (identifier : String) :
    (entries.filter fun e => keep e.2).lookup identifier =
      (entries.lookup identifier).filter keep := by
  induction entries with
  | nil => rfl
  | cons entry rest ih =>
    obtain ⟨key, value⟩ := entry
    obtain ⟨hhead, htail⟩ := List.pairwise_cons.1 h
    by_cases hkey : identifier = key
    · subst hkey
      have habsent : rest.lookup identifier = none := lookup_of_forall_lt hhead
      by_cases hv : keep value <;> simp [hv, ih htail, habsent, Option.filter]
    · by_cases hv : keep value <;>
        simp [List.lookup_cons, hv, ih htail, hkey, beq_false_of_ne]

namespace Schema

def insert (s : Schema) (identifier : String) (c : CollectionDefinition) : Schema :=
  ⟨insertEntry identifier c s.entries, ascending_insertEntry identifier c s.ascending⟩

def filter (s : Schema) (keep : CollectionDefinition → Bool) : Schema :=
  ⟨s.entries.filter fun e => keep e.2, s.ascending.filter _⟩

/-- An identifier that is free gets the collection; every other one keeps what it has. -/
theorem get?_insert (s : Schema) (k : String) (c : CollectionDefinition) (identifier : String) :
    (s.insert k c).get? identifier =
      if identifier = k then some ((s.get? k).getD c) else s.get? identifier :=
  lookup_insertEntry s.ascending k c identifier

/-- A collection is kept if it passes the test. -/
theorem get?_filter (s : Schema) (keep : CollectionDefinition → Bool) (identifier : String) :
    (s.filter keep).get? identifier = (s.get? identifier).filter keep :=
  lookup_filter_of_ascending s.ascending keep identifier

@[ext] theorem ext {s t : Schema} (h : s.entries = t.entries) : s = t := by
  cases s; cases t; simp_all

end Schema

end ContentTypes
