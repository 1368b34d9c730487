import ContentTypes.Proofs.RecordRoundTrip
import Mathlib.Data.List.Induction
import Mathlib.Data.List.Nodup

/-! What a record reads of a JSON object. Members are read in the order of their keys, and a key
that the record does not know is passed over, so all that counts is the value that each of its slots
finds under its key. -/

namespace ContentTypes

open Json (Document Items Members)

namespace Json

/-! ### Members by key -/

/-- The value of a key. Of a key that occurs again the last value counts. -/
def member? (members : List (String × Json)) (key : String) : Option Json :=
  members.reverse.lookup key

def memberOrNull (members : List (String × Json)) (key : String) : Json :=
  (member? members key).getD .null

def met? (members : List (String × Json)) (key : String) : Option Document :=
  (member? members key).map Document.ofJson

section

variable {α β : Type} {ms : List (String × α)}

theorem lookup_map_snd (f : α → β) (ms : List (String × α)) (key : String) :
    (ms.map fun m => (m.1, f m.2)).lookup key = (ms.lookup key).map f := by
  induction ms with
  | nil => rfl
  | cons m rest ih =>
    obtain ⟨k, a⟩ := m
    by_cases hk : key = k
    · subst hk
      simp only [List.map_cons, List.lookup_cons_self, Option.map_some]
    · simp only [List.map_cons, List.lookup_cons, beq_false_of_ne hk, ih]

theorem ascending_insertMember (key : String) (value : α)
    (h : ms.Pairwise fun a b => a.1 < b.1) :
    (insertMember key value ms).Pairwise fun a b => a.1 < b.1 := by
  induction ms with
  | nil => exact List.pairwise_singleton _ _
  | cons m rest ih =>
    obtain ⟨k, a⟩ := m
    obtain ⟨hhead, htail⟩ := List.pairwise_cons.mp h
    simp only [insertMember]
    split
    · rename_i hlt
      refine List.pairwise_cons.mpr ⟨?_, h⟩
      intro x hx
      rcases List.mem_cons.mp hx with rfl | hx
      · exact hlt
      · exact String.lt_trans hlt (hhead x hx)
    · split
      · rename_i hgt
        refine List.pairwise_cons.mpr ⟨?_, ih htail⟩
        intro x hx
        rcases mem_insertMember hx with rfl | hx
        · exact hgt
        · exact hhead x hx
      · rename_i hlt hgt
        have heq : key = k := String.le_antisymm (String.not_lt.mp hgt) (String.not_lt.mp hlt)
        subst heq
        exact List.pairwise_cons.mpr ⟨hhead, htail⟩

/-- A member that is put in shows under its key and nowhere else. -/
theorem lookup_insertMember (key : String) (value : α) (ms : List (String × α)) (other : String) :
    (insertMember key value ms).lookup other =
      if other = key then some value else ms.lookup other := by
  induction ms with
  | nil => by_cases hk : other = key <;> simp [insertMember, List.lookup_cons, hk, beq_false_of_ne]
  | cons m rest ih =>
    obtain ⟨k, a⟩ := m
    simp only [insertMember]
    split
    · by_cases hk : other = key <;> simp [List.lookup_cons, hk, beq_false_of_ne]
    · split
      · rename_i hgt
        have hne : k ≠ key := fun heq => String.lt_irrefl k (heq ▸ hgt)
        by_cases hk : other = k
        · subst hk
          simp [List.lookup_cons_self, hne]
        · simp [List.lookup_cons, ih, hk, beq_false_of_ne]
      · rename_i hlt hgt
        have heq : key = k := String.le_antisymm (String.not_lt.mp hgt) (String.not_lt.mp hlt)
        subst heq
        by_cases hk : other = key <;> simp [List.lookup_cons, hk, beq_false_of_ne]

/-- Sorting by key keeps the last value of each key. -/
theorem sortMembers_spec (ms : List (String × α)) :
    ((sortMembers ms).Pairwise fun a b => a.1 < b.1) ∧
      ∀ key, (sortMembers ms).lookup key = ms.reverse.lookup key := by
  induction ms using List.reverseRecOn with
  | nil => exact ⟨.nil, fun _ => rfl⟩
  | append_singleton rest m ih =>
    have hstep : sortMembers (rest ++ [m]) = insertMember m.1 m.2 (sortMembers rest) := by
      unfold sortMembers
      rw [List.foldl_append]
      rfl
    rw [hstep]
    refine ⟨ascending_insertMember _ _ ih.1, ?_⟩
    intro key
    rw [lookup_insertMember, ih.2, List.reverse_append, List.reverse_singleton,
      List.singleton_append]
    by_cases hk : key = m.1
    · rw [if_pos hk, hk, List.lookup_cons_self]
    · rw [if_neg hk, List.lookup_cons, beq_false_of_ne hk]

theorem mem_iff_lookup (h : ms.Pairwise fun a b => a.1 < b.1) (key : String) (value : α) :
    (key, value) ∈ ms ↔ ms.lookup key = some value := by
  induction ms with
  | nil => simp
  | cons m rest ih =>
    obtain ⟨k, a⟩ := m
    obtain ⟨hhead, htail⟩ := List.pairwise_cons.mp h
    by_cases hk : key = k
    · subst hk
      -- Keys ascend, so the rest has no further member of this one.
      have hn : (key, value) ∉ rest := fun hm => String.lt_irrefl key (hhead _ hm)
      simp [List.lookup_cons_self, hn, eq_comm]
    · simp [List.lookup_cons, beq_false_of_ne hk, hk, ih htail]

/-- Lists that ascend by key are equal if they have the same members. -/
theorem eq_of_ascending {k l : List (String × α)} (hk : k.Pairwise fun a b => a.1 < b.1)
    (hl : l.Pairwise fun a b => a.1 < b.1) (h : ∀ m, m ∈ k ↔ m ∈ l) : k = l := by
  have hne : ∀ {a b : String × α}, a.1 < b.1 → a ≠ b := by
    rintro a b hlt rfl
    exact String.lt_irrefl _ hlt
  have hperm : k.Perm l := (List.perm_ext_iff_of_nodup (hk.imp hne) (hl.imp hne)).mpr h
  apply List.Perm.eq_of_pairwise _ hk hl hperm
  intro a b _ _ hab hba
  exact absurd (String.lt_trans hab hba) (String.lt_irrefl _)

end

theorem ofJson_object (ms : List (String × Json)) :
    Document.ofJson (.object ms) =
      .object false
        (Members.ofList (sortMembers (ms.map fun m => (m.1, Document.ofJson m.2)))) := by
  simp only [Document.ofJson, View.memberDocumentsOf_eq_map]

/-- The members of an object as they are met: by key, and each key with its last value. -/
theorem lookup_sortMembers_ofJson (ms : List (String × Json)) (key : String) :
    (sortMembers (ms.map fun m => (m.1, Document.ofJson m.2))).lookup key = met? ms key := by
  rw [(sortMembers_spec _).2, ← List.map_reverse, lookup_map_snd]
  rfl

theorem skip_ofList {ds : List (String × Document)} (h : ∀ m ∈ ds, m.2.skip = .ok ()) :
    (Members.ofList ds).skip = .ok () := by
  induction ds with
  | nil => rfl
  | cons m rest ih =>
    rw [List.forall_mem_cons] at h
    rw [Members.ofList, Members.skip, h.1]
    exact ih h.2

mutual

/-- A value is no text, so nothing can be wrong with it for someone who passes over it. -/
theorem skip_ofJson : ∀ j : Json, (Document.ofJson j).skip = .ok ()
  | .null => rfl
  | .bool _ => rfl
  | .number _ => rfl
  | .string _ => rfl
  | .array items => skip_items items.length items
  | .object members =>
    skip_ofList fun m hm => skip_members members m (mem_of_mem_sortMembers hm)

theorem skip_items (total : Nat) : ∀ js : List Json,
    (Items.ofList total (documentsOf js)).skip = .ok ()
  | [] => rfl
  | j :: rest => by
    simp only [documentsOf, Items.ofList, Items.skip, skip_ofJson j, skip_items total rest]

theorem skip_members : ∀ ms : List (String × Json), ∀ m ∈ memberDocumentsOf ms, m.2.skip = .ok ()
  | [] => nofun
  | (key, j) :: rest => by
    simp only [memberDocumentsOf, List.forall_mem_cons]
    exact ⟨skip_ofJson j, skip_members rest⟩

end

end Json

/-! ### Slots by key -/

namespace Slot

variable {α : Type} (slot : Slot α) (get : String → Option Document)

def take (a : α) : Decoded α :=
  match get slot.key with
  | none => .ok a
  | some d => slot.put a d

end Slot

namespace Shape

variable {α : Type}

def fill (get : String → Option Document) : List (Slot α) → α → Decoded α
  | [], a => .ok a
  | slot :: rest, a =>
    match slot.take get a with
    | .error e => .error e
    | .ok b => fill get rest b

def byKey (s : Shape α) : List (Slot α) := sortBy (fun a b => decide (a.key ≤ b.key)) s.slots

/-- The members that slots find under their keys. -/
def found (get : String → Option Document) (slots : List (Slot α)) : List (String × Document) :=
  slots.filterMap fun slot => (get slot.key).map (slot.key, ·)

theorem mem_byKey (s : Shape α) (slot : Slot α) : slot ∈ s.byKey ↔ slot ∈ s.slots :=
  (sortBy_perm _ _).mem_iff

theorem nodup_byKey {s : Shape α} (h : (s.slots.map (·.key)).Nodup) :
    (s.byKey.map (·.key)).Nodup :=
  ((sortBy_perm _ s.slots).map _).nodup_iff.mpr h

/-- The slots of a record with distinct keys ascend by key. -/
theorem ascending_byKey {s : Shape α} (h : (s.slots.map (·.key)).Nodup) :
    s.byKey.Pairwise fun a b => a.key < b.key := by
  have hsorted : s.byKey.Pairwise fun a b => a.key ≤ b.key := by
    refine (pairwise_sortBy ?_ ?_ s.slots).imp of_decide_eq_true
    · intro a b c hab hbc
      exact decide_eq_true (String.le_trans (of_decide_eq_true hab) (of_decide_eq_true hbc))
    · intro a b
      simpa using String.le_total a.key b.key
  have hdistinct : s.byKey.Pairwise fun a b => a.key ≠ b.key := List.pairwise_map.mp (nodup_byKey h)
  exact (hsorted.and hdistinct).imp fun hab =>
    String.not_le.mp fun hba => hab.2 (String.le_antisymm hab.1 hba)

section

variable {slots : List (Slot α)} (hkeys : (slots.map (·.key)).Nodup)

include hkeys in
theorem find?_eq_some_of_mem {slot : Slot α} (h : slot ∈ slots) :
    slots.find? (·.key == slot.key) = some slot := by
  cases hf : slots.find? (·.key == slot.key) with
  | none => exact absurd (beq_self_eq_true _) (List.find?_eq_none.mp hf slot h)
  | some other =>
    have hkey : other.key = slot.key := by simpa using List.find?_some hf
    rw [List.inj_on_of_nodup_map hkeys (List.mem_of_find?_eq_some hf) h hkey]

/-- Members with other keys are passed over. -/
theorem readMembers_filter {ds : List (String × Document)} (hskip : ∀ m ∈ ds, m.2.skip = .ok ())
    (a : α) (seen : List String) :
    readMembers slots (Members.ofList ds) a seen =
      readMembers slots (Members.ofList
        (ds.filter fun m => (slots.find? (·.key == m.1)).isSome)) a seen := by
  induction ds generalizing a seen with
  | nil => rfl
  | cons m rest ih =>
    rw [List.forall_mem_cons] at hskip
    cases hf : slots.find? (·.key == m.1) with
    | none =>
      rw [List.filter_cons_of_neg (by simp only [hf, Option.isSome_none, Bool.false_eq_true,
        not_false_eq_true]), ← ih hskip.2]
      simp only [Members.ofList, readMembers, hf, hskip.1]
    | some slot =>
      rw [List.filter_cons_of_pos (by simp only [hf, Option.isSome_some])]
      simp only [Members.ofList, readMembers, hf, ih hskip.2]

include hkeys in
/-- Where members are those that slots find, each is read into its slot. -/
theorem readMembers_found (get : String → Option Document) {rest : List (Slot α)}
    (hrest : ∀ slot ∈ rest, slot ∈ slots) (hdistinct : (rest.map (·.key)).Nodup) (a : α)
    {seen : List String} (hseen : ∀ slot ∈ rest, slot.key ∉ seen) :
    readMembers slots (Members.ofList (found get rest)) a seen =
      (fill get rest a).map fun b => (b, ((found get rest).map (·.1)).reverse ++ seen) := by
  -- Each slot read leaves its key among those seen, and no later slot has that key.
  induction rest generalizing a seen with
  | nil => rfl
  | cons slot rest ih =>
    rw [List.forall_mem_cons] at hrest hseen
    obtain ⟨hnew, hdistinct⟩ := List.nodup_cons.mp hdistinct
    cases hd : get slot.key with
    | none =>
      have hfound : found get (slot :: rest) = found get rest := by
        simp only [found, List.filterMap_cons, hd, Option.map_none]
      simp only [hfound, fill, Slot.take, hd, ih hrest.2 hdistinct a hseen.2]
    | some d =>
      have hfound : found get (slot :: rest) = (slot.key, d) :: found get rest := by
        simp only [found, List.filterMap_cons, hd, Option.map_some]
      have hslot := find?_eq_some_of_mem hkeys hrest.1
      have hunseen : seen.contains slot.key = false := by simpa using hseen.1
      simp only [hfound, fill, Slot.take, hd, Members.ofList, readMembers, hslot, hunseen,
        Bool.false_eq_true, if_false]
      cases slot.put a d with
      | error e => rfl
      | ok b =>
        have hothers : ∀ other ∈ rest, other.key ∉ slot.key :: seen := by
          intro other ho hmem
          rcases List.mem_cons.mp hmem with heq | hmem
          · exact hnew (List.mem_map.mpr ⟨other, ho, heq⟩)
          · exact hseen.2 other ho hmem
        simp only [ih hrest.2 hdistinct b hothers, List.map_cons, List.reverse_cons,
          List.append_assoc, List.singleton_append]

end

/-- Of members by key those that a record knows are the ones its slots find. -/
theorem filter_eq_found {s : Shape α} (hkeys : (s.slots.map (·.key)).Nodup)
    {ds : List (String × Document)} (hds : ds.Pairwise fun a b => a.1 < b.1) :
    ds.filter (fun m => (s.slots.find? (·.key == m.1)).isSome) =
      found (fun key => ds.lookup key) s.byKey := by
  have hfound : (found (fun key => ds.lookup key) s.byKey).Pairwise fun a b => a.1 < b.1 := by
    refine List.pairwise_filterMap.mpr ((ascending_byKey hkeys).imp ?_)
    intro slot other hlt m hm n hn
    obtain ⟨-, -, rfl⟩ := Option.map_eq_some_iff.mp hm
    obtain ⟨-, -, rfl⟩ := Option.map_eq_some_iff.mp hn
    exact hlt
  -- Both lists ascend by key, so it is enough that they have the same members.
  apply Json.eq_of_ascending (hds.filter _) hfound
  rintro ⟨key, d⟩
  unfold found
  simp only [List.mem_filter, Json.mem_iff_lookup hds, List.find?_isSome, beq_iff_eq,
    List.mem_filterMap, mem_byKey, Option.map_eq_some_iff, Prod.mk.injEq]
  constructor
  · rintro ⟨hd, slot, hslot, rfl⟩
    exact ⟨slot, hslot, d, hd, rfl, rfl⟩
  · rintro ⟨slot, hslot, _, hd, rfl, rfl⟩
    exact ⟨hd, slot, hslot, rfl⟩

theorem mem_keys_found {get : String → Option Document} {slots : List (Slot α)} {slot : Slot α}
    (h : slot ∈ slots) :
    slot.key ∈ (found get slots).map (·.1) ↔ (get slot.key).isSome = true := by
  unfold found
  simp only [List.mem_map, List.mem_filterMap, Option.map_eq_some_iff, Option.isSome_iff_exists]
  constructor
  · rintro ⟨_, ⟨other, -, d, hd, rfl⟩, hkey⟩
    exact ⟨d, hkey ▸ hd⟩
  · rintro ⟨d, hd⟩
    exact ⟨(slot.key, d), ⟨slot, h, d, hd, rfl⟩, rfl⟩

/-- Reading a value by key fills the slots in the order of their keys. -/
theorem readMembers_ofJson {s : Shape α} (hkeys : (s.slots.map (·.key)).Nodup)
    (ms : List (String × Json)) (a : α) :
    readMembers s.slots (Members.ofList (Json.sortMembers
        (ms.map fun m => (m.1, Document.ofJson m.2)))) a [] =
      (fill (Json.met? ms) s.byKey a).map
        fun b => (b, ((found (Json.met? ms) s.byKey).map (·.1)).reverse) := by
  have hskip : ∀ m ∈ Json.sortMembers (ms.map fun m => (m.1, Document.ofJson m.2)),
      m.2.skip = .ok () := by
    intro m hm
    obtain ⟨n, -, rfl⟩ := List.mem_map.mp (Json.mem_of_mem_sortMembers hm)
    exact Json.skip_ofJson n.2
  have hsorted := (Json.sortMembers_spec (ms.map fun m => (m.1, Document.ofJson m.2))).1
  have hknown : ∀ slot ∈ s.byKey, slot ∈ s.slots := fun slot => (mem_byKey s slot).mp
  have hnone : ∀ slot ∈ s.byKey, slot.key ∉ ([] : List String) := fun _ _ => List.not_mem_nil
  -- What is left of the members without unknown keys is what the slots find, slot by slot.
  rw [readMembers_filter hskip, filter_eq_found hkeys hsorted]
  simp only [Json.lookup_sortMembers_ofJson]
  rw [readMembers_found hkeys _ hknown (nodup_byKey hkeys) a hnone]
  simp only [List.append_nil]

/-- A slot is missed exactly when its key has no value. -/
theorem missing?_found (s : Shape α) (ms : List (String × Json)) :
    missing? s.slots ((found (Json.met? ms) s.byKey).map (·.1)).reverse =
      s.slots.find? fun slot => slot.required && (Json.member? ms slot.key).isNone := by
  unfold missing?
  rw [← List.head?_filter, ← List.head?_filter]
  apply congrArg List.head?
  apply List.filter_congr
  intro slot hslot
  have hmem : slot.key ∈ (found (Json.met? ms) s.byKey).map (·.1) ↔
      (Json.met? ms slot.key).isSome = true := mem_keys_found ((mem_byKey s slot).mpr hslot)
  have hmet : (Json.met? ms slot.key).isSome = (Json.member? ms slot.key).isSome :=
    Option.isSome_map
  rw [hmet] at hmem
  cases hvalue : Json.member? ms slot.key with
  | none =>
    rw [hvalue] at hmem
    simp [hmem]
  | some j =>
    rw [hvalue] at hmem
    simp [hmem]

/-- An object decodes to what its slots make of the values under their keys, unless one that is
needed is missing. -/
theorem decoder_ofJson_object {s : Shape α} (hkeys : (s.slots.map (·.key)).Nodup)
    (ms : List (String × Json)) :
    s.decoder (Document.ofJson (.object ms)) =
      match fill (Json.met? ms) s.byKey s.initial with
      | .error e => .error e
      | .ok a =>
        match s.slots.find? fun slot => slot.required && (Json.member? ms slot.key).isNone with
        | some slot => .error (.mismatch (.missingField slot.key))
        | none => .ok a := by
  rw [Json.ofJson_object, decoder, readMembers_ofJson hkeys]
  cases fill (Json.met? ms) s.byKey s.initial with
  | error e => rfl
  | ok a =>
    cases hfind : s.slots.find? fun slot => slot.required && (Json.member? ms slot.key).isNone with
    | none => simp only [Except.map, missing?_found, hfind]
    | some slot => simp only [Except.map, missing?_found, hfind]

end Shape

end ContentTypes
