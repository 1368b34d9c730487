import ContentTypes.Proofs.ObjectReading
import Mathlib.Logic.Relation

/-! Which parts of a payload count. A record reads the keys that it knows, and an optional one that
is left out leaves what null would put there, so payloads that differ in other keys only, or in
whether an optional key is left out or null, decode to the same record or fail in the same way. -/

namespace ContentTypes

open Json (Document)

/-- The part of a value that is read: all of it, or of an object the values of the needed keys and
the parts of those of the optional keys. -/
inductive Outline where
  | whole
  | record (needed : List String) (optional : List (String × Outline))

/-- A change to an object that its outline takes no notice of: a key that is not in the outline
comes in with any value, an optional key that was left out comes in with null, or the value of an
optional key changes in such a way. -/
inductive Outline.Change : Outline → Json → Json → Prop
  | unread {needed : List String} {optional : List (String × Outline)}
      {before after : List (String × Json)} {key : String} (hneeded : key ∉ needed)
      (hoptional : optional.lookup key = none) (j : Json) :
      Change (.record needed optional) (.object (before ++ after))
        (.object (before ++ (key, j) :: after))
  | null {needed : List String} {optional : List (String × Outline)}
      {before after : List (String × Json)} {key : String} {o : Outline} (hneeded : key ∉ needed)
      (hoptional : optional.lookup key = some o) (habsent : ∀ m ∈ before ++ after, m.1 ≠ key) :
      Change (.record needed optional) (.object (before ++ after))
        (.object (before ++ (key, .null) :: after))
  | inside {needed : List String} {optional : List (String × Outline)}
      {before after : List (String × Json)} {key : String} {o : Outline} (hneeded : key ∉ needed)
      (hoptional : optional.lookup key = some o) {j k : Json} (h : Change o j k) :
      Change (.record needed optional) (.object (before ++ (key, j) :: after))
        (.object (before ++ (key, k) :: after))

/-- Two values agree on the part of them that is read: of two objects the needed keys have the same
values, and the optional ones values that agree, where a key that is left out counts as null. -/
inductive Outline.Agree : Outline → Json → Json → Prop
  | same (o : Outline) (j : Json) : Agree o j j
  | objects {needed : List String} {optional : List (String × Outline)}
      {ms ns : List (String × Json)}
      (hneeded : ∀ key ∈ needed, Json.member? ms key = Json.member? ns key)
      (hoptional : ∀ key o, optional.lookup key = some o →
        Agree o (Json.memberOrNull ms key) (Json.memberOrNull ns key)) :
      Agree (.record needed optional) (.object ms) (.object ns)

namespace Json

variable {before after : List (String × Json)} {key other : String}

/-- A further member counts for its own key, unless the key comes again. -/
theorem member?_insert (before after : List (String × Json)) (key other : String) (j : Json) :
    member? (before ++ (key, j) :: after) other =
      if other = key then some ((member? after key).getD j)
      else member? (before ++ after) other := by
  unfold member?
  simp only [List.reverse_append, List.reverse_cons, List.append_assoc, List.singleton_append,
    List.lookup_append]
  by_cases hk : other = key
  · subst hk
    rw [if_pos rfl, List.lookup_cons_self]
    cases after.reverse.lookup other <;> rfl
  · rw [if_neg hk, List.lookup_cons, beq_false_of_ne hk]

theorem member?_eq_none {ms : List (String × Json)} (h : ∀ m ∈ ms, m.1 ≠ key) :
    member? ms key = none := by
  unfold member?
  rw [List.lookup_eq_none_iff]
  intro m hm
  simpa using (h m (List.mem_reverse.mp hm)).symm

end Json

namespace Outline

/-- A change that an outline takes no notice of leaves two values that agree. -/
theorem Change.agree {o : Outline} {j k : Json} (h : o.Change j k) : o.Agree j k := by
  induction h with
  | @unread needed optional before after key hneeded hoptional j =>
    refine .objects ?_ ?_
    · intro other hother
      have hne : other ≠ key := fun heq => hneeded (heq ▸ hother)
      rw [Json.member?_insert, if_neg hne]
    · intro other o ho
      have hne : other ≠ key := by
        rintro rfl
        rw [hoptional] at ho
        cases ho
      unfold Json.memberOrNull
      rw [Json.member?_insert, if_neg hne]
      exact .same _ _
  | @null needed optional before after key o hneeded hoptional habsent =>
    refine .objects ?_ ?_
    · intro other hother
      have hne : other ≠ key := fun heq => hneeded (heq ▸ hother)
      rw [Json.member?_insert, if_neg hne]
    · intro other o' _
      unfold Json.memberOrNull
      rw [Json.member?_insert]
      split
      · -- The key was left out, so it counted as null before.
        rename_i heq
        have hafter : Json.member? after key = none :=
          Json.member?_eq_none fun m hm => habsent m (List.mem_append_right _ hm)
        rw [heq, Json.member?_eq_none habsent, hafter]
        exact .same _ _
      · exact .same _ _
  | @inside needed optional before after key o hneeded hoptional j k h ih =>
    refine .objects ?_ ?_
    · intro other hother
      have hne : other ≠ key := fun heq => hneeded (heq ▸ hother)
      rw [Json.member?_insert, Json.member?_insert, if_neg hne, if_neg hne]
    · intro other o' ho'
      unfold Json.memberOrNull
      rw [Json.member?_insert, Json.member?_insert]
      split
      · rename_i heq
        subst heq
        obtain rfl := Option.some.inj (hoptional.symm.trans ho')
        cases Json.member? after other with
        | none => exact ih
        | some last => exact .same _ _
      · exact .same _ _

end Outline

def Decoder.Sees {α : Type} (dec : Decoder α) (o : Outline) : Prop :=
  ∀ j k, o.Agree j k → dec.ofJson j = dec.ofJson k

section

variable {α : Type}

/-- What null puts into the slot is there already, if the slot can be left out. -/
def Slot.IsClear (slot : Slot α) (a : α) : Prop :=
  slot.required = false → slot.put a .null = .ok a

def Slot.Commute (slot other : Slot α) : Prop :=
  ∀ a b c d e, slot.put a d = .ok b → other.put a e = .ok c →
    ∃ r, slot.put c d = .ok r ∧ other.put b e = .ok r

/-- A record whose optional slots are each worth null until their key is read. -/
structure Shape.Tolerant (s : Shape α) : Prop where
  keys : (s.slots.map (·.key)).Nodup
  clear : ∀ slot ∈ s.slots, slot.IsClear s.initial
  commute : s.slots.Pairwise Slot.Commute

theorem map_eq_ok {β : Type} {x : Decoded β} {f : β → α} {a : α} :
    x.map f = .ok a ↔ ∃ v, x = .ok v ∧ f v = a := by
  cases x <;> simp [Except.map]

/-- Slots whose setters commute can be filled in either order. -/
theorem Slot.commute_of_set {β γ : Type} {key other : String} {required needed : Bool}
    {dec : Decoder β} {dec' : Decoder γ} {set : α → β → α} {set' : α → γ → α}
    (hset : ∀ a v w, set (set' a w) v = set' (set a v) w) :
    Slot.Commute ⟨key, required, fun a d => (dec d).map (set a)⟩
      ⟨other, needed, fun a d => (dec' d).map (set' a)⟩ := by
  intro a b c d e hb hc
  obtain ⟨v, hv, rfl⟩ := map_eq_ok.mp hb
  obtain ⟨w, hw, rfl⟩ := map_eq_ok.mp hc
  refine ⟨set (set' a w) v, ?_, ?_⟩
  · exact map_eq_ok.mpr ⟨v, hv, rfl⟩
  · exact map_eq_ok.mpr ⟨w, hw, (hset a v w).symm⟩

namespace Slot

variable {slot other : Slot α} {get : String → Option Document} {a b : α}

theorem Commute.symm (h : slot.Commute other) : other.Commute slot := by
  intro a b c d e hb hc
  obtain ⟨r, hslot, hother⟩ := h a c b e d hc hb
  exact ⟨r, hother, hslot⟩

/-- A slot that is clear stays so when another one is filled. -/
theorem Commute.isClear (h : slot.Commute other) {d : Document} (hput : slot.put a d = .ok b)
    (hclear : other.IsClear a) : other.IsClear b := by
  intro hrequired
  obtain ⟨r, hslot, hother⟩ := h a b a d .null hput (hclear hrequired)
  obtain rfl := Except.ok.inj (hslot.symm.trans hput)
  exact hother

theorem take_eq_ok (h : slot.take get a = .ok b) : b = a ∨ ∃ d, slot.put a d = .ok b := by
  unfold take at h
  split at h
  · exact Or.inl (Except.ok.inj h).symm
  · exact Or.inr ⟨_, h⟩

/-- A clear slot that can be left out takes a key that is left out for null. -/
theorem take_met? (hclear : slot.IsClear a) (hrequired : slot.required = false)
    (ms : List (String × Json)) :
    slot.take (Json.met? ms) a = slot.put a (Document.ofJson (Json.memberOrNull ms slot.key)) := by
  unfold take Json.met? Json.memberOrNull
  cases Json.member? ms slot.key with
  | none => exact (hclear hrequired).symm
  | some j => rfl

end Slot

namespace Shape

/-- Filling goes the same for two objects if every slot takes the same from both as long as it is
clear: no slot is filled twice, so each is clear when its turn comes. -/
theorem fill_congr {get get' : String → Option Document} {rest : List (Slot α)}
    (hrest : rest.Pairwise Slot.Commute)
    (h : ∀ slot ∈ rest, ∀ a, slot.IsClear a → slot.take get a = slot.take get' a) {a : α}
    (ha : ∀ slot ∈ rest, slot.IsClear a) : fill get rest a = fill get' rest a := by
  induction rest generalizing a with
  | nil => rfl
  | cons slot rest ih =>
    obtain ⟨hslot, hrest⟩ := List.pairwise_cons.mp hrest
    rw [List.forall_mem_cons] at h ha
    unfold fill
    rw [h.1 a ha.1]
    cases htake : slot.take get' a with
    | error e => rfl
    | ok b =>
      apply ih hrest h.2
      intro other hother
      rcases Slot.take_eq_ok htake with rfl | ⟨d, hput⟩
      · exact ha.2 other hother
      · exact (hslot other hother).isClear hput (ha.2 other hother)

namespace Tolerant

variable {s : Shape α} (h : s.Tolerant)

include h in
theorem pairwise_byKey : s.byKey.Pairwise Slot.Commute :=
  ((sortBy_perm _ s.slots).pairwise_iff Slot.Commute.symm).mpr h.commute

include h in
/-- Two objects decode alike if they have the same values under the keys that are needed, and values
that mean the same to their slots under the optional ones. -/
theorem decoder_congr {ms ns : List (String × Json)}
    (hneeded : ∀ slot ∈ s.slots, slot.required = true →
      Json.member? ms slot.key = Json.member? ns slot.key)
    (hoptional : ∀ slot ∈ s.slots, slot.required = false → ∀ a,
      slot.put a (Document.ofJson (Json.memberOrNull ms slot.key)) =
        slot.put a (Document.ofJson (Json.memberOrNull ns slot.key))) :
    s.decoder (Document.ofJson (.object ms)) = s.decoder (Document.ofJson (.object ns)) := by
  have htake : ∀ slot ∈ s.byKey, ∀ a, slot.IsClear a →
      slot.take (Json.met? ms) a = slot.take (Json.met? ns) a := by
    intro slot hslot a ha
    have hmem := (mem_byKey s slot).mp hslot
    cases hrequired : slot.required with
    | true =>
      unfold Slot.take Json.met?
      rw [hneeded slot hmem hrequired]
    | false =>
      calc
        slot.take (Json.met? ms) a = _ := Slot.take_met? ha hrequired ms
        _ = _ := hoptional slot hmem hrequired a
        _ = slot.take (Json.met? ns) a := (Slot.take_met? ha hrequired ns).symm
  have hfill : fill (Json.met? ms) s.byKey s.initial = fill (Json.met? ns) s.byKey s.initial :=
    fill_congr h.pairwise_byKey htake fun slot hslot => h.clear slot ((mem_byKey s slot).mp hslot)
  -- Only a slot that is needed can be missed, and such a one finds the same in both.
  have hmissing : (s.slots.find? fun slot => slot.required && (Json.member? ms slot.key).isNone) =
      s.slots.find? fun slot => slot.required && (Json.member? ns slot.key).isNone := by
    rw [← List.head?_filter, ← List.head?_filter]
    apply congrArg List.head?
    apply List.filter_congr
    intro slot hslot
    cases hrequired : slot.required with
    | true => rw [hneeded slot hslot hrequired]
    | false => rfl
  rw [decoder_ofJson_object h.keys, decoder_ofJson_object h.keys, hfill, hmissing]

end Tolerant

end Shape

/-! ### What the records see -/

/-- The slot looks for its key where the outline has it, and reads no more there than that shows. -/
def Slot.Fits (slot : Slot α) (needed : List String) (optional : List (String × Outline)) : Prop :=
  (slot.required = true → slot.key ∈ needed) ∧
    (slot.required = false → ∃ o, optional.lookup slot.key = some o ∧
      ∀ j k, o.Agree j k → ∀ a, slot.put a (Document.ofJson j) = slot.put a (Document.ofJson k))

section

variable {β : Type} {dec : Decoder β} {needed : List String} {optional : List (String × Outline)}
  {key : String} {set : α → β → α}

/-- A slot that has to be filled fits an outline that needs its key. -/
theorem fits_needed (hkey : key ∈ needed) : (Slot.needed key dec set).Fits needed optional :=
  ⟨fun _ => hkey, nofun⟩

/-- A slot that can be left out fits an outline that has its key and shows what it reads. -/
theorem fits_optional {o : Outline} (hdec : dec.Sees o)
    (hkey : optional.lookup key = some o) :
    (Slot.optional key dec set).Fits needed optional := by
  refine ⟨nofun, fun _ => ⟨o, hkey, ?_⟩⟩
  intro j k hjk a
  exact congrArg (Except.map (set a)) (hdec j k hjk)

theorem sees_whole (dec : Decoder β) : dec.Sees .whole := by
  intro j k h
  cases h
  rfl

/-- Null agrees with itself alone, so nothing more is read of a value that may be null. -/
theorem Decoder.Sees.option (h : dec.Sees (.record needed optional)) :
    (Decoder.option dec).Sees (.record needed optional) := by
  intro j k hjk
  have hdec := h j k hjk
  cases hjk with
  | same => rfl
  | objects _ _ => exact congrArg (Except.map some) hdec

/-- Changes that an outline takes no notice of do not change what is decoded. -/
theorem Decoder.Sees.eq_of_changes {o : Outline} (h : dec.Sees o) {j k : Json}
    (hchanges : Relation.EqvGen o.Change j k) : dec.ofJson j = dec.ofJson k := by
  induction hchanges with
  | rel j k hchange => exact h j k hchange.agree
  | refl j => rfl
  | symm j k _ ih => exact ih.symm
  | trans j k l _ _ hjk hkl => exact hjk.trans hkl

/-- A record reads no more than an outline that all its slots fit. -/
theorem Shape.Tolerant.sees {s : Shape α} (h : s.Tolerant)
    (hslots : ∀ slot ∈ s.slots, slot.Fits needed optional) :
    Decoder.Sees s.decoder (.record needed optional) := by
  intro j k hjk
  cases hjk with
  | same => rfl
  | objects hneeded hoptional =>
    apply h.decoder_congr
    · intro slot hslot hrequired
      exact hneeded _ ((hslots slot hslot).1 hrequired)
    · intro slot hslot hrequired a
      obtain ⟨o, ho, hput⟩ := (hslots slot hslot).2 hrequired
      exact hput _ _ (hoptional _ o ho) a

end

end

/-! ### Collections, fields and relations -/

def collectionMetaOutline : Outline := .record [] [("singleton", .whole)]

def collectionOutline : Outline := .record ["collection"] [("meta", collectionMetaOutline)]

def columnInfoOutline : Outline :=
  .record [] [("is_primary_key", .whole), ("is_nullable", .whole), ("is_generated", .whole)]

def fieldMetaOutline : Outline :=
  .record [] [("special", .whole), ("one_allowed_collections", .whole)]

def fieldOutline : Outline :=
  .record ["collection", "field", "type"]
    [("schema", columnInfoOutline), ("meta", fieldMetaOutline)]

def relationMetaOutline : Outline :=
  .record [] [("one_collection", .whole), ("one_field", .whole),
    ("one_allowed_collections", .whole)]

def relationOutline : Outline :=
  .record ["collection", "field"]
    [("related_collection", .whole), ("meta", relationMetaOutline)]

theorem collectionMetaShape_tolerant : Decoder.collectionMetaShape.Tolerant where
  keys := by decide
  clear := by
    simp only [Decoder.collectionMetaShape, List.forall_mem_cons]
    exact ⟨fun _ => rfl, nofun⟩
  commute := List.pairwise_singleton _ _

theorem collectionShape_tolerant : Decoder.collectionShape.Tolerant where
  keys := by decide
  clear := by
    simp only [Decoder.collectionShape, List.forall_mem_cons]
    exact ⟨nofun, fun _ => rfl, nofun⟩
  commute := by simp [Decoder.collectionShape, Slot.needed, Slot.optional, Slot.commute_of_set]

theorem columnInfoShape_tolerant : Decoder.columnInfoShape.Tolerant where
  keys := by decide
  clear := by
    simp only [Decoder.columnInfoShape, List.forall_mem_cons]
    exact ⟨fun _ => rfl, fun _ => rfl, fun _ => rfl, nofun⟩
  commute := by simp [Decoder.columnInfoShape, Slot.optional, Slot.commute_of_set]

theorem fieldMetaShape_tolerant : Decoder.fieldMetaShape.Tolerant where
  keys := by decide
  clear := by
    simp only [Decoder.fieldMetaShape, List.forall_mem_cons]
    exact ⟨fun _ => rfl, fun _ => rfl, nofun⟩
  commute := by simp [Decoder.fieldMetaShape, Slot.optional, Slot.commute_of_set]

/-- The slots of a field can be filled in any order, and the optional ones start out as null would
leave them. -/
theorem fieldShape_tolerant : Decoder.fieldShape.Tolerant where
  keys := by decide
  clear := by
    simp only [Decoder.fieldShape, List.forall_mem_cons]
    exact ⟨nofun, nofun, nofun, fun _ => rfl, fun _ => rfl, nofun⟩
  commute := by simp [Decoder.fieldShape, Slot.needed, Slot.optional, Slot.commute_of_set]

theorem relationMetaShape_tolerant : Decoder.relationMetaShape.Tolerant where
  keys := by decide
  clear := by
    simp only [Decoder.relationMetaShape, List.forall_mem_cons]
    exact ⟨fun _ => rfl, fun _ => rfl, fun _ => rfl, nofun⟩
  commute := by simp [Decoder.relationMetaShape, Slot.optional, Slot.commute_of_set]

theorem relationShape_tolerant : Decoder.relationShape.Tolerant where
  keys := by decide
  clear := by
    simp only [Decoder.relationShape, List.forall_mem_cons]
    exact ⟨nofun, nofun, fun _ => rfl, fun _ => rfl, nofun⟩
  commute := by simp [Decoder.relationShape, Slot.needed, Slot.optional, Slot.commute_of_set]

theorem collectionMeta_sees : Decoder.collectionMeta.Sees collectionMetaOutline := by
  apply collectionMetaShape_tolerant.sees
  simp only [Decoder.collectionMetaShape, List.forall_mem_cons]
  exact ⟨fits_optional (sees_whole _) rfl,
    nofun⟩

theorem collection_sees : Decoder.collection.Sees collectionOutline := by
  apply collectionShape_tolerant.sees
  simp only [Decoder.collectionShape, List.forall_mem_cons]
  exact ⟨fits_needed (by decide),
    fits_optional collectionMeta_sees.option rfl,
    nofun⟩

theorem columnInfo_sees : Decoder.columnInfo.Sees columnInfoOutline := by
  apply columnInfoShape_tolerant.sees
  simp only [Decoder.columnInfoShape, List.forall_mem_cons]
  exact ⟨fits_optional (sees_whole _) rfl,
    fits_optional (sees_whole _) rfl,
    fits_optional (sees_whole _) rfl,
    nofun⟩

theorem fieldMeta_sees : Decoder.fieldMeta.Sees fieldMetaOutline := by
  apply fieldMetaShape_tolerant.sees
  simp only [Decoder.fieldMetaShape, List.forall_mem_cons]
  exact ⟨fits_optional (sees_whole _) rfl,
    fits_optional (sees_whole _) rfl,
    nofun⟩

/-- A field reads its five keys, and of its column and its metadata what these read. -/
theorem field_sees : Decoder.field.Sees fieldOutline := by
  apply fieldShape_tolerant.sees
  simp only [Decoder.fieldShape, List.forall_mem_cons]
  exact ⟨fits_needed (by decide),
    fits_needed (by decide),
    fits_needed (by decide),
    fits_optional columnInfo_sees.option rfl,
    fits_optional fieldMeta_sees.option rfl,
    nofun⟩

theorem relationMeta_sees : Decoder.relationMeta.Sees relationMetaOutline := by
  apply relationMetaShape_tolerant.sees
  simp only [Decoder.relationMetaShape, List.forall_mem_cons]
  exact ⟨fits_optional (sees_whole _) rfl,
    fits_optional (sees_whole _) rfl,
    fits_optional (sees_whole _) rfl,
    nofun⟩

theorem relation_sees : Decoder.relation.Sees relationOutline := by
  apply relationShape_tolerant.sees
  simp only [Decoder.relationShape, List.forall_mem_cons]
  exact ⟨fits_needed (by decide),
    fits_needed (by decide),
    fits_optional (sees_whole _) rfl,
    fits_optional relationMeta_sees.option rfl,
    nofun⟩

/-- Keys that a record does not know, at any level and with any values, may come and go, and an
optional key may as well be null as left out: any number of such changes leaves the collection, the
field or the relation that a value decodes to as it is, or the reason why it does not decode. -/
theorem decode_eq_of_changes (j k : Json) :
    (Relation.EqvGen collectionOutline.Change j k →
      Decoder.collection.ofJson j = Decoder.collection.ofJson k) ∧
    (Relation.EqvGen fieldOutline.Change j k → Decoder.field.ofJson j = Decoder.field.ofJson k) ∧
    (Relation.EqvGen relationOutline.Change j k →
      Decoder.relation.ofJson j = Decoder.relation.ofJson k) :=
  ⟨collection_sees.eq_of_changes, field_sees.eq_of_changes, relation_sees.eq_of_changes⟩

def tagsField (among inside : List (String × Json)) : Json :=
  .object ([("collection", .string "notes"), ("field", .string "tags")] ++ among ++
    [("type", .string "alias"), ("meta", .object (inside ++ [("special", .string "m2m")]))])

/-- The column may be null, and the metadata may say how tags are shown. -/
theorem changes_tagsField : Relation.EqvGen fieldOutline.Change (tagsField [] [])
    (tagsField [("schema", .null)] [("interface", .array [.bool true, .null])]) := by
  have hcolumn : fieldOutline.Change (tagsField [] []) (tagsField [("schema", .null)] []) :=
    .null (by decide) rfl (by decide)
  have hinterface : fieldMetaOutline.Change (.object ([] ++ [("special", .string "m2m")]))
      (.object ([("interface", .array [.bool true, .null])] ++ [("special", .string "m2m")])) :=
    .unread (by decide) rfl _
  have hmetadata : fieldOutline.Change (tagsField [("schema", .null)] [])
      (tagsField [("schema", .null)] [("interface", .array [.bool true, .null])]) :=
    @Outline.Change.inside _ _ [("collection", .string "notes"), ("field", .string "tags"),
      ("schema", .null), ("type", .string "alias")] [] "meta" _ (by decide) rfl _ _ hinterface
  exact .trans _ _ _ (.rel _ _ hcolumn) (.rel _ _ hmetadata)

/-- A column that is null and a note on how tags are shown change nothing. -/
theorem decode_eq_of_changes_tagsField :
    Relation.EqvGen fieldOutline.Change (tagsField [] [])
      (tagsField [("schema", .null)] [("interface", .array [.bool true, .null])]) ∧
    Decoder.field.ofJson
        (tagsField [("schema", .null)] [("interface", .array [.bool true, .null])]) =
      .ok { collection := "notes", field := "tags", kind := "alias",
            metadata := some { special := ["m2m"] } } := by
  have heq := (decode_eq_of_changes (tagsField [] []) (tagsField [("schema", .null)]
    [("interface", .array [.bool true, .null])])).2.1 changes_tagsField
  exact ⟨changes_tagsField, heq.symm.trans rfl⟩

end ContentTypes
