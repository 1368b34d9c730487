import ContentTypes.Proofs.ObjectReading
import Mathlib.Data.List.Permutation

/-! The layout of a saved data model is of no consequence. Whether a list stands bare or in an
envelope, and whether the three lists stand in three files or in one, the same data model is loaded
from the same lists. -/

namespace ContentTypes

open Json (Document Items Members Spells MemberText Blank)
open Text (Source)

/-! ### Lists in documents -/

namespace Decoder

variable {α : Type} {dec : Decoder α}

theorem toOption_refuse (expected : String) (d : Document) :
    (refuse expected d : Decoded α).toOption = none := by
  unfold refuse
  split <;> rfl

theorem toOption_list_of_not_array {d : Document} (hd : ∀ deep items, d ≠ .array deep items) :
    (list dec d).toOption = none := by
  cases d with
  | array deep items => exact absurd rfl (hd deep items)
  | _ =>
    rw [list]
    · exact toOption_refuse _ _
    all_goals simp

/-- Of a value that can be kept only the forms count. -/
theorem toOption_anyForm {name : String} {forms : Document → Option α} {d : Document}
    (hd : Json.Keepable d) : (anyForm name forms d).toOption = forms d := by
  obtain ⟨j, hj⟩ := hd
  simp only [anyForm, hj]
  cases forms d <;> rfl

/-- A value that cannot be kept has no form that fits. -/
theorem toOption_anyForm_of_not_keepable {name : String} {forms : Document → Option α}
    {d : Document}
    (hd : ¬Json.Keepable d) : (anyForm name forms d).toOption = none := by
  cases hvalue : d.value with
  | ok j => exact absurd ⟨j, hvalue⟩ hd
  | error f =>
    simp only [anyForm, hvalue]
    rfl

theorem payloadForms_array (deep : Bool) (items : Items) :
    payloadForms dec (.array deep items) = (list dec (.array deep items)).toOption := by
  unfold payloadForms
  cases list dec (.array deep items) <;> rfl

theorem payloadForms_object (deep : Bool) (members : Members) :
    payloadForms dec (.object deep members) = envelope? dec (.object deep members) := rfl

theorem valuesOf_ofList (key : String) (ms : List (String × Document)) :
    valuesOf key (Members.ofList ms) = (ms.filter (·.1 = key)).map (·.2) := by
  induction ms with
  | nil => rfl
  | cons m rest ih =>
    by_cases hm : m.1 = key <;> simp [Members.ofList, valuesOf, hm, ih]

/-- An object can be kept exactly when its members can. -/
theorem keepable_object_iff (ms : List (String × Document)) :
    Json.Keepable (.object false (Members.ofList ms)) ↔ ∀ m ∈ ms, Json.Keepable m.2 := by
  constructor
  · rintro ⟨j, hj⟩
    -- An object is kept only if its members are.
    have hvalues : ∃ js, (Members.ofList ms).values = .ok js := by
      cases hms : (Members.ofList ms).values with
      | ok js => exact ⟨js, rfl⟩
      | error f => simp [Document.value, Json.refuseDeep, hms, Except.map] at hj
    clear hj
    induction ms with
    | nil => exact List.forall_mem_nil _
    | cons m rest ih =>
      obtain ⟨js, hjs⟩ := hvalues
      obtain ⟨key, d⟩ := m
      simp only [Members.ofList, Members.values] at hjs
      cases hd : d.value with
      | error f => simp [hd] at hjs
      | ok j' =>
        cases hrest : (Members.ofList rest).values with
        | error f => simp [hd, hrest, Except.map] at hjs
        | ok js' =>
          rw [List.forall_mem_cons]
          exact ⟨⟨j', hd⟩, ih ⟨js', hrest⟩⟩
  · intro h
    obtain ⟨js, hjs⟩ := Json.exists_memberValues_ofList ms h
    refine ⟨.object js, ?_⟩
    rw [Document.value, hjs]
    rfl

/-- An envelope around a list is worth what the list is worth. -/
theorem toOption_payload_envelope {ms : List (String × Document)} {items : Items}
    (hdata : (ms.filter (·.1 = "data")).map (·.2) = [.array false items])
    (hothers : ∀ m ∈ ms, m.1 ≠ "data" → Json.Keepable m.2) :
    (payload dec (.object false (Members.ofList ms))).toOption =
      (payload dec (.array false items)).toOption := by
  -- The other members can be kept, so the object can be kept exactly when the list can.
  have hkeep : Json.Keepable (.object false (Members.ofList ms)) ↔
      Json.Keepable (.array false items) := by
    rw [keepable_object_iff]
    constructor
    · intro h
      have hmem : Document.array false items ∈ (ms.filter (·.1 = "data")).map (·.2) := by
        rw [hdata]
        exact List.mem_singleton.mpr rfl
      obtain ⟨m, hm, heq⟩ := List.mem_map.mp hmem
      rw [← heq]
      exact h m (List.mem_filter.mp hm).1
    · intro h m hm
      by_cases hkey : m.1 = "data"
      · have hmem : m.2 ∈ (ms.filter (·.1 = "data")).map (·.2) :=
          List.mem_map.mpr ⟨m, List.mem_filter.mpr ⟨hm, by simpa using hkey⟩, rfl⟩
        rw [hdata, List.mem_singleton] at hmem
        rw [hmem]
        exact h
      · exact hothers m hm hkey
  unfold payload
  by_cases h : Json.Keepable (.array false items)
  · rw [toOption_anyForm h, toOption_anyForm (hkeep.mpr h), payloadForms_array,
      payloadForms_object, envelope?, valuesOf_ofList, hdata]
  · rw [toOption_anyForm_of_not_keepable h,
      toOption_anyForm_of_not_keepable fun hobject => h (hkeep.mp hobject)]

/-- An object that does not hold exactly one list as its data is worth nothing. -/
theorem toOption_payload_of_not_envelope {ms : List (String × Document)}
    (hdata : ∀ deep items, (ms.filter (·.1 = "data")).map (·.2) ≠ [.array deep items]) :
    (payload dec (.object false (Members.ofList ms))).toOption = none := by
  unfold payload
  by_cases h : Json.Keepable (.object false (Members.ofList ms))
  · rw [toOption_anyForm h, payloadForms_object, envelope?, valuesOf_ofList]
    split
    · rename_i d hd
      apply toOption_list_of_not_array
      rintro deep items rfl
      exact hdata deep items hd
    · rfl
  · exact toOption_anyForm_of_not_keepable h

end Decoder

def assemble (collections : Option (List Collection)) (fields : Option (List Field))
    (relations : Option (List Relation)) : Option DataModel := do
  let collections ← collections
  let fields ← fields
  let relations ← relations
  return { collections, fields, relations }

def bundleKeys : List String := ["collections", "fields", "relations"]

theorem isSome_find?_bundleShape (key : String) :
    (Decoder.bundleShape.slots.find? (·.key == key)).isSome = decide (key ∈ bundleKeys) := by
  have hkeys : Decoder.bundleShape.slots.map (·.key) = bundleKeys := rfl
  rw [Bool.eq_iff_iff, List.find?_isSome, decide_eq_true_iff, ← hkeys, List.mem_map]
  simp only [beq_iff_eq]

/-- Members with other keys are passed over. -/
theorem readMembers_filter_bundleKeys (ms : List (String × Document))
    (hskip : ∀ m ∈ ms, m.2.skip = .ok ()) (model : DataModel) (seen : List String) :
    Shape.readMembers Decoder.bundleShape.slots (Members.ofList ms) model seen =
      Shape.readMembers Decoder.bundleShape.slots
        (Members.ofList (ms.filter fun m => m.1 ∈ bundleKeys)) model seen := by
  rw [Shape.readMembers_filter hskip]
  simp only [isSome_find?_bundleShape]

theorem eq_of_perm_three {α : Type} {l : List α} {a b c : α} (h : l.Perm [a, b, c]) :
    l = [a, b, c] ∨ l = [b, a, c] ∨ l = [c, b, a] ∨ l = [b, c, a] ∨ l = [c, a, b] ∨
      l = [a, c, b] := by
  have hmem := List.mem_permutations.mpr h
  simpa [List.permutations, List.permutationsAux, List.permutationsAux.rec,
    List.permutationsAux2] using hmem

/-- A bundle is worth its three lists, whatever their order and whatever stands next to them. -/
theorem toOption_bundle {ms : List (String × Document)} {c f r : Document}
    (hparts : (ms.filter fun m => m.1 ∈ bundleKeys).Perm
      [("collections", c), ("fields", f), ("relations", r)])
    (hskip : ∀ m ∈ ms, m.2.skip = .ok ()) :
    (Decoder.bundle (.object false (Members.ofList ms))).toOption =
      assemble (Decoder.payload Decoder.collection c).toOption
        (Decoder.payload Decoder.field f).toOption
        (Decoder.payload Decoder.relation r).toOption := by
  have hread := readMembers_filter_bundleKeys ms hskip {} []
  have horder := eq_of_perm_three hparts
  have hdecode : Decoder.bundle (.object false (Members.ofList ms)) = Decoder.bundle
      (.object false (Members.ofList (ms.filter fun m => m.1 ∈ bundleKeys))) := by
    simp only [Decoder.bundle, Shape.decoder, Decoder.bundleShape] at hread ⊢
    rw [hread]
  rw [hdecode]
  generalize ms.filter (fun m => m.1 ∈ bundleKeys) = parts at horder
  -- Each part decodes or fails, and the three stand in one of six orders.
  cases hc : Decoder.payload Decoder.collection c <;>
  cases hf : Decoder.payload Decoder.field f <;>
  cases hr : Decoder.payload Decoder.relation r <;>
  rcases horder with rfl | rfl | rfl | rfl | rfl | rfl <;>
  simp [Decoder.bundle, Decoder.bundleShape, Slot.needed, Shape.decoder, Shape.readMembers,
    Shape.missing?, Members.ofList, Except.map, assemble, hc, hf, hr, Except.toOption]

/-! ### Texts of lists, objects and envelopes -/

namespace Json

def documentOf (s : Source) : Document := (Whole.ofSource s).document

/-- A text of one value that is nested less than so many levels deep. -/
def IsValue (levels : Nat) (s : Source) : Prop := ∃ d, Spells levels s d

def IsArray (s : Source) : Prop := (skipBlanks s).head? = some (some '[')

structure ObjectText where
  before : Source
  blank_before : Blank before
  members : List MemberText
  inner : Source
  blank_inner : Blank inner
  after : Source
  blank_after : Blank after

namespace ObjectText

def text (o : ObjectText) : Source :=
  o.before ++ objectText (o.members.map MemberText.text) o.inner o.after

def values (o : ObjectText) (key : String) : List Source :=
  (o.members.filter (·.key = key)).map MemberText.value

def documents (o : ObjectText) : List (String × Document) :=
  o.members.map fun m => (m.key, documentOf m.value)

end ObjectText

variable {levels : Nat} {s : Source}

theorem IsValue.spells (h : IsValue levels s) (hlevels : levels ≤ depthLimit) :
    Spells levels s (documentOf s) := by
  obtain ⟨d, hd⟩ := h
  have heq := hd.eq_document hlevels
  rw [documentOf, ← heq]
  exact hd

/-- A text of one value is decoded as this value. -/
theorem IsValue.ofText_eq {α : Type} (h : IsValue levels s) (hlevels : levels ≤ depthLimit)
    (dec : Decoder α) : dec.ofText (.ofSource s) = dec (documentOf s) := by
  rw [(h.spells hlevels).ofSource_eq hlevels, Decoder.ofText]
  cases dec (documentOf s) <;> rfl

theorem ObjectText.spells {o : ObjectText} (hlevels : levels < depthLimit) (hpos : 0 < levels)
    (h : ∀ m ∈ o.members, IsValue levels m.value) :
    Spells (levels + 1) o.text (.object false (Members.ofList o.documents)) := by
  apply Spells.blank_append _ o.blank_before
  exact spells_objectText hpos hlevels o.blank_inner o.blank_after o.members
    fun m hm => (h m hm).spells (Nat.le_of_lt hlevels)

theorem ObjectText.filter_documents (o : ObjectText) (key : String) :
    (o.documents.filter (·.1 = key)).map (·.2) = (o.values key).map documentOf := by
  simp only [documents, values, List.filter_map, List.map_map]
  rfl

theorem eq_bracket_of_readAfter {fuel depth : Nat} {c : Char} {u rest : Source} {deep : Bool}
    {items : Items} (h : readAfter fuel depth c u = (.array deep items, some rest)) : c = '[' := by
  unfold readAfter at h
  split at h
  · obtain ⟨a, ha, heq⟩ := node_eq_some h
    cases (eq_of_readWord ha).symm.trans heq
  split at h
  · obtain ⟨a, ha, heq⟩ := node_eq_some h
    cases (eq_of_readWord ha).symm.trans heq
  split at h
  · obtain ⟨a, ha, heq⟩ := node_eq_some h
    cases (eq_of_readWord ha).symm.trans heq
  split at h
  · obtain ⟨a, -, heq⟩ := node_eq_some h
    cases heq
  split at h
  · obtain ⟨a, -, heq⟩ := node_eq_some h
    cases heq
  split at h
  · obtain ⟨a, -, heq⟩ := node_eq_some h
    cases heq
  split at h
  · assumption
  split at h <;> cases h

/-- A text that begins with a bracket is read as an array, and no other text is. -/
theorem documentOf_of_isArray (h : IsValue levels s) (hlevels : levels ≤ depthLimit)
    (hs : IsArray s) : ∃ items, documentOf s = .array false items := by
  obtain ⟨fuel, blanks, hread, -⟩ := (h.spells hlevels).read
  obtain ⟨f, c, u, -, hblanks, hafter⟩ := exists_skipBlanks_of_readValue hread
  rw [IsArray, hblanks, List.head?_cons, Option.some.injEq, Option.some.injEq] at hs
  subst hs
  have hdigit : ('['.isDigit = true) = False := by decide
  simp only [readAfter, Char.reduceEq, hdigit, if_false, if_true, Prod.mk.injEq] at hafter
  exact ⟨_, hafter.1.symm⟩

theorem isArray_of_documentOf (h : IsValue levels s) (hlevels : levels ≤ depthLimit) {deep : Bool}
    {items : Items} (hs : documentOf s = .array deep items) : IsArray s := by
  obtain ⟨fuel, blanks, hread, -⟩ := (h.spells hlevels).read
  obtain ⟨f, c, u, -, hblanks, hafter⟩ := exists_skipBlanks_of_readValue hread
  rw [hs] at hafter
  rw [IsArray, hblanks, eq_bracket_of_readAfter hafter, List.head?_cons]

end Json

open Json (ObjectText IsValue IsArray documentOf depthLimit)

/-- A text of one value whose strings and numbers can all be kept. -/
def IsWellFormed (levels : Nat) (s : Source) : Prop :=
  IsValue levels s ∧ Json.Keepable (documentOf s)

/-- A text in one of its layouts: bare, or, when it is an array, as the `data` of an object with any
other members. -/
inductive Layout (text : Source) : Nat → Source → Prop
  | bare {levels : Nat} (h : IsValue levels text) : Layout text levels text
  | envelope {levels : Nat} (o : ObjectText) (harray : IsArray text) (hpos : 0 < levels)
    (htext : IsValue levels text) (hdata : o.values "data" = [text])
    (hothers : ∀ m ∈ o.members, m.key ≠ "data" → IsWellFormed levels m.value) :
    Layout text (levels + 1) o.text

/-- The text of an object that is no envelope of an array: there is no `data`, or more than one, or
it is something else. -/
def IsMisfit (levels : Nat) (s : Source) : Prop :=
  ∃ o : ObjectText, s = o.text ∧ 0 < levels ∧ (∀ m ∈ o.members, IsValue levels m.value) ∧
    ∀ text, o.values "data" = [text] → ¬IsArray text

def listOf {α : Type} (dec : Decoder α) (s : Source) : Option (List α) :=
  ((Decoder.payload dec).ofText (.ofSource s)).toOption

def modelOf (c f r : Source) : Option DataModel :=
  assemble (listOf Decoder.collection c) (listOf Decoder.field f) (listOf Decoder.relation r)

section

variable {α : Type} {levels : Nat} {s text : Source}

theorem listOf_eq (dec : Decoder α) (h : IsValue levels s) (hlevels : levels ≤ depthLimit) :
    listOf dec s = (Decoder.payload dec (documentOf s)).toOption := by
  rw [listOf, h.ofText_eq hlevels]

theorem isValue_of_values (o : ObjectText) {key : String} (hvalues : o.values key = [text])
    (htext : IsValue levels text)
    (hothers : ∀ m ∈ o.members, m.key ≠ key → IsValue levels m.value) :
    ∀ m ∈ o.members, IsValue levels m.value := by
  intro m hm
  by_cases hkey : m.key = key
  · have hmem : m.value ∈ o.values key :=
      List.mem_map.mpr ⟨m, List.mem_filter.mpr ⟨hm, by simpa using hkey⟩, rfl⟩
    rw [hvalues, List.mem_singleton] at hmem
    rw [hmem]
    exact htext
  · exact hothers m hm hkey

/-- Every layout of a text is one value again. -/
theorem Layout.isValue (h : Layout text levels s) (hlevels : levels ≤ depthLimit) :
    IsValue levels s := by
  cases h with
  | bare h => exact h
  | envelope o harray hpos htext hdata hothers =>
    have hmembers := isValue_of_values o hdata htext fun m hm hkey => (hothers m hm hkey).1
    exact ⟨_, o.spells hlevels hpos hmembers⟩

/-- Every layout of a text holds the same list. -/
theorem Layout.listOf_eq (h : Layout text levels s) (hlevels : levels ≤ depthLimit)
    (dec : Decoder α) : listOf dec s = listOf dec text := by
  cases h with
  | bare => rfl
  | @envelope levels o harray hpos htext hdata hothers =>
    have hmembers := isValue_of_values o hdata htext fun m hm hkey => (hothers m hm hkey).1
    have hspells := o.spells hlevels hpos hmembers
    have hobject := hspells.eq_document hlevels
    obtain ⟨items, hitems⟩ := Json.documentOf_of_isArray htext (by omega) harray
    rw [ContentTypes.listOf_eq dec ⟨_, hspells⟩ hlevels,
      ContentTypes.listOf_eq dec htext (by omega), hitems, documentOf, ← hobject]
    apply Decoder.toOption_payload_envelope
    · rw [o.filter_documents, hdata, List.map_singleton, hitems]
    · intro m hm hkey
      obtain ⟨x, hx, rfl⟩ := List.mem_map.mp hm
      exact (hothers x hx hkey).2

/-- A text that is no envelope holds no list. -/
theorem IsMisfit.listOf_eq_none (h : IsMisfit levels s) (hlevels : levels < depthLimit)
    (dec : Decoder α) : listOf dec s = none := by
  obtain ⟨o, rfl, hpos, hmembers, hdata⟩ := h
  have hspells := o.spells hlevels hpos hmembers
  have hobject := hspells.eq_document hlevels
  rw [ContentTypes.listOf_eq dec ⟨_, hspells⟩ hlevels, documentOf, ← hobject]
  apply Decoder.toOption_payload_of_not_envelope
  intro deep items heq
  rw [o.filter_documents] at heq
  -- The one text under `data` is read as an array, so it begins with a bracket.
  obtain ⟨t, ht, hitems⟩ := List.map_eq_singleton_iff.mp heq
  obtain ⟨m, hm, rfl⟩ : ∃ m ∈ o.members, m.value = t := by
    have hmem : t ∈ o.values "data" := by
      rw [ht]
      exact List.mem_singleton.mpr rfl
    obtain ⟨m, hm, heq⟩ := List.mem_map.mp hmem
    exact ⟨m, (List.mem_filter.mp hm).1, heq⟩
  exact hdata m.value ht (Json.isArray_of_documentOf (hmembers m hm) (Nat.le_of_lt hlevels) hitems)

end

/-- A directory that holds three texts under the names of the lists. -/
structure InDirectory (files : FileTree) (path : String) (c f r : Source) : Prop where
  collections : files.lookup (Path.join path collectionsFile) = .ok (.file c)
  fields : files.lookup (Path.join path fieldsFile) = .ok (.file f)
  relations : files.lookup (Path.join path relationsFile) = .ok (.file r)

/-- A file that holds three texts under the keys of the lists, in any order and among any other
members. -/
structure InBundle (files : FileTree) (path : String) (c f r : Source) : Prop where
  holds : ∃ o : ObjectText, files.lookup path = .ok (.file o.text) ∧
    (∀ m ∈ o.members, IsValue (depthLimit - 1) m.value) ∧
    ((o.members.map fun m => (m.key, m.value)).filter fun m => m.1 ∈ bundleKeys).Perm
      [("collections", c), ("fields", f), ("relations", r)]

theorem toOption_loadPart {α : Type} {files : FileTree} {path : String} {s : Source}
    (h : files.lookup path = .ok (.file s)) (dec : Decoder α) :
    (Snapshot.loadPart files path dec).toOption = listOf dec s := by
  simp only [Snapshot.loadPart, FileTree.isFile, FileTree.decodeFile, h,
    FileTree.openFile_of_lookup h, if_true, listOf]
  cases (Decoder.payload dec).ofText (.ofSource s) <;> rfl

/-- A directory loads as the data model of its three texts. -/
theorem InDirectory.toOption_load {files : FileTree} {path : String} {c f r : Source}
    (h : InDirectory files path c f r) :
    (Snapshot.loadDirectory files path).toOption = modelOf c f r := by
  have hc := toOption_loadPart h.collections Decoder.collection
  have hf := toOption_loadPart h.fields Decoder.field
  have hr := toOption_loadPart h.relations Decoder.relation
  simp only [Snapshot.loadDirectory, modelOf, assemble, ← hc, ← hf, ← hr]
  cases Snapshot.loadPart files (Path.join path collectionsFile) Decoder.collection with
  | error e => rfl
  | ok cs =>
    cases Snapshot.loadPart files (Path.join path fieldsFile) Decoder.field with
    | error e => rfl
    | ok fs =>
      cases Snapshot.loadPart files (Path.join path relationsFile) Decoder.relation <;> rfl

/-- A bundle loads as the data model of its three texts. -/
theorem InBundle.toOption_load {files : FileTree} {path : String} {c f r : Source}
    (h : InBundle files path c f r) :
    (Snapshot.loadBundle files path).toOption = modelOf c f r := by
  obtain ⟨o, hfile, hmembers, hparts⟩ := h.holds
  have hbelow : depthLimit - 1 ≤ depthLimit := Nat.sub_le _ _
  have hspells : Spells (depthLimit - 1 + 1) o.text (.object false (Members.ofList o.documents)) :=
    o.spells (by decide) (by decide) hmembers
  -- Every one of the three texts is the value of a member.
  have hvalue : ∀ x ∈ [("collections", c), ("fields", f), ("relations", r)],
      IsValue (depthLimit - 1) x.2 := by
    intro x hx
    obtain ⟨m, hm, rfl⟩ := List.mem_map.mp (List.mem_filter.mp (hparts.mem_iff.mpr hx)).1
    exact hmembers m hm
  have hdocuments : (o.documents.filter fun m => m.1 ∈ bundleKeys).Perm
      [("collections", documentOf c), ("fields", documentOf f), ("relations", documentOf r)] := by
    have hmap := hparts.map fun x => (x.1, documentOf x.2)
    rw [List.filter_map, List.map_map] at hmap
    rw [ObjectText.documents, List.filter_map]
    exact hmap
  have hskip : ∀ m ∈ o.documents, m.2.skip = .ok () := by
    intro m hm
    obtain ⟨x, hx, rfl⟩ := List.mem_map.mp hm
    exact ((hmembers x hx).spells hbelow).skip_eq hbelow
  have hbundle := toOption_bundle hdocuments hskip
  simp only [List.forall_mem_cons] at hvalue
  obtain ⟨hc, hf, hr, -⟩ := hvalue
  rw [modelOf, listOf_eq _ hc hbelow, listOf_eq _ hf hbelow, listOf_eq _ hr hbelow, ← hbundle]
  simp only [Snapshot.loadBundle, FileTree.decodeFile, FileTree.openFile_of_lookup hfile,
    hspells.ofSource_eq (Nat.le_refl _),
    Decoder.ofText]
  cases Decoder.bundle (.object false (Members.ofList o.documents)) <;> rfl

theorem modelOf_eq_none {c f r : Source} {levels : Nat} (hlevels : levels < depthLimit)
    (h : IsMisfit levels c ∨ IsMisfit levels f ∨ IsMisfit levels r) : modelOf c f r = none := by
  unfold modelOf assemble
  rcases h with hc | hf | hr
  · rw [hc.listOf_eq_none hlevels]
    rfl
  · rw [hf.listOf_eq_none hlevels]
    cases listOf Decoder.collection c <;> rfl
  · rw [hr.listOf_eq_none hlevels]
    cases listOf Decoder.collection c <;> cases listOf Decoder.field f <;> rfl

/-- The layout of a saved data model is of no consequence. Three texts in a directory and the same
three texts in a bundle, each of them in any of its layouts, load as the one data model that the
three lists make up, or not at all. An object that is no envelope of an array is refused in either
place. -/
theorem load_of_layouts :
    (∀ (c f r : Source) (files : FileTree) (path : String) (c' f' r' : Source),
      Layout c depthLimit c' → Layout f depthLimit f' → Layout r depthLimit r' →
      InDirectory files path c' f' r' →
      (Snapshot.loadDirectory files path).toOption = modelOf c f r) ∧
    (∀ (c f r : Source) (files : FileTree) (path : String) (c' f' r' : Source),
      Layout c (depthLimit - 1) c' → Layout f (depthLimit - 1) f' → Layout r (depthLimit - 1) r' →
      InBundle files path c' f' r' →
      (Snapshot.loadBundle files path).toOption = modelOf c f r) ∧
    (∀ (files : FileTree) (path : String) (c f r : Source) (levels : Nat), levels < depthLimit →
      IsMisfit levels c ∨ IsMisfit levels f ∨ IsMisfit levels r →
      (InDirectory files path c f r → (Snapshot.loadDirectory files path).toOption = none) ∧
      (InBundle files path c f r → (Snapshot.loadBundle files path).toOption = none)) := by
  refine ⟨?_, ?_, ?_⟩
  · intro c f r files path c' f' r' hc hf hr hfiles
    have hle : depthLimit ≤ depthLimit := Nat.le_refl _
    rw [hfiles.toOption_load, modelOf, hc.listOf_eq hle, hf.listOf_eq hle, hr.listOf_eq hle,
      modelOf]
  · intro c f r files path c' f' r' hc hf hr hfile
    have hle : depthLimit - 1 ≤ depthLimit := Nat.sub_le _ _
    rw [hfile.toOption_load, modelOf, hc.listOf_eq hle, hf.listOf_eq hle, hr.listOf_eq hle, modelOf]
  · intro files path c f r levels hlevels hmisfit
    have hnone := modelOf_eq_none hlevels hmisfit
    constructor
    · intro hfiles
      rw [hfiles.toOption_load, hnone]
    · intro hfile
      rw [hfile.toOption_load, hnone]

section

def bareMember (m : String × Source) : MemberText where
  before := []
  blank_before := Json.blank_nil
  quoted := Json.quotedTail m.1
  key := m.1
  read_quoted := Json.readString_quotedTail m.1
  between := []
  blank_between := Json.blank_nil
  value := m.2

def bareObject (members : List (String × Source)) : ObjectText where
  before := []
  blank_before := Json.blank_nil
  members := members.map bareMember
  inner := []
  blank_inner := Json.blank_nil
  after := []
  blank_after := Json.blank_nil

def listText (js : List Json) : Source := (Json.array js).compactChars.map some

theorem isValue_listText {js : List Json} {levels : Nat} (h : ∀ j ∈ js, Json.Plain (levels + 1) j)
    (hlevels : levels + 2 ≤ depthLimit) : IsValue (levels + 2) (listText js) :=
  ⟨_, Json.spells_compactChars (.array js h) hlevels⟩

def notesCollections : Source := listText (taggedNotes.collections.map Collection.encode)

def notesFields : Source := listText (taggedNotes.fields.map Field.encode)

def notesRelations : Source := listText []

def layoutFiles : FileTree where
  home := []
  entries := [
    (["notes"], .directory),
    (["notes", "collections.json"], .file (bareObject [("data", notesCollections)]).text),
    (["notes", "fields.json"], .file notesFields),
    (["notes", "relations.json"], .file notesRelations),
    (["notes.json"], .file (bareObject [("relations", notesRelations),
      ("collections", notesCollections),
      ("fields", (bareObject [("data", notesFields)]).text)]).text),
    (["misfit"], .directory),
    (["misfit", "collections.json"], .file (bareObject []).text),
    (["misfit", "fields.json"], .file notesFields),
    (["misfit", "relations.json"], .file notesRelations)]

theorem isValue_notesCollections : IsValue 5 notesCollections :=
  isValue_listText (by
    intro j hj
    obtain ⟨c, -, rfl⟩ := List.mem_map.mp hj
    exact (Undoes.collection.plain c).mono (by decide)) (by decide)

theorem isValue_notesFields : IsValue 5 notesFields :=
  isValue_listText (by
    intro j hj
    obtain ⟨f, -, rfl⟩ := List.mem_map.mp hj
    exact Undoes.field.plain f) (by decide)

theorem isValue_notesRelations : IsValue 5 notesRelations := isValue_listText nofun (by decide)

theorem IsValue.mono {levels more : Nat} {s : Source} (h : IsValue levels s) (hle : levels ≤ more) :
    IsValue more s := by
  obtain ⟨d, hd⟩ := h
  exact ⟨d, hd.mono hle⟩

/-- Bare lists and envelopes load alike, and a misfit does not load. -/
theorem load_of_layouts_notes :
    (Snapshot.loadDirectory layoutFiles "notes").toOption =
      (Snapshot.loadBundle layoutFiles "notes.json").toOption ∧
    (Snapshot.loadDirectory layoutFiles "misfit").toOption = none := by
  obtain ⟨hdirectory, hbundle, hmisfit⟩ := load_of_layouts
  have hcollections := isValue_notesCollections
  have hfields := isValue_notesFields
  have hrelations := isValue_notesRelations
  have hwrapped : Layout notesFields 127 (bareObject [("data", notesFields)]).text :=
    .envelope (bareObject [("data", notesFields)]) rfl (by decide)
      (IsValue.mono hfields (by decide)) rfl (by
        intro m hm hkey
        obtain rfl := List.mem_singleton.mp hm
        exact absurd rfl hkey)
  have hload := hdirectory notesCollections notesFields notesRelations layoutFiles "notes"
    (bareObject [("data", notesCollections)]).text notesFields notesRelations
    (.envelope (bareObject [("data", notesCollections)]) rfl (by decide)
      (IsValue.mono hcollections (by decide)) rfl (by
        intro m hm hkey
        obtain rfl := List.mem_singleton.mp hm
        exact absurd rfl hkey))
    (.bare (IsValue.mono hfields (by decide))) (.bare (IsValue.mono hrelations (by decide)))
    ⟨rfl, rfl, rfl⟩
  have hload' := hbundle notesCollections notesFields notesRelations layoutFiles "notes.json"
    notesCollections (bareObject [("data", notesFields)]).text notesRelations
    (.bare (IsValue.mono hcollections (by decide))) hwrapped
    (.bare (IsValue.mono hrelations (by decide)))
    ⟨bareObject [("relations", notesRelations), ("collections", notesCollections),
      ("fields", (bareObject [("data", notesFields)]).text)], rfl, by
        intro m hm
        obtain ⟨x, hx, rfl⟩ := List.mem_map.mp hm
        simp only [List.mem_cons, List.not_mem_nil, or_false] at hx
        rcases hx with rfl | rfl | rfl
        · exact IsValue.mono hrelations (by decide)
        · exact IsValue.mono hcollections (by decide)
        · exact hwrapped.isValue (by decide),
      (List.perm_append_comm : ([_] ++ [_, _]).Perm _)⟩
  refine ⟨hload.trans hload'.symm, ?_⟩
  have hrefused := hmisfit layoutFiles "misfit" (bareObject []).text notesFields notesRelations 1
    (by decide) (.inl ⟨bareObject [], rfl, by decide, nofun, nofun⟩)
  exact hrefused.1 ⟨rfl, rfl, rfl⟩

end

end ContentTypes
