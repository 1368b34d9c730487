import ContentTypes.Proofs.PrintedJson
import ContentTypes.Decode.Options
import ContentTypes.Encode
import ContentTypes.Proofs.FilePlaces

/-! Decoding undoes encoding: for records, options and settings, from the JSON value as well as from
its printed texts. -/

namespace ContentTypes

open Json (Document Items Members Plain)

/-- How a value stands as a document: with its members by key, or as its printed text is met. -/
inductive View where
  | byKey
  | printed

namespace View

def document : View → Json → Document
  | .byKey => Document.ofJson
  | .printed => Document.printed

def arrange : View → List (String × Document) → List (String × Document)
  | .byKey => Json.sortMembers
  | .printed => id

def items : View → List Document → Items
  | .byKey, ds => Items.ofList ds.length ds
  | .printed, ds => Items.listed ds

variable (v : View)

theorem document_null : v.document .null = .null := by
  cases v <;> rfl

theorem document_bool (b : Bool) : v.document (.bool b) = .bool b := by
  cases v <;> rfl

theorem document_natural (n : UInt64) :
    v.document (.natural n) = .number (.ok (.natural n)) := by
  cases v <;> rfl

theorem document_string (s : String) : v.document (.string s) = .text (.ok s) := by
  cases v <;> rfl

theorem documentsOf_eq_map (js : List Json) : Json.documentsOf js = js.map Document.ofJson := by
  induction js with
  | nil => rfl
  | cons j rest ih => rw [Json.documentsOf, List.map_cons, ih]

theorem memberDocumentsOf_eq_map (ms : List (String × Json)) :
    Json.memberDocumentsOf ms = ms.map fun m => (m.1, Document.ofJson m.2) := by
  induction ms with
  | nil => rfl
  | cons m rest ih => rw [Json.memberDocumentsOf, List.map_cons, ih]

/-- In every form an array has its items in order. -/
theorem document_array (js : List Json) :
    v.document (.array js) = .array false (v.items (js.map v.document)) := by
  cases v with
  | byKey => simp only [document, items, Document.ofJson, documentsOf_eq_map, List.length_map]
  | printed => simp only [document, items, Document.printed, Json.printedItems_eq_map]

/-- In every form an object has its members, in the order of that form. -/
theorem document_object (ms : List (String × Json)) :
    v.document (.object ms) =
      .object false (Members.ofList (v.arrange (ms.map fun m => (m.1, v.document m.2)))) := by
  cases v with
  | byKey => simp only [document, arrange, Document.ofJson, memberDocumentsOf_eq_map]
  | printed => simp only [document, arrange, Document.printed, Json.printedMembers_eq_map, id]

theorem document_ne_null {j : Json} (hj : j ≠ .null) : v.document j ≠ .null := by
  cases v <;> cases j <;> simp_all [document, Document.ofJson, Document.printed]

end View

namespace Json

def Keepable (d : Document) : Prop := ∃ j, d.value = .ok j

theorem exists_values_listed (ds : List Document) (h : ∀ d ∈ ds, Keepable d) :
    ∃ js, (Items.listed ds).values = .ok js := by
  induction ds with
  | nil => exact ⟨[], rfl⟩
  | cons d rest ih =>
    obtain ⟨j, hj⟩ := h d (List.mem_cons_self ..)
    obtain ⟨js, hjs⟩ := ih fun x hx => h x (List.mem_cons_of_mem _ hx)
    exact ⟨j :: js, by simp only [Items.listed, Items.values, hj, hjs, Except.map]⟩

theorem exists_values_ofList (total : Nat) (ds : List Document) (h : ∀ d ∈ ds, Keepable d) :
    ∃ js, (Items.ofList total ds).values = .ok js := by
  induction ds with
  | nil => exact ⟨[], rfl⟩
  | cons d rest ih =>
    obtain ⟨j, hj⟩ := h d (List.mem_cons_self ..)
    obtain ⟨js, hjs⟩ := ih fun x hx => h x (List.mem_cons_of_mem _ hx)
    exact ⟨j :: js, by simp only [Items.ofList, Items.values, hj, hjs, Except.map]⟩

theorem exists_memberValues_ofList (ms : List (String × Document)) (h : ∀ m ∈ ms, Keepable m.2) :
    ∃ js, (Members.ofList ms).values = .ok js := by
  induction ms with
  | nil => exact ⟨[], rfl⟩
  | cons m rest ih =>
    obtain ⟨j, hj⟩ := h m (List.mem_cons_self ..)
    obtain ⟨js, hjs⟩ := ih fun x hx => h x (List.mem_cons_of_mem _ hx)
    exact ⟨(m.1, j) :: js, by simp only [Members.ofList, Members.values, hj, hjs, Except.map]⟩

theorem mem_insertMember {α : Type} {key : String} {value : α} {ms : List (String × α)}
    {x : String × α} (h : x ∈ insertMember key value ms) : x = (key, value) ∨ x ∈ ms := by
  induction ms with
  | nil => exact Or.inl (List.mem_singleton.mp h)
  | cons m rest ih =>
    simp only [insertMember] at h
    split at h
    · exact List.mem_cons.mp h
    · split at h
      · rcases List.mem_cons.mp h with rfl | hx
        · exact Or.inr (List.mem_cons_self ..)
        · exact (ih hx).imp_right (List.mem_cons_of_mem _)
      · exact (List.mem_cons.mp h).imp_right (List.mem_cons_of_mem _)

theorem mem_of_mem_sortMembers {α : Type} {ms : List (String × α)} {x : String × α}
    (h : x ∈ sortMembers ms) : x ∈ ms := by
  -- Every member of the sorted list was put there by one of the steps.
  have hfold : ∀ (rest sorted : List (String × α)),
      x ∈ rest.foldl (fun sorted m => insertMember m.1 m.2 sorted) sorted →
        x ∈ sorted ∨ x ∈ rest := by
    intro rest
    induction rest with
    | nil => exact fun sorted hx => Or.inl hx
    | cons m rest ih =>
      intro sorted hx
      rcases ih _ hx with hsorted | hrest
      · rcases mem_insertMember hsorted with rfl | hold
        · exact Or.inr (List.mem_cons_self ..)
        · exact Or.inl hold
      · exact Or.inr (List.mem_cons_of_mem _ hrest)
  rcases hfold ms [] h with hnil | hms
  · cases hnil
  · exact hms

end Json

namespace View

variable (v : View)

theorem exists_values_items (ds : List Document) (h : ∀ d ∈ ds, Json.Keepable d) :
    ∃ js, (v.items ds).values = .ok js := by
  cases v with
  | byKey => exact Json.exists_values_ofList ds.length ds h
  | printed => exact Json.exists_values_listed ds h

theorem mem_of_mem_arrange {ms : List (String × Document)} {x : String × Document}
    (h : x ∈ v.arrange ms) : x ∈ ms := by
  cases v with
  | byKey => exact Json.mem_of_mem_sortMembers h
  | printed => exact h

/-- A plain value can be kept in every form. -/
theorem keepable_document {levels : Nat} {j : Json} (h : Plain levels j) :
    Json.Keepable (v.document j) := by
  induction h with
  | null => exact ⟨.null, by rw [document_null]; rfl⟩
  | bool b => exact ⟨.bool b, by rw [document_bool]; rfl⟩
  | natural n => exact ⟨.natural n, by rw [document_natural]; rfl⟩
  | string s => exact ⟨.string s, by rw [document_string]; rfl⟩
  | array items _ ih =>
    have hitems : ∀ d ∈ items.map v.document, Json.Keepable d := by
      intro d hd
      obtain ⟨j, hj, rfl⟩ := List.mem_map.mp hd
      exact ih j hj
    obtain ⟨js, hjs⟩ := v.exists_values_items _ hitems
    refine ⟨.array js, ?_⟩
    rw [document_array, Document.value, hjs]
    rfl
  | object members _ ih =>
    have hmembers : ∀ x ∈ v.arrange (members.map fun m => (m.1, v.document m.2)),
        Json.Keepable x.2 := by
      intro x hx
      obtain ⟨m, hm, rfl⟩ := List.mem_map.mp (v.mem_of_mem_arrange hx)
      exact ih m hm
    obtain ⟨js, hjs⟩ := Json.exists_memberValues_ofList _ hmembers
    refine ⟨.object js, ?_⟩
    rw [document_object, Document.value, hjs]
    rfl

end View

/-- A decoder that gives back what an encoder wrote, in every way in which it stands as a
document. -/
structure Undoes {α : Type} (levels : Nat) (dec : Decoder α) (encode : α → Json) : Prop where
  plain : ∀ a, Plain (levels + 1) (encode a)
  decode : ∀ (v : View) (a : α), dec (v.document (encode a)) = .ok a

namespace Undoes

open Decoder

theorem string : Undoes 0 Decoder.string Json.string where
  plain s := .string s
  decode v s := by rw [v.document_string]; rfl

theorem path : Undoes 0 (stringAs "path string") Json.string where
  plain s := .string s
  decode v s := by rw [v.document_string]; rfl

theorem flag : Undoes 0 Decoder.flag Json.bool where
  plain b := .bool b
  decode v b := by rw [v.document_bool]; rfl

theorem amount : Undoes 0 Decoder.amount Json.natural where
  plain n := .natural n
  decode v n := by rw [v.document_natural]; rfl

theorem character : Undoes 0 Decoder.character fun c => .string (String.ofList [c]) where
  plain c := .string _
  decode v c := by
    rw [v.document_string]
    simp only [Decoder.character, stringAs, String.toList_ofList]

theorem naming : Undoes 0 Decoder.naming Naming.encode where
  plain n := .string _
  decode v n := by
    rw [Naming.encode, v.document_string]
    simp only [Decoder.naming, Decoder.string, stringAs, Naming.ofSelector_selector]

section

variable {α : Type} {levels : Nat} {dec : Decoder α} {encode : α → Json}

/-- A value that is never null can be made optional. -/
theorem option (h : Undoes levels dec encode) (hnull : ∀ a, encode a ≠ .null) :
    Undoes levels (Decoder.option dec) (Json.option encode) where
  plain a := by
    cases a with
    | none => exact .null
    | some a => exact h.plain a
  decode v a := by
    cases a with
    | none =>
      rw [Json.option, v.document_null]
      rfl
    | some a =>
      have ha := h.decode v a
      rw [Json.option]
      have hne := v.document_ne_null (hnull a)
      generalize v.document (encode a) = d at ha hne
      cases d <;> first | exact absurd rfl hne | simp only [Decoder.option, ha, Except.map]

theorem items_map (h : Undoes levels dec encode) (v : View) (as : List α) :
    Decoder.items dec (v.items ((as.map encode).map v.document)) = .ok as := by
  cases v with
  | byKey =>
    simp only [View.items]
    generalize ((as.map encode).map (View.document .byKey)).length = total
    induction as with
    | nil => rfl
    | cons a rest ih =>
      simp only [List.map_cons, Items.ofList, Decoder.items, h.decode .byKey a, ih, Except.map]
  | printed =>
    simp only [View.items]
    induction as with
    | nil => rfl
    | cons a rest ih =>
      simp only [List.map_cons, Items.listed, Decoder.items, h.decode .printed a, ih, Except.map]

/-- Lists come back if their items do. -/
theorem list (h : Undoes levels dec encode) :
    Undoes (levels + 1) (Decoder.list dec) (Json.list encode) where
  plain as := by
    apply Plain.array
    intro j hj
    obtain ⟨a, -, rfl⟩ := List.mem_map.mp hj
    exact h.plain a
  decode v as := by
    rw [Json.list, v.document_array, Decoder.list]
    exact h.items_map v as

/-- A form that fits is taken, since what was encoded can be kept as a whole. -/
theorem anyForm (name : String) {forms : Document → Option α}
    (hplain : ∀ a, Plain (levels + 1) (encode a))
    (hforms : ∀ (v : View) (a : α), forms (v.document (encode a)) = some a) :
    Undoes levels (Decoder.anyForm name forms) encode where
  plain := hplain
  decode v a := by
    obtain ⟨j, hj⟩ := v.keepable_document (hplain a)
    simp only [Decoder.anyForm, hj, hforms]

/-- A list that comes back does so as a payload. -/
theorem payload (h : Undoes levels dec encode) :
    Undoes (levels + 1) (Decoder.payload dec) (Json.list encode) := by
  apply anyForm
  · exact h.list.plain
  · intro v as
    simp only [payloadForms, h.list.decode v as]

end

/-- Lists of strings come back. -/
theorem strings : Undoes 1 (Decoder.list Decoder.string) Json.strings := string.list

theorem optionalStrings : Undoes 1 (Decoder.option (Decoder.list Decoder.string))
    (Json.option Json.strings) := strings.option nofun

theorem optionalString : Undoes 0 (Decoder.option Decoder.string) (Json.option Json.string) :=
  string.option nofun

/-- Tags come back from the list they are written as. -/
theorem tags : Undoes 1 Decoder.tags Json.strings := by
  have hforms : Undoes 1 (Decoder.anyForm "Special" tagForms) Json.strings := by
    apply anyForm
    · exact strings.plain
    · intro v ts
      simp only [tagForms, strings.decode v ts]
  refine ⟨strings.plain, ?_⟩
  intro v ts
  have hoption := (hforms.option nofun).decode v (some ts)
  rw [Json.option] at hoption
  simp only [Decoder.tags, hoption, Except.map, Option.getD_some]

/-- An object decodes to a record if its members do in the order in which they are written and in
the order of their keys. -/
theorem decoder_document_object {α : Type} {s : Shape α} {v : View} {members : List (String × Json)}
    {a : α}
    (hwritten : s.decoder
        (.object false (Members.ofList (members.map fun m => (m.1, v.document m.2)))) =
      .ok a)
    (hsorted : s.decoder (.object false (Members.ofList (Json.sortMembers
      (members.map fun m => (m.1, v.document m.2))))) = .ok a) :
    s.decoder (v.document (.object members)) = .ok a := by
  rw [v.document_object]
  cases v with
  | byKey => exact hsorted
  | printed => exact hwritten

section

-- The slots of a record are known, so that reading it is worked out member by member.
attribute [local simp] Shape.decoder Shape.readMembers Shape.missing? Slot.needed Slot.optional
  Members.ofList Json.sortMembers Except.map

section

variable {β : Type} (value other : β) (rest : List (String × β)) {key k : String}

@[simp]
theorem insertMember_nil : Json.insertMember key value [] = [(key, value)] := rfl

@[simp]
theorem insertMember_of_lt (h : key < k) :
    Json.insertMember key value ((k, other) :: rest) = (key, value) :: (k, other) :: rest := by
  rw [Json.insertMember, if_pos h]

@[simp]
theorem insertMember_of_gt (h : k < key) :
    Json.insertMember key value ((k, other) :: rest) =
      (k, other) :: Json.insertMember key value rest := by
  have hnot : ¬key < k := fun hlt => String.lt_irrefl k (String.lt_trans h hlt)
  rw [Json.insertMember, if_neg hnot, if_pos h]

end

theorem collectionMeta : Undoes 1 Decoder.collectionMeta CollectionMeta.encode where
  plain m := by
    apply Plain.object
    rw [List.forall_mem_singleton]
    exact flag.plain m.singleton
  decode v m := by
    have hsingleton := flag.decode v m.singleton
    apply decoder_document_object <;> simp (disch := decide) [collectionMetaShape, hsingleton]

theorem collection : Undoes 2 Decoder.collection Collection.encode where
  plain c := by
    apply Plain.object
    simp only [List.forall_mem_cons]
    exact ⟨(string.plain _).mono (by decide), (collectionMeta.option nofun).plain _,
      List.forall_mem_nil _⟩
  decode v c := by
    have hcollection := string.decode v c.collection
    have hmetadata := (collectionMeta.option nofun).decode v c.metadata
    apply decoder_document_object <;>
      simp (disch := decide) [collectionShape, hcollection, hmetadata]

theorem columnInfo : Undoes 1 Decoder.columnInfo ColumnInfo.encode where
  plain i := by
    apply Plain.object
    simp only [List.forall_mem_cons]
    exact ⟨flag.plain _, flag.plain _, flag.plain _, List.forall_mem_nil _⟩
  decode v i := by
    have hprimary := flag.decode v i.isPrimaryKey
    have hnullable := flag.decode v i.isNullable
    have hgenerated := flag.decode v i.isGenerated
    apply decoder_document_object <;>
      simp (disch := decide) [columnInfoShape, hprimary, hnullable, hgenerated]

theorem fieldMeta : Undoes 2 Decoder.fieldMeta FieldMeta.encode where
  plain m := by
    apply Plain.object
    simp only [List.forall_mem_cons]
    exact ⟨tags.plain _, optionalStrings.plain _, List.forall_mem_nil _⟩
  decode v m := by
    have hspecial := tags.decode v m.special
    have hallowed := optionalStrings.decode v m.oneAllowedCollections
    apply decoder_document_object <;> simp (disch := decide) [fieldMetaShape, hspecial, hallowed]

/-- Fields come back. -/
theorem field : Undoes 3 Decoder.field Field.encode where
  plain f := by
    apply Plain.object
    simp only [List.forall_mem_cons]
    exact ⟨(string.plain _).mono (by decide), (string.plain _).mono (by decide),
      (string.plain _).mono (by decide), ((columnInfo.option nofun).plain _).mono (by decide),
      (fieldMeta.option nofun).plain _, List.forall_mem_nil _⟩
  decode v f := by
    have hcollection := string.decode v f.collection
    have hfield := string.decode v f.field
    have hkind := string.decode v f.kind
    have hschema := (columnInfo.option nofun).decode v f.schema
    have hmetadata := (fieldMeta.option nofun).decode v f.metadata
    apply decoder_document_object <;>
      simp (disch := decide) [fieldShape, hcollection, hfield, hkind, hschema, hmetadata]

theorem relationMeta : Undoes 2 Decoder.relationMeta RelationMeta.encode where
  plain m := by
    apply Plain.object
    simp only [List.forall_mem_cons]
    exact ⟨(optionalString.plain _).mono (by decide), (optionalString.plain _).mono (by decide),
      optionalStrings.plain _, List.forall_mem_nil _⟩
  decode v m := by
    have hcollection := optionalString.decode v m.oneCollection
    have hfield := optionalString.decode v m.oneField
    have hallowed := optionalStrings.decode v m.oneAllowedCollections
    apply decoder_document_object <;>
      simp (disch := decide) [relationMetaShape, hcollection, hfield, hallowed]

/-- Relations come back. -/
theorem relation : Undoes 3 Decoder.relation Relation.encode where
  plain r := by
    apply Plain.object
    simp only [List.forall_mem_cons]
    exact ⟨(string.plain _).mono (by decide), (string.plain _).mono (by decide),
      (optionalString.plain _).mono (by decide), (relationMeta.option nofun).plain _,
      List.forall_mem_nil _⟩
  decode v r := by
    have hcollection := string.decode v r.collection
    have hfield := string.decode v r.field
    have hrelated := optionalString.decode v r.relatedCollection
    have hmetadata := (relationMeta.option nofun).decode v r.metadata
    apply decoder_document_object <;>
      simp (disch := decide) [relationShape, hcollection, hfield, hrelated, hmetadata]

theorem dataModel_plain (m : DataModel) : Plain 6 m.encode := by
  apply Plain.object
  simp only [List.forall_mem_cons]
  exact ⟨(collection.list.plain _).mono (by decide), field.list.plain _, relation.list.plain _,
    List.forall_mem_nil _⟩

/-- Data models come back. -/
theorem dataModel : Undoes 5 Decoder.dataModel DataModel.encode where
  plain := dataModel_plain
  decode v m := by
    have hcollections := collection.list.decode v m.collections
    have hfields := field.list.decode v m.fields
    have hrelations := relation.list.decode v m.relations
    apply decoder_document_object <;>
      simp (disch := decide) [dataModelShape, hcollections, hfields, hrelations]

/-- An encoded data model is a bundle as well. -/
theorem bundle : Undoes 5 Decoder.bundle DataModel.encode where
  plain := dataModel_plain
  decode v m := by
    have hcollections := collection.payload.decode v m.collections
    have hfields := field.payload.decode v m.fields
    have hrelations := relation.payload.decode v m.relations
    apply decoder_document_object <;>
      simp (disch := decide) [bundleShape, hcollections, hfields, hrelations]

theorem buildOptions : Undoes 1 Decoder.buildOptions BuildOptions.encode where
  plain o := by
    apply Plain.object
    rw [List.forall_mem_singleton]
    exact naming.plain o.naming
  decode v o := by
    have hnaming := naming.decode v o.naming
    apply decoder_document_object <;> simp (disch := decide) [buildOptionsShape, hnaming]

theorem indent : Undoes 1 Decoder.indent Indent.encode where
  plain i := by
    apply Plain.object
    simp only [List.forall_mem_cons]
    exact ⟨amount.plain _, character.plain _, List.forall_mem_nil _⟩
  decode v i := by
    have hamount := amount.decode v i.amount
    have hcharacter := character.decode v i.character
    apply decoder_document_object <;>
      simp (disch := decide) [indentShape, hamount, hcharacter, -String.ofList_cons]

theorem renderOptions : Undoes 2 Decoder.renderOptions RenderOptions.encode where
  plain o := by
    apply Plain.object
    simp only [List.forall_mem_cons]
    exact ⟨indent.plain _, (string.plain _).mono (by decide), (string.plain _).mono (by decide),
      List.forall_mem_nil _⟩
  decode v o := by
    have hindent := indent.decode v o.indent
    have hroot := string.decode v o.rootName
    have hmodule := string.decode v o.moduleName
    apply decoder_document_object <;>
      simp (disch := decide) [renderOptionsShape, hindent, hroot, hmodule]

/-- Settings come back, with or without an output path. -/
theorem configuration : Undoes 2 Decoder.configuration Configuration.encode where
  plain c := by
    apply Plain.object
    rw [List.forall_mem_append]
    constructor
    · simp only [List.forall_mem_cons]
      exact ⟨(naming.plain _).mono (by decide), (string.plain _).mono (by decide),
        (string.plain _).mono (by decide), indent.plain _, List.forall_mem_nil _⟩
    · cases c.output with
      | none => exact nofun
      | some path =>
        rw [List.forall_mem_singleton]
        exact (string.plain path).mono (by decide)
  decode v c := by
    obtain ⟨namingOf, root, module, indentOf, output⟩ := c
    have hnaming := naming.decode v namingOf
    have hroot := string.decode v root
    have hmodule := string.decode v module
    have hindent := indent.decode v indentOf
    -- An output that is not set has no key, and keeps its default.
    cases output with
    | none =>
      apply decoder_document_object <;>
        simp (disch := decide) [configurationShape, hnaming, hroot, hmodule, hindent]
    | some text =>
      have houtput := (path.option nofun).decode v (some text)
      rw [Json.option] at houtput
      apply decoder_document_object <;>
        simp (disch := decide) [configurationShape, hnaming, hroot, hmodule, hindent, houtput]

end

end Undoes

/-- Decoding gives back what was encoded, from the value and from each of its printed texts. -/
def RoundTrips {α : Type} (dec : Decoder α) (encode : α → Json) : Prop :=
  ∀ a, dec.ofJson (encode a) = .ok a ∧
    dec.ofText (.ofSource (.ofString (encode a).compact)) = .ok a ∧
    dec.ofText (.ofSource (.ofString (encode a).pretty)) = .ok a

section

variable {α : Type} {levels : Nat} {dec : Decoder α} {encode : α → Json}

theorem Undoes.ofText_compact (h : Undoes levels dec encode) (hlevels : levels < Json.depthLimit)
    (a : α) : dec.ofText (.ofSource (.ofString (encode a).compact)) = .ok a := by
  have ha : dec (Document.printed (encode a)) = .ok a := h.decode .printed a
  rw [Json.ofSource_compact (h.plain a) hlevels]
  simp only [Decoder.ofText, ha, Bool.false_eq_true, if_false]

theorem Undoes.ofText_pretty (h : Undoes levels dec encode) (hlevels : levels < Json.depthLimit)
    (a : α) : dec.ofText (.ofSource (.ofString (encode a).pretty)) = .ok a := by
  have ha : dec (Document.printed (encode a)) = .ok a := h.decode .printed a
  rw [Json.ofSource_pretty (h.plain a) hlevels]
  simp only [Decoder.ofText, ha, Bool.false_eq_true, if_false]

/-- What comes back in every form comes back from its texts. -/
theorem Undoes.roundTrips (h : Undoes levels dec encode) (hlevels : levels < Json.depthLimit) :
    RoundTrips dec encode := by
  intro a
  exact ⟨h.decode .byKey a, h.ofText_compact hlevels a, h.ofText_pretty hlevels a⟩

end

/-- Every record, all options and all settings come back from their JSON, and a file that holds the
printed JSON of a data model is a bundle that loads as that data model. -/
theorem decode_encode :
    RoundTrips Decoder.collection Collection.encode ∧
    RoundTrips Decoder.field Field.encode ∧
    RoundTrips Decoder.relation Relation.encode ∧
    RoundTrips Decoder.dataModel DataModel.encode ∧
    RoundTrips Decoder.buildOptions BuildOptions.encode ∧
    RoundTrips Decoder.indent Indent.encode ∧
    RoundTrips Decoder.renderOptions RenderOptions.encode ∧
    RoundTrips Decoder.configuration Configuration.encode ∧
    ∀ (m : DataModel) (files : FileTree) (path text : String),
      text = m.encode.compact ∨ text = m.encode.pretty →
      files.lookup path = .ok (.file (.ofString text)) →
      Snapshot.loadBundle files path = .ok m := by
  refine ⟨Undoes.collection.roundTrips (by decide), Undoes.field.roundTrips (by decide),
    Undoes.relation.roundTrips (by decide), Undoes.dataModel.roundTrips (by decide),
    Undoes.buildOptions.roundTrips (by decide), Undoes.indent.roundTrips (by decide),
    Undoes.renderOptions.roundTrips (by decide), Undoes.configuration.roundTrips (by decide), ?_⟩
  intro m files path text htext hfile
  have hdecode : Decoder.bundle.ofText (.ofSource (.ofString text)) = .ok m := by
    rcases htext with rfl | rfl
    · exact Undoes.bundle.ofText_compact (by decide) m
    · exact Undoes.bundle.ofText_pretty (by decide) m
  simp only [Snapshot.loadBundle, FileTree.decodeFile, FileTree.openFile_of_lookup hfile, hdecode]

def taggedNotes : DataModel where
  collections := [{ collection := "notes", metadata := some ⟨true⟩ }]
  fields := [
    { collection := "notes", field := "text", kind := "string"
      metadata := some { special := ["a, b", "", " "] } }]

def notesFile : FileTree :=
  ⟨[], [(["notes.json"], .file (.ofString taggedNotes.encode.compact))]⟩

/-- Tags with commas and blanks come back from a bundle. -/
theorem decode_encode_taggedNotes :
    Snapshot.loadBundle notesFile "notes.json" = .ok taggedNotes := by
  obtain ⟨-, -, -, -, -, -, -, -, hbundle⟩ := decode_encode
  exact hbundle taggedNotes notesFile "notes.json" taggedNotes.encode.compact (Or.inl rfl) rfl

end ContentTypes
