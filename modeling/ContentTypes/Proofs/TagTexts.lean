import ContentTypes.Build
import ContentTypes.Proofs.ObjectReading
import Mathlib.Data.List.DropRight
import Mathlib.Data.List.Forall2
import Mathlib.Data.List.TakeWhile

/-! The two forms of a field's tags. A string with commas stands for the tags that are left between
its commas once white space is taken off, and it decodes as the list of these tags does, wherever
the field with its metadata is found. -/

namespace ContentTypes

open Json (Document Items Members Plain)

namespace Text

/-! ### White space at the ends -/

def IsBlank (s : List Char) : Prop := ∀ c ∈ s, isWhiteSpace c = true

structure IsTrimmed (s : List Char) : Prop where
  first : ∀ c ∈ s.head?, isWhiteSpace c = false
  last : ∀ c ∈ s.getLast?, isWhiteSpace c = false

section

variable {before after s : List Char}

theorem isTrimmed_of_ends {c d : Char} (hfirst : s.head? = some c) (hlast : s.getLast? = some d)
    (hc : isWhiteSpace c = false) (hd : isWhiteSpace d = false) : IsTrimmed s := by
  constructor
  · intro x hx
    rw [hfirst, Option.mem_some] at hx
    exact hx ▸ hc
  · intro x hx
    rw [hlast, Option.mem_some] at hx
    exact hx ▸ hd

theorem isBlank_singleton {c : Char} (hc : isWhiteSpace c = true) : IsBlank [c] :=
  List.forall_mem_singleton.mpr hc

theorem trim_eq_rdropWhile (s : List Char) :
    trim s = (s.dropWhile isWhiteSpace).rdropWhile isWhiteSpace := rfl

theorem trim_of_isBlank (h : IsBlank s) : trim s = [] := by
  rw [trim_eq_rdropWhile, List.dropWhile_eq_nil_iff.mpr h, List.rdropWhile_nil]

theorem dropWhile_blank_append (hbefore : IsBlank before)
    (hs : ∀ c ∈ s.head?, isWhiteSpace c = false) :
    (before ++ s).dropWhile isWhiteSpace = s := by
  rw [List.dropWhile_append_of_pos hbefore]
  cases s with
  | nil => rfl
  | cons c rest =>
    have hc : ¬isWhiteSpace c = true := by simpa using hs c rfl
    rw [List.dropWhile_cons_of_neg hc]

/-- What has no white space at its ends is what is left when there is white space around it. -/
theorem trim_surrounded (hbefore : IsBlank before) (hs : IsTrimmed s) (hafter : IsBlank after) :
    trim (before ++ s ++ after) = s := by
  by_cases hnil : s = []
  · -- All of it is white space, and what is before takes in what is after.
    subst hnil
    rw [List.append_nil]
    exact trim_of_isBlank (List.forall_mem_append.mpr ⟨hbefore, hafter⟩)
  · have hfirst : ∀ c ∈ (s ++ after).head?, isWhiteSpace c = false := by
      rw [List.head?_append_of_ne_nil s hnil]
      exact hs.first
    have hlast : ∀ c ∈ s.reverse.head?, isWhiteSpace c = false := by
      rw [List.head?_reverse]
      exact hs.last
    have hblank : IsBlank after.reverse := fun c hc => hafter c (List.mem_reverse.mp hc)
    calc
      trim (before ++ s ++ after) = (s ++ after).rdropWhile isWhiteSpace := by
        rw [trim_eq_rdropWhile, List.append_assoc, dropWhile_blank_append hbefore hfirst]
      _ = ((after.reverse ++ s.reverse).dropWhile isWhiteSpace).reverse := by
        rw [List.rdropWhile, List.reverse_append]
      _ = s := by rw [dropWhile_blank_append hblank hlast, List.reverse_reverse]

/-- A text is what is left of it between white space. -/
theorem exists_surroundings (s : List Char) :
    ∃ before after, IsBlank before ∧ IsBlank after ∧ s = before ++ trim s ++ after := by
  refine ⟨s.takeWhile isWhiteSpace, (s.dropWhile isWhiteSpace).rtakeWhile isWhiteSpace, ?_, ?_, ?_⟩
  · intro c hc
    exact List.mem_takeWhile_imp hc
  · intro c hc
    exact List.mem_rtakeWhile_imp hc
  · rw [trim_eq_rdropWhile, List.append_assoc, List.rdropWhile_append_rtakeWhile,
      List.takeWhile_append_dropWhile]

/-- What is left has no white space at its ends. -/
theorem isTrimmed_trim (s : List Char) : IsTrimmed (trim s) := by
  constructor
  · intro c hc
    have hne : trim s ≠ [] := List.ne_nil_of_mem (List.mem_of_mem_head? hc)
    have hfront : trim s <+: s.dropWhile isWhiteSpace := List.rdropWhile_prefix _ _
    rw [List.head?_eq_some_head hne, Option.mem_some] at hc
    calc
      isWhiteSpace c = isWhiteSpace ((s.dropWhile isWhiteSpace).head (hfront.ne_nil hne)) := by
        rw [← hc, hfront.head hne]
      _ = false := List.head_dropWhile_not _ _
  · intro c hc
    have hne : trim s ≠ [] := List.ne_nil_of_mem (List.mem_of_mem_getLast? hc)
    rw [List.getLast?_eq_some_getLast hne, Option.mem_some] at hc
    rw [← hc]
    exact Bool.eq_false_iff.mpr (List.rdropWhile_last_not _ _ hne)

end

end Text

/-! ### Tags between commas -/

/-- A tag that a string with commas can hold: it is not empty, has no comma in it and no white space
at its ends. -/
structure IsTag (tag : String) : Prop where
  ne_empty : tag ≠ ""
  no_comma : ',' ∉ tag.toList
  trimmed : Text.IsTrimmed tag.toList

/-- The parts between commas spell tags, one after the other. There may be white space around a tag,
and parts with nothing but white space do not count. -/
inductive SpellsTags : List String → List String → Prop
  | nil : SpellsTags [] []
  | blank {part : String} {parts tags : List String} (hpart : Text.IsBlank part.toList)
      (h : SpellsTags parts tags) : SpellsTags (part :: parts) tags
  | tag {before tag after : String} {parts tags : List String}
      (hbefore : Text.IsBlank before.toList) (htag : IsTag tag)
      (hafter : Text.IsBlank after.toList) (h : SpellsTags parts tags) :
      SpellsTags ((before ++ tag ++ after) :: parts) (tag :: tags)

def keptTags (parts : List (List Char)) : List String :=
  ((parts.map Text.trim).filter (!·.isEmpty)).map String.ofList

theorem splitTags_eq (raw : String) : splitTags raw = keptTags (Text.splitAt ',' raw.toList) := rfl

section

variable {part : List Char} {parts : List (List Char)}

theorem keptTags_cons_of_blank (h : Text.trim part = []) :
    keptTags (part :: parts) = keptTags parts := by
  simp only [keptTags, List.map_cons, h, List.filter_cons, List.isEmpty_nil, Bool.not_true,
    Bool.false_eq_true, if_false]

theorem keptTags_cons_of_tag (h : Text.trim part ≠ []) :
    keptTags (part :: parts) = String.ofList (Text.trim part) :: keptTags parts := by
  have hkept : (!(Text.trim part).isEmpty) = true := by simpa using h
  simp only [keptTags, List.map_cons, List.filter_cons, hkept, if_true]

end

section

variable {parts tags : List String}

theorem no_comma_of_isBlank {s : List Char} (h : Text.IsBlank s) : ',' ∉ s := by
  intro hmem
  exact absurd (h _ hmem) (by decide)

theorem IsTag.toList_ne_nil {tag : String} (h : IsTag tag) : tag.toList ≠ [] := by
  intro hnil
  exact h.ne_empty (String.toList_eq_nil_iff.mp hnil)

/-- Parts without commas spell the tags that are kept of them, and no others. -/
theorem spellsTags_iff :
    SpellsTags parts tags ↔
      (∀ part ∈ parts, ',' ∉ part.toList) ∧ keptTags (parts.map String.toList) = tags := by
  constructor
  · intro h
    induction h with
    | nil => exact ⟨nofun, rfl⟩
    | blank hpart _ ih =>
      refine ⟨List.forall_mem_cons.mpr ⟨no_comma_of_isBlank hpart, ih.1⟩, ?_⟩
      rw [List.map_cons, keptTags_cons_of_blank (Text.trim_of_isBlank hpart), ih.2]
    | @tag before tag after parts tags hbefore htag hafter _ ih =>
      have hchars : (before ++ tag ++ after).toList =
          before.toList ++ tag.toList ++ after.toList := by
        rw [String.toList_append, String.toList_append]
      have htrim : Text.trim (before ++ tag ++ after).toList = tag.toList := by
        rw [hchars, Text.trim_surrounded hbefore htag.trimmed hafter]
      have hcomma : ',' ∉ (before ++ tag ++ after).toList := by
        rw [hchars, List.mem_append, List.mem_append, not_or, not_or]
        exact ⟨⟨no_comma_of_isBlank hbefore, htag.no_comma⟩, no_comma_of_isBlank hafter⟩
      refine ⟨List.forall_mem_cons.mpr ⟨hcomma, ih.1⟩, ?_⟩
      rw [List.map_cons, keptTags_cons_of_tag (by rw [htrim]; exact htag.toList_ne_nil), htrim,
        String.ofList_toList, ih.2]
  · rintro ⟨hcommas, rfl⟩
    induction parts with
    | nil => exact .nil
    | cons part rest ih =>
      obtain ⟨hcomma, hcommas⟩ := List.forall_mem_cons.mp hcommas
      obtain ⟨before, after, hbefore, hafter, hpart⟩ := Text.exists_surroundings part.toList
      rw [List.map_cons]
      -- A part is blank or holds a tag, as something or nothing is left of it.
      by_cases hnil : Text.trim part.toList = []
      · rw [keptTags_cons_of_blank hnil]
        apply SpellsTags.blank _ (ih hcommas)
        rw [hpart, hnil, List.append_nil]
        exact List.forall_mem_append.mpr ⟨hbefore, hafter⟩
      · rw [keptTags_cons_of_tag hnil]
        have htag : IsTag (String.ofList (Text.trim part.toList)) := by
          refine ⟨?_, ?_, ?_⟩
          · intro hempty
            rw [← String.toList_eq_nil_iff, String.toList_ofList] at hempty
            exact hnil hempty
          · rw [String.toList_ofList]
            intro hmem
            rw [hpart] at hcomma
            exact hcomma (List.mem_append_left _ (List.mem_append_right _ hmem))
          · rw [String.toList_ofList]
            exact Text.isTrimmed_trim _
        have hspelt : String.ofList before ++ String.ofList (Text.trim part.toList) ++
            String.ofList after = part := by
          rw [← String.ofList_append, ← String.ofList_append, ← hpart, String.ofList_toList]
        have hblank : Text.IsBlank (String.ofList before).toList := by rwa [String.toList_ofList]
        have hblank' : Text.IsBlank (String.ofList after).toList := by rwa [String.toList_ofList]
        have hspells := SpellsTags.tag hblank htag hblank' (ih hcommas)
        rwa [hspelt] at hspells

/-- A string with commas gives the tags that the parts between its commas spell. -/
theorem splitTags_intercalate (h : SpellsTags parts tags) :
    splitTags (",".intercalate parts) = tags := by
  obtain ⟨hcommas, htags⟩ := spellsTags_iff.mp h
  rw [splitTags_eq, String.toList_intercalate]
  by_cases hnil : parts = []
  · -- No parts at all are written like a single empty one, and both spell no tags.
    subst hnil
    exact htags
  · have hne : parts.map String.toList ≠ [] := by simpa using hnil
    have hparts : ∀ part ∈ parts.map String.toList, ',' ∉ part := by
      intro part hpart
      obtain ⟨p, hp, rfl⟩ := List.mem_map.mp hpart
      exact hcommas p hp
    calc
      keptTags (Text.splitAt ',' ([','].intercalate (parts.map String.toList))) =
          keptTags (parts.map String.toList) := by rw [Text.splitAt_intercalate hne hparts]
      _ = tags := htags

/-- Every string spells the tags that it is split into. -/
theorem exists_spellsTags (raw : String) :
    ∃ parts, raw = ",".intercalate parts ∧ SpellsTags parts (splitTags raw) := by
  have hchars : ((Text.splitAt ',' raw.toList).map String.ofList).map String.toList =
      Text.splitAt ',' raw.toList := by
    simp only [List.map_map, Function.comp_def, String.toList_ofList, List.map_id']
  refine ⟨(Text.splitAt ',' raw.toList).map String.ofList, ?_, spellsTags_iff.mpr ⟨?_, ?_⟩⟩
  · apply String.toList_inj.mp
    rw [String.toList_intercalate, hchars]
    exact (Text.intercalate_splitAt ',' raw.toList).symm
  · intro part hpart
    obtain ⟨cs, hcs, rfl⟩ := List.mem_map.mp hpart
    rw [String.toList_ofList]
    exact Text.not_mem_of_mem_splitAt hcs
  · rw [hchars, splitTags_eq]

/-- What is spelled is a tag. -/
theorem SpellsTags.isTag (h : SpellsTags parts tags) : ∀ tag ∈ tags, IsTag tag := by
  induction h with
  | nil => exact nofun
  | blank _ _ ih => exact ih
  | tag _ htag _ _ ih => exact List.forall_mem_cons.mpr ⟨htag, ih⟩

/-- Tags spell themselves. -/
theorem SpellsTags.self (h : ∀ tag ∈ tags, IsTag tag) : SpellsTags tags tags := by
  induction tags with
  | nil => exact .nil
  | cons tag rest ih =>
    obtain ⟨htag, hrest⟩ := List.forall_mem_cons.mp h
    have hspelt : "" ++ tag ++ "" = tag := by rw [String.empty_append, String.append_empty]
    have hblank : Text.IsBlank "".toList := List.forall_mem_nil _
    have hspells := SpellsTags.tag hblank htag hblank (ih hrest)
    rwa [hspelt] at hspells

end

/-! ### Values that decode alike -/

section

variable {α : Type} {dec : Decoder α} {j k : Json}

/-- A decoder that does not tell two values apart, in whichever way they stand as documents. -/
def Decoder.Confuses (dec : Decoder α) (j k : Json) : Prop :=
  ∀ v : View, dec (v.document j) = dec (v.document k)

structure DecodesAlike (dec : Decoder α) (j k : Json) : Prop where
  value : dec.ofJson j = dec.ofJson k
  compact : ∀ {levels : Nat}, levels ≤ Json.depthLimit → Plain levels j → Plain levels k →
    dec.ofText (.ofSource (.ofString j.compact)) = dec.ofText (.ofSource (.ofString k.compact))
  pretty : ∀ {levels : Nat}, levels ≤ Json.depthLimit → Plain levels j → Plain levels k →
    dec.ofText (.ofSource (.ofString j.pretty)) = dec.ofText (.ofSource (.ofString k.pretty))

namespace Decoder.Confuses

/-- Values that are not told apart decode alike from their texts. -/
theorem decodesAlike (h : dec.Confuses j k) : DecodesAlike dec j k where
  value := h .byKey
  compact hlevels hj hk := by
    have hprinted : dec (Document.printed j) = dec (Document.printed k) := h .printed
    rw [Json.ofSource_compact hj hlevels, Json.ofSource_compact hk hlevels]
    simp only [Decoder.ofText, hprinted]
  pretty hlevels hj hk := by
    have hprinted : dec (Document.printed j) = dec (Document.printed k) := h .printed
    rw [Json.ofSource_pretty hj hlevels, Json.ofSource_pretty hk hlevels]
    simp only [Decoder.ofText, hprinted]

theorem option (h : dec.Confuses j k) (hj : j ≠ .null) (hk : k ≠ .null) :
    (Decoder.option dec).Confuses j k := by
  have hoption : ∀ d : Document, d ≠ .null → Decoder.option dec d = (dec d).map some := by
    intro d hd
    cases d <;> first | exact absurd rfl hd | rfl
  intro v
  rw [hoption _ (v.document_ne_null hj), hoption _ (v.document_ne_null hk), h v]

end Decoder.Confuses

theorem items_item (dec : Decoder α) (d : Document) (rest : Items) :
    Decoder.items dec (.item d rest) = do
      let a ← dec d
      let as ← Decoder.items dec rest
      return a :: as := by
  rw [Decoder.items]
  cases dec d with
  | error e => rfl
  | ok a => cases Decoder.items dec rest <;> rfl

theorem items_eq_mapM (dec : Decoder α) (v : View) (ds : List Document) :
    Decoder.items dec (v.items ds) = ds.mapM dec := by
  cases v with
  | byKey =>
    rw [View.items]
    -- The number of items is known from the start, so it does not go down with the list.
    generalize ds.length = total
    induction ds with
    | nil => rfl
    | cons d rest ih => rw [Items.ofList, items_item, ih, List.mapM_cons]
  | printed =>
    rw [View.items]
    induction ds with
    | nil => rfl
    | cons d rest ih => rw [Items.listed, items_item, ih, List.mapM_cons]

theorem Decoder.Confuses.list (h : dec.Confuses j k) (before after : List Json) :
    (Decoder.list dec).Confuses (.array (before ++ j :: after))
      (.array (before ++ k :: after)) := by
  intro v
  simp only [v.document_array, Decoder.list, items_eq_mapM, List.map_append, List.map_cons,
    List.mapM_append, List.mapM_cons, h v]

end

/-! ### A member within an object -/

namespace Json

section

variable {α β : Type} {R : String × α → String × β → Prop}

theorem forall₂_insertMember (hkey : ∀ m n, R m n → m.1 = n.1) {m : String × α} {n : String × β}
    (hmn : R m n) {ms : List (String × α)} {ns : List (String × β)} (h : List.Forall₂ R ms ns) :
    List.Forall₂ R (insertMember m.1 m.2 ms) (insertMember n.1 n.2 ns) := by
  obtain ⟨key, a⟩ := m
  obtain ⟨_, b⟩ := n
  obtain rfl := hkey _ _ hmn
  induction h with
  | nil => exact .cons hmn .nil
  | @cons x y _ _ hxy hrest ih =>
    obtain ⟨k, c⟩ := x
    obtain ⟨_, d⟩ := y
    obtain rfl := hkey _ _ hxy
    simp only [insertMember]
    split
    · exact .cons hmn (.cons hxy hrest)
    · split
      · exact .cons hxy ih
      · exact .cons hmn hrest

/-- Members that go together go together when they are sorted, if they have the same keys. -/
theorem forall₂_sortMembers (hkey : ∀ m n, R m n → m.1 = n.1) {ms : List (String × α)}
    {ns : List (String × β)} (h : List.Forall₂ R ms ns) :
    List.Forall₂ R (sortMembers ms) (sortMembers ns) := by
  unfold sortMembers
  refine List.rel_foldl (R := R) (P := List.Forall₂ R) ?_ .nil h
  intro _ _ hsorted _ _ hmn
  exact forall₂_insertMember hkey hmn hsorted

end

end Json

namespace Shape

variable {α : Type} {slots : List (Slot α)}

/-- Two members that a record reads alike: the same one twice, or two values of a key whose slot
takes them alike. -/
inductive ReadsAlike (slots : List (Slot α)) : String × Document → String × Document → Prop
  | same (m : String × Document) : ReadsAlike slots m m
  | slot {key : String} {slot : Slot α} {d e : Document}
      (hslot : slots.find? (·.key == key) = some slot) (hput : ∀ a, slot.put a d = slot.put a e) :
      ReadsAlike slots (key, d) (key, e)

theorem ReadsAlike.key_eq (m n : String × Document) (h : ReadsAlike slots m n) : m.1 = n.1 := by
  cases h <;> rfl

/-- Members that are read alike make the same record. -/
theorem readMembers_congr {ms ns : List (String × Document)}
    (h : List.Forall₂ (ReadsAlike slots) ms ns) (a : α) (seen : List String) :
    readMembers slots (Members.ofList ms) a seen =
      readMembers slots (Members.ofList ns) a seen := by
  induction h generalizing a seen with
  | nil => rfl
  | cons hmn _ ih =>
    cases hmn with
    | same m => simp only [Members.ofList, readMembers, ih]
    | slot hslot hput => simp only [Members.ofList, readMembers, hslot, hput, ih]

/-- Members around one that changes between values that its slot takes alike. -/
theorem forall₂_readsAlike {key : String} {slot : Slot α}
    (hslot : slots.find? (·.key == key) = some slot) (v : View) {j k : Json}
    (hput : ∀ a, slot.put a (v.document j) = slot.put a (v.document k))
    (before after : List (String × Json)) :
    List.Forall₂ (ReadsAlike slots)
      ((before ++ (key, j) :: after).map fun m => (m.1, v.document m.2))
      ((before ++ (key, k) :: after).map fun m => (m.1, v.document m.2)) := by
  have hsame : ∀ ms : List (String × Document), List.Forall₂ (ReadsAlike slots) ms ms :=
    fun ms => List.forall₂_same.mpr fun m _ => .same m
  rw [List.map_append, List.map_append]
  exact List.rel_append (hsame _) (.cons (.slot hslot hput) (hsame _))

theorem arrange_readsAlike (v : View) {ms ns : List (String × Document)}
    (h : List.Forall₂ (ReadsAlike slots) ms ns) :
    List.Forall₂ (ReadsAlike slots) (v.arrange ms) (v.arrange ns) := by
  cases v with
  | byKey => exact Json.forall₂_sortMembers ReadsAlike.key_eq h
  | printed => exact h

end Shape

section

variable {α β : Type} {dec : Decoder β} {set : α → β → α} {s : Shape α} {key : String} {j k : Json}

/-- A record does not tell apart what one of its optional slots does not tell apart. -/
theorem Decoder.Confuses.record (h : dec.Confuses j k)
    (hslot : s.slots.find? (·.key == key) = some (.optional key dec set))
    (before after : List (String × Json)) :
    s.decoder.Confuses (.object (before ++ (key, j) :: after))
      (.object (before ++ (key, k) :: after)) := by
  intro v
  have hput : ∀ a, (Slot.optional key dec set).put a (v.document j) =
      (Slot.optional key dec set).put a (v.document k) :=
    fun a => congrArg (Except.map (set a)) (h v)
  have hmembers := Shape.arrange_readsAlike v
    (Shape.forall₂_readsAlike hslot v hput before after)
  simp only [v.document_object, Shape.decoder, Shape.readMembers_congr hmembers]

end

/-! ### Tags in a payload -/

section

variable {parts tags : List String}

/-- A string is decoded as the tags between its commas. -/
theorem tags_document_string (v : View) (raw : String) :
    Decoder.tags (v.document (.string raw)) = .ok (splitTags raw) := by
  rw [v.document_string]
  rfl

/-- A string of tags is not told apart from their list. -/
theorem tags_confuses (h : SpellsTags parts tags) :
    Decoder.tags.Confuses (.string (",".intercalate parts)) (Json.strings tags) := by
  intro v
  calc
    Decoder.tags (v.document (.string (",".intercalate parts))) = .ok tags := by
      rw [tags_document_string, splitTags_intercalate h]
    _ = Decoder.tags (v.document (Json.strings tags)) := (Undoes.tags.decode v tags).symm

/-- Metadata with a string for its tags decodes unless the collections that are allowed do not. -/
theorem fieldMeta_of_string {members : List (String × Json)} {raw : String}
    (h : Json.member? members "special" = some (.string raw)) :
    Decoder.fieldMeta.ofJson (.object members) =
      ((Decoder.option (Decoder.list Decoder.string)).ofJson
        (Json.memberOrNull members "one_allowed_collections")).map (⟨splitTags raw, ·⟩) := by
  have hkeys : (Decoder.fieldMetaShape.slots.map (·.key)).Nodup := by decide
  have hslots : Decoder.fieldMetaShape.byKey =
      [.optional "one_allowed_collections" (Decoder.option (Decoder.list Decoder.string))
          fun m l => { m with oneAllowedCollections := l },
        .optional "special" Decoder.tags fun m t => { m with special := t }] := rfl
  have hmissing : (Decoder.fieldMetaShape.slots.find? fun slot =>
      slot.required && (Json.member? members slot.key).isNone) = none := rfl
  have htags : Decoder.tags (Document.ofJson (.string raw)) = .ok (splitTags raw) :=
    tags_document_string .byKey raw
  unfold Decoder.ofJson Decoder.fieldMeta
  rw [Shape.decoder_ofJson_object hkeys, hslots, hmissing]
  simp only [Shape.fill, Slot.take, Json.met?, Slot.optional, h, Option.map_some, htags]
  unfold Json.memberOrNull
  cases Json.member? members "one_allowed_collections" with
  | none => rfl
  | some j =>
    simp only [Option.map_some, Option.getD_some]
    cases Decoder.option (Decoder.list Decoder.string) (Document.ofJson j) <;> rfl

structure Surroundings (α : Type) where
  before : List α
  after : List α

def Surroundings.around {α : Type} (s : Surroundings α) (a : α) : List α :=
  s.before ++ a :: s.after

/-- The place of tags in a payload: what stands around them in the metadata, around the metadata in
the field, around the field among others and around all of them in the data model. -/
structure TagPlace where
  inMetadata : Surroundings (String × Json)
  inField : Surroundings (String × Json)
  inFields : Surroundings Json
  inModel : Surroundings (String × Json)

namespace TagPlace

variable (p : TagPlace)

def metadata (tags : Json) : Json := .object (p.inMetadata.around ("special", tags))

def field (tags : Json) : Json := .object (p.inField.around ("meta", p.metadata tags))

def model (tags : Json) : Json :=
  .object (p.inModel.around ("fields", .array (p.inFields.around (p.field tags))))

variable {j k : Json}

theorem metadata_confuses (h : Decoder.tags.Confuses j k) :
    Decoder.fieldMeta.Confuses (p.metadata j) (p.metadata k) :=
  h.record (s := Decoder.fieldMetaShape) rfl _ _

theorem field_confuses (h : Decoder.tags.Confuses j k) :
    Decoder.field.Confuses (p.field j) (p.field k) :=
  ((p.metadata_confuses h).option nofun nofun).record (s := Decoder.fieldShape) rfl _ _

theorem model_confuses (h : Decoder.tags.Confuses j k) :
    Decoder.dataModel.Confuses (p.model j) (p.model k) :=
  ((p.field_confuses h).list _ _).record (s := Decoder.dataModelShape) rfl _ _

/-- Two values for the tags make no difference: the metadata, the field and the data model decode
alike with either, the field carries the same relation, and the same schema is built. -/
structure SameFor (j k : Json) : Prop where
  metadata : DecodesAlike Decoder.fieldMeta (p.metadata j) (p.metadata k)
  field : DecodesAlike Decoder.field (p.field j) (p.field k)
  model : DecodesAlike Decoder.dataModel (p.model j) (p.model k)
  kind : ∀ relations, (Decoder.field.ofJson (p.field j)).map (·.relationKind relations) =
    (Decoder.field.ofJson (p.field k)).map (·.relationKind relations)
  built : ∀ naming, (Decoder.dataModel.ofJson (p.model j)).map (·.build naming) =
    (Decoder.dataModel.ofJson (p.model k)).map (·.build naming)

/-- If tags are not told apart, neither are the records around them. -/
theorem sameFor_of_confuses (h : Decoder.tags.Confuses j k) : p.SameFor j k where
  metadata := (p.metadata_confuses h).decodesAlike
  field := (p.field_confuses h).decodesAlike
  model := (p.model_confuses h).decodesAlike
  kind relations := by rw [(p.field_confuses h).decodesAlike.value]
  built naming := by rw [(p.model_confuses h).decodesAlike.value]

end TagPlace

/-- A string stands for the tags that the parts between its commas spell, in their order and as
often as they are there, and metadata decodes to them. Tags in turn are spelled by themselves, and
by parts with any white space around them and any number of blank parts between them. Wherever the
metadata is found, a string of such parts makes no difference to a list of the tags. -/
theorem tag_forms_agree :
    (∀ raw, (∀ tag ∈ splitTags raw, IsTag tag) ∧
      ∃ parts, raw = ",".intercalate parts ∧ SpellsTags parts (splitTags raw)) ∧
    (∀ members raw, Json.member? members "special" = some (.string raw) →
      Decoder.fieldMeta.ofJson (.object members) =
        ((Decoder.option (Decoder.list Decoder.string)).ofJson
          (Json.memberOrNull members "one_allowed_collections")).map (⟨splitTags raw, ·⟩)) ∧
    (∀ tags, (∀ tag ∈ tags, IsTag tag) → SpellsTags tags tags) ∧
    ∀ parts tags, SpellsTags parts tags →
      splitTags (",".intercalate parts) = tags ∧
        ∀ place : TagPlace,
          place.SameFor (.string (",".intercalate parts)) (Json.strings tags) := by
  refine ⟨?_, fun members raw => fieldMeta_of_string, fun tags => SpellsTags.self, ?_⟩
  · intro raw
    obtain ⟨parts, hraw, hparts⟩ := exists_spellsTags raw
    exact ⟨hparts.isTag, parts, hraw, hparts⟩
  · intro parts tags h
    refine ⟨splitTags_intercalate h, ?_⟩
    intro place
    exact place.sameFor_of_confuses (tags_confuses h)

def labelsPlace : TagPlace where
  inMetadata := ⟨[("interface", .string "tags")], []⟩
  inField := ⟨[("collection", .string "notes"), ("field", .string "labels")],
    [("type", .string "alias")]⟩
  inFields := ⟨[], []⟩
  inModel := ⟨[("collections", .array [.object [("collection", .string "notes")]])], []⟩

theorem spellsTags_labels : SpellsTags [" m2m", "\t", "no-data "] ["m2m", "no-data"] := by
  have hlist : IsTag "m2m" := ⟨by decide, by decide, Text.isTrimmed_of_ends rfl rfl rfl rfl⟩
  have hdata : IsTag "no-data" := ⟨by decide, by decide, Text.isTrimmed_of_ends rfl rfl rfl rfl⟩
  have hempty : Text.IsBlank "".toList := List.forall_mem_nil _
  have hspace : Text.IsBlank " ".toList := Text.isBlank_singleton rfl
  have htab : Text.IsBlank "\t".toList := Text.isBlank_singleton rfl
  exact .tag hspace hlist hempty (.blank htab (.tag hempty hdata hspace .nil))

/-- White space and an empty part between commas change nothing. -/
theorem tag_forms_agree_labels :
    SpellsTags [" m2m", "\t", "no-data "] ["m2m", "no-data"] ∧
    SpellsTags ["m2m", "no-data"] ["m2m", "no-data"] ∧
    splitTags " m2m,\t,no-data " = ["m2m", "no-data"] ∧
    labelsPlace.SameFor (.string " m2m,\t,no-data ") (Json.strings ["m2m", "no-data"]) ∧
    Decoder.fieldMeta.ofJson (labelsPlace.metadata (.string " m2m,\t,no-data ")) =
      .ok { special := ["m2m", "no-data"] } := by
  obtain ⟨-, hdecodes, hself, hspelt⟩ := tag_forms_agree
  have htext : ",".intercalate [" m2m", "\t", "no-data "] = " m2m,\t,no-data " := rfl
  have hlabels := hspelt _ _ spellsTags_labels
  rw [htext] at hlabels
  obtain ⟨hsplit, hsame⟩ := hlabels
  refine ⟨spellsTags_labels, hself _ spellsTags_labels.isTag, hsplit, hsame labelsPlace, ?_⟩
  calc
    Decoder.fieldMeta.ofJson (labelsPlace.metadata (.string " m2m,\t,no-data ")) =
        .ok { special := splitTags " m2m,\t,no-data " } :=
      hdecodes [("interface", .string "tags"), ("special", .string " m2m,\t,no-data ")] _ rfl
    _ = .ok { special := ["m2m", "no-data"] } := by rw [hsplit]

end

end ContentTypes
