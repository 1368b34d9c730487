import ContentTypes.Proofs.PrintedJson
import Mathlib.Tactic.Choose

/-! Printed values of any depth. Whoever keeps a value as a whole refuses one that is nested too
deep, but its text says what it is all the same. So a text is printed for one value only. -/

namespace ContentTypes.Json

open Text (Source)

/-! ### Reading without a limit -/

mutual

/-- The document with nothing in it marked as too deep to be kept. -/
def Document.unlimited : Document → Document
  | .array _ items => .array false items.unlimited
  | .object _ members => .object false members.unlimited
  | d => d

def Items.unlimited : Items → Items
  | .item value rest => .item value.unlimited rest.unlimited
  | items => items

def Members.unlimited : Members → Members
  | .member key value rest => .member key value.unlimited rest.unlimited
  | members => members

end

def Whole.content (t : Whole) : Reading Json := Whole.value ⟨t.document.unlimited, t.trailing⟩

theorem unlimited_listed (ds : List Document) :
    (Items.listed ds).unlimited = Items.listed (ds.map Document.unlimited) := by
  induction ds with
  | nil => rfl
  | cons d rest ih => rw [Items.listed, Items.unlimited, ih, List.map_cons, Items.listed]

theorem unlimited_ofList (ms : List (String × Document)) :
    (Members.ofList ms).unlimited = Members.ofList (ms.map fun m => (m.1, m.2.unlimited)) := by
  induction ms with
  | nil => rfl
  | cons m rest ih =>
    obtain ⟨key, d⟩ := m
    rw [Members.ofList, Members.unlimited, ih, List.map_cons, Members.ofList]

mutual

/-- What a printed value is met as holds the value. -/
theorem value_printed : ∀ j, (Document.printed j).value = .ok j
  | .null | .bool _ | .number _ | .string _ => rfl
  | .array items => by
    simp only [Document.printed, Document.value, refuseDeep, values_printedItems items]
    rfl
  | .object members => by
    simp only [Document.printed, Document.value, refuseDeep, values_printedMembers members]
    rfl

theorem values_printedItems : ∀ items, (Items.listed (printedItems items)).values = .ok items
  | [] => rfl
  | j :: rest => by
    simp only [printedItems, Items.listed, Items.values, value_printed j, values_printedItems rest]
    rfl

theorem values_printedMembers :
    ∀ members, (Members.ofList (printedMembers members)).values = .ok members
  | [] => rfl
  | (key, j) :: rest => by
    simp only [printedMembers, Members.ofList, Members.values, value_printed j,
      values_printedMembers rest]
    rfl

end

/-! ### Texts that say a value -/

/-- At every depth the text is read as the printed value, apart from the marks of what is too
deep. -/
def Says (s : Source) (j : Json) : Prop :=
  ∀ depth, ∃ d, ReadAs depth s d ∧ d.unlimited = Document.printed j

namespace Says

variable {s : Source} {j : Json}

theorem blank_append (h : Says s j) {b : Source} (hb : Blank b) : Says (b ++ s) j := by
  intro depth
  obtain ⟨d, hread, hd⟩ := h depth
  exact ⟨d, hread.blank_append hb, hd⟩

theorem append_blank (h : Says s j) {b : Source} (hb : Blank b) : Says (s ++ b) j := by
  intro depth
  obtain ⟨d, hread, hd⟩ := h depth
  exact ⟨d, hread.append_blank hb, hd⟩

/-- A text that says a value is read as the value, however deep it is nested. -/
theorem content_eq (h : Says s j) : (Whole.ofSource s).content = .ok j := by
  obtain ⟨d, hread, hd⟩ := h 0
  -- Nothing is marked as too deep any more, so no part of the value is refused.
  rw [hread.ofSource_eq, Whole.content, hd, Whole.value, value_printed]
  rfl

end Says

/-- What is no array and no object is read in the same way at every depth. -/
theorem says_of_spells {s : Source} {d : Document} {j : Json} (h : Spells 1 s d)
    (hd : d.unlimited = Document.printed j) : Says s j := by
  intro depth
  have hzero : ReadAs 0 s d := h.readAs (by decide)
  obtain ⟨c, u, hs, -⟩ := hzero.exists_skipBlanks
  obtain ⟨blanks, hblanks, hread⟩ := hzero
  refine ⟨d, ⟨blanks, hblanks, fun fuel t hfuel ht => ?_⟩, hd⟩
  obtain ⟨f, rfl⟩ : ∃ f, fuel = f + 1 := ⟨fuel - 1, by omega⟩
  -- Only what begins with a bracket or a brace looks at the depth, and it is nested.
  have hvalue := hread (f + 1) t hfuel ht
  have hnesting := h.nesting_lt
  rw [readValue_eq_readAfter f _ (skipBlanks_append hs t)] at hvalue ⊢
  have hbracket : c ≠ '[' := by
    rintro rfl
    obtain ⟨rfl, -⟩ := Prod.mk.inj hvalue
    exact absurd hnesting (by simp [Document.nesting])
  have hbrace : c ≠ '\x7b' := by
    rintro rfl
    obtain ⟨rfl, -⟩ := Prod.mk.inj hvalue
    exact absurd hnesting (by simp [Document.nesting])
  simp only [readAfter, if_neg hbracket, if_neg hbrace] at hvalue ⊢
  exact hvalue

theorem says_items {inner : Source} (hinner : Blank inner) (value : Json → Source)
    (items : List Json) (h : ∀ j ∈ items, Says (value j) j) :
    Says (arrayText (items.map value) inner []) (.array items) := by
  intro depth
  choose! document hread hprinted using fun j hj => h j hj (depth + 1)
  refine ⟨_, readAs_arrayText hinner blank_nil items hread, ?_⟩
  have hitems : (items.map document).map Document.unlimited = items.map Document.printed := by
    rw [List.map_map]
    exact List.map_congr_left hprinted
  rw [Document.unlimited, unlimited_listed, hitems, Document.printed, printedItems_eq_map]

theorem says_members {before inner : Source} (hbefore : Blank before) (hinner : Blank inner)
    (value : Json → Source) (members : List (String × Json))
    (h : ∀ m ∈ members, Says (value m.2) m.2) :
    Says
      (objectText (members.map fun m => before ++ ((quote m.1).map some ++ some ':' :: value m.2))
        inner [])
      (.object members) := by
  intro depth
  choose! document hread hprinted using fun m hm => h m hm (depth + 1)
  have hobject : ReadAs depth
      (objectText (members.map fun m => (printedMember before hbefore value m).text) inner [])
      (.object (decide (depthLimit ≤ depth + 1))
        (Members.ofList (members.map fun m => (m.1, document m)))) :=
    readAs_objectText hinner blank_nil members hread
  simp only [printedMember_text] at hobject
  refine ⟨_, hobject, ?_⟩
  have hmembers : (members.map fun m => (m.1, document m)).map (fun m => (m.1, m.2.unlimited)) =
      members.map fun m => (m.1, Document.printed m.2) := by
    rw [List.map_map]
    exact List.map_congr_left fun m hm => congrArg (Prod.mk m.1) (hprinted m hm)
  rw [Document.unlimited, unlimited_ofList, hmembers, Document.printed, printedMembers_eq_map]

/-! ### Printed values -/

theorem says_prettyChars {levels : Nat} {j : Json} (h : Plain levels j) :
    ∀ level, Says ((prettyChars level j).map some) j := by
  induction h with
  | null => exact fun _ => says_of_spells (spells_null 0) rfl
  | bool b => exact fun _ => says_of_spells (spells_bool 0 b) rfl
  | natural n => exact fun _ => says_of_spells (spells_natural 0 n) rfl
  | string s => exact fun _ => says_of_spells (spells_quote 0 s) rfl
  | array items _ ih =>
    intro level
    obtain ⟨inner, hinner, htext⟩ := prettyChars_array level items
    rw [htext]
    exact says_items hinner _ items
      fun j hj => (ih j hj (level + 1)).blank_append (blank_newLine _)
  | object members _ ih =>
    intro level
    obtain ⟨inner, hinner, htext⟩ := prettyChars_object level members
    rw [htext]
    exact says_members (blank_newLine (level + 1)) hinner
      (fun j => [some ' '] ++ (prettyChars (level + 1) j).map some) members
      fun m hm => (ih m hm (level + 1)).blank_append blank_space

section

variable {levels : Nat} {j : Json}

/-- The lines of a value as they are printed, with a break behind the last one. -/
theorem ofString_lines (j : Json) : Source.ofString (j.pretty ++ "\n") =
    (prettyChars 0 j).map some ++ (newLine 0).map some := by
  rw [Source.ofString, String.toList_append, List.map_append, pretty, String.toList_ofList]
  rfl

/-- The lines of a value are read as the value, however deep it is nested. -/
theorem content_lines (h : Plain levels j) :
    (Whole.ofSource (Source.ofString (j.pretty ++ "\n"))).content = .ok j := by
  rw [ofString_lines]
  exact ((says_prettyChars h 0).append_blank (blank_newLine 0)).content_eq

/-- A value that is nested less deep than the limit is also kept. -/
theorem value_lines (h : Plain levels j) (hlevels : levels ≤ depthLimit) :
    (Whole.ofSource (Source.ofString (j.pretty ++ "\n"))).value = .ok j := by
  have hread : ReadAs 0 ((prettyChars 0 j).map some) (Document.printed j) :=
    (spells_prettyChars h hlevels 0).readAs (by omega)
  rw [ofString_lines, (hread.append_blank (blank_newLine 0)).ofSource_eq, Whole.value,
    value_printed]
  rfl

/-- Values with one printed text are equal. -/
theorem eq_of_pretty_eq {more : Nat} {k : Json} (hj : Plain levels j) (hk : Plain more k)
    (h : j.pretty = k.pretty) : j = k := by
  have hcontent := content_lines hj
  rw [h, content_lines hk] at hcontent
  exact (Except.ok.inj hcontent).symm

/-- Values of different depths are all nested less than some number of levels deep. -/
theorem exists_plain_of_forall (js : List Json) (h : ∀ j ∈ js, ∃ levels, Plain levels j) :
    ∃ levels, ∀ j ∈ js, Plain levels j := by
  induction js with
  | nil => exact ⟨0, List.forall_mem_nil _⟩
  | cons j rest ih =>
    obtain ⟨n, hn⟩ := h j (List.mem_cons_self ..)
    obtain ⟨m, hm⟩ := ih fun k hk => h k (List.mem_cons_of_mem _ hk)
    refine ⟨max n m, List.forall_mem_cons.mpr ⟨hn.mono (Nat.le_max_left n m), ?_⟩⟩
    exact fun k hk => (hm k hk).mono (Nat.le_max_right n m)

end

end ContentTypes.Json
