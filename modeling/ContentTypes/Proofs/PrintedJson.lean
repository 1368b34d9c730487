import ContentTypes.Proofs.JsonText

/-! What a printed value is read as. The reader undoes the printer on every value without signs and
fractions, whether it stands on one line or on many. -/

namespace ContentTypes.Json

open Text (Source)

/-! ### Strings -/

theorem hexDigit?_hexDigit : ∀ n < 16, Text.hexDigit? (hexDigit n) = some n := by
  decide

theorem addUnit_control {st : StringState} (hlead : st.lead = none) {c : Char}
    (hc : c.toNat < 0x20) : st.addUnit c.toNat = st.addChar c := by
  have hhigh : (decide (0xD800 ≤ c.toNat) && decide (c.toNat ≤ 0xDBFF)) = false := by
    rw [decide_eq_false (by omega), Bool.false_and]
  have hlow : (decide (0xDC00 ≤ c.toNat) && decide (c.toNat ≤ 0xDFFF)) = false := by
    rw [decide_eq_false (by omega), Bool.false_and]
  simp only [StringState.addUnit, StringState.addChar, StringState.endLead, hlead, hhigh, hlow,
    Bool.false_eq_true, if_false, Char.ofNat_toNat]

/-- The escape of a character is read as the character. -/
theorem readString_escapeChar {st : StringState} (hlead : st.lead = none) (c : Char) (s : Source) :
    readString st ((escapeChar c).map some ++ s) = readString (st.addChar c) s := by
  unfold escapeChar
  split
  · subst c
    simp [readString, shortEscape?]
  split
  · subst c
    simp [readString, shortEscape?]
  split
  · obtain rfl : c = '\x08' := Char.toNat_inj.mp ‹_›
    simp [readString, shortEscape?]
  split
  · obtain rfl : c = '\x0c' := Char.toNat_inj.mp ‹_›
    simp [readString, shortEscape?]
  split
  · subst c
    simp [readString, shortEscape?]
  split
  · subst c
    simp [readString, shortEscape?]
  split
  · subst c
    simp [readString, shortEscape?]
  split
  · -- Control characters are written as a code of four digits, the first two of them zeros.
    rename_i hcontrol
    have hhigh := hexDigit?_hexDigit (c.toNat / 16) (by omega)
    have hlow := hexDigit?_hexDigit (c.toNat % 16) (by omega)
    have hzeros : Text.hexValue? ['0', '0'] = some 0 := by decide
    have hvalue := Text.hexValue?_append_singleton
      (Text.hexValue?_append_singleton hzeros hhigh) hlow
    have hcode : hex4? (some '0') (some '0') (some (hexDigit (c.toNat / 16)))
        (some (hexDigit (c.toNat % 16))) = some c.toNat := by
      refine hvalue.trans (congrArg some ?_)
      omega
    simp only [List.map_cons, List.map_nil, List.cons_append, List.nil_append, readString, hcode,
      addUnit_control hlead hcontrol]
  · rename_i hquote hslash _ _ _ _ _ hcontrol
    exact readString_plain st hquote hslash hcontrol s

theorem readString_escaped (cs : List Char) (s : Source) :
    ∀ read : List Char, readString { reversed := read } ((cs.flatMap escapeChar).map some ++ s) =
      readString { reversed := cs.reverse ++ read } s := by
  induction cs with
  | nil =>
    intro read
    rfl
  | cons c cs ih =>
    intro read
    rw [List.flatMap_cons, List.map_append, List.append_assoc, readString_escapeChar rfl,
      List.reverse_cons, List.append_assoc]
    exact ih (c :: read)

def quotedTail (s : String) : Source := (s.toList.flatMap escapeChar).map some ++ [some '"']

theorem quote_eq (s : String) : (quote s).map some = some '"' :: quotedTail s := by
  simp only [quote, quotedTail, List.cons_append, List.map_cons, List.map_append, List.map_nil]

/-- A quoted string is read as the string. -/
theorem readString_quotedTail (s : String) : readString {} (quotedTail s) = .done (.ok s) [] := by
  rw [quotedTail, readString_escaped s.toList [some '"'] [], List.append_nil]
  simp only [readString, StringState.close, StringState.endLead, List.reverse_reverse,
    String.ofList_toList]
  rfl

/-! ### Whole numbers -/

def digitValues (cs : List Char) : List Nat := cs.map fun c => c.toNat - 0x30

theorem takeDigits_map_some (cs : List Char) (h : ∀ c ∈ cs, c.isDigit = true) :
    takeDigits (cs.map some) = (digitValues cs, []) := by
  induction cs with
  | nil => rfl
  | cons c cs ih =>
    have hc := h c (List.mem_cons_self ..)
    have hcs := ih fun x hx => h x (List.mem_cons_of_mem _ hx)
    simp only [List.map_cons, takeDigits, digit?, hc, if_true, hcs, digitValues]

theorem isDigit_of_mem_toDigits {n : Nat} {c : Char} (hc : c ∈ Nat.toDigits 10 n) :
    c.isDigit = true :=
  Nat.isDigit_of_mem_toDigits (by decide) (Nat.le_refl 10) hc

theorem toNat_digitChar : ∀ n < 10, (Nat.digitChar n).toNat - 0x30 = n := by
  decide

theorem digitValues_toDigits_of_lt {n : Nat} (hn : n < 10) :
    digitValues (Nat.toDigits 10 n) = [n] := by
  rw [Nat.toDigits_of_lt_base hn, digitValues, List.map_cons, List.map_nil, toNat_digitChar n hn]

theorem digitValues_toDigits_of_le {n : Nat} (hn : 10 ≤ n) :
    digitValues (Nat.toDigits 10 n) = digitValues (Nat.toDigits 10 (n / 10)) ++ [n % 10] := by
  have hdigit := toNat_digitChar (n % 10) (by omega)
  rw [Nat.toDigits_of_base_le (by decide) hn, digitValues, List.map_append, List.map_cons,
    List.map_nil, hdigit]
  rfl

/-- Digits that fit 64 bits are taken in one after the other. -/
theorem ofWhole_toDigits (n : Nat) (hn : n < Nat.pow 2 64) :
    Significand.ofWhole (digitValues (Nat.toDigits 10 n)) = { value := n } := by
  induction n using Nat.strongRecOn with
  | ind n ih =>
    rcases Nat.lt_or_ge n 10 with hsmall | hlarge
    · have hroom : ¬Nat.pow 2 64 ≤ n := Nat.not_le.mpr hn
      rw [digitValues_toDigits_of_lt hsmall]
      simp [Significand.ofWhole, Significand.addWhole, hroom]
    · have hprefix := ih (n / 10) (by omega) (by omega)
      have hvalue : n / 10 * 10 + n % 10 = n := by omega
      have hroom : ¬Nat.pow 2 64 ≤ n := Nat.not_le.mpr hn
      unfold Significand.ofWhole at hprefix ⊢
      rw [digitValues_toDigits_of_le hlarge, List.foldl_append, hprefix]
      simp [Significand.addWhole, hvalue, hroom]

/-- The first digit of a positive number is not a zero. -/
theorem exists_digitValues (n : Nat) (hn : 0 < n) :
    ∃ d ds, digitValues (Nat.toDigits 10 n) = d :: ds ∧ d ≠ 0 := by
  induction n using Nat.strongRecOn with
  | ind n ih =>
    rcases Nat.lt_or_ge n 10 with hsmall | hlarge
    · exact ⟨n, [], digitValues_toDigits_of_lt hsmall, by omega⟩
    · obtain ⟨d, ds, heq, hd⟩ := ih (n / 10) (by omega) (by omega)
      refine ⟨d, ds ++ [n % 10], ?_, hd⟩
      rw [digitValues_toDigits_of_le hlarge, heq, List.cons_append]

/-- The digits of a number are read as these digits. -/
theorem readWhole_toDigits (n : Nat) :
    readWhole ((Nat.toDigits 10 n).map some) = .done (digitValues (Nat.toDigits 10 n)) [] := by
  have htake := takeDigits_map_some (Nat.toDigits 10 n) fun c hc => isDigit_of_mem_toDigits hc
  unfold readWhole
  rw [htake]
  -- A zero in front of other digits would be refused, and only the number zero begins with one.
  rcases Nat.eq_zero_or_pos n with rfl | hpos
  · rfl
  · obtain ⟨d, ds, heq, hd⟩ := exists_digitValues n hpos
    rw [heq]
    obtain ⟨k, rfl⟩ : ∃ k, d = k + 1 := ⟨d - 1, by omega⟩
    rfl

/-- The digits of a number of 64 bits are read as the number. -/
theorem readNumeral_toDigits (n : UInt64) :
    (readNumeral false ((Nat.toDigits 10 n.toNat).map some)).node numberDocument =
      (.number (.ok (.natural n)), some []) := by
  have hwhole := readWhole_toDigits n.toNat
  have hvalue := ofWhole_toDigits n.toNat n.toNat_lt
  simp only [readNumeral, hwhole, readFraction, readExponent, Step.node, numberDocument,
    Numeral.number?, hvalue, Option.isNone_none, Bool.not_false, Bool.and_self, if_true,
    UInt64.ofNat_toNat]

/-- A digit is none of the characters with which other values begin. -/
theorem readAfter_digit {c : Char} (hc : c.isDigit = true) (fuel depth : Nat) (s : Source) :
    readAfter fuel depth c s = (readNumeral false (some c :: s)).node numberDocument := by
  have hother : ∀ x : Char, x.isDigit = false → c ≠ x := by
    rintro x hx rfl
    rw [hc] at hx
    cases hx
  unfold readAfter
  rw [if_neg (hother 'n' rfl), if_neg (hother 't' rfl), if_neg (hother 'f' rfl),
    if_neg (hother '-' rfl), if_pos hc]

/-! ### Values -/

mutual

/-- A printed value as it is met: its members in the order in which they are printed. -/
def Document.printed : Json → Document
  | .null => .null
  | .bool b => .bool b
  | .number n => .number (.ok n)
  | .string s => .text (.ok s)
  | .array items => .array false (Items.listed (printedItems items))
  | .object members => .object false (Members.ofList (printedMembers members))

def printedItems : List Json → List Document
  | [] => []
  | j :: rest => Document.printed j :: printedItems rest

def printedMembers : List (String × Json) → List (String × Document)
  | [] => []
  | (key, j) :: rest => (key, Document.printed j) :: printedMembers rest

end

theorem printedItems_eq_map (items : List Json) :
    printedItems items = items.map Document.printed := by
  induction items with
  | nil => rfl
  | cons j rest ih => rw [printedItems, List.map_cons, ih]

theorem printedMembers_eq_map (members : List (String × Json)) :
    printedMembers members = members.map fun m => (m.1, Document.printed m.2) := by
  induction members with
  | nil => rfl
  | cons m rest ih => rw [printedMembers, List.map_cons, ih]

/-- A value whose numbers are natural and that is nested less than so many levels deep. -/
inductive Plain : Nat → Json → Prop
  | null {levels : Nat} : Plain (levels + 1) .null
  | bool {levels : Nat} (b : Bool) : Plain (levels + 1) (.bool b)
  | natural {levels : Nat} (n : UInt64) : Plain (levels + 1) (.natural n)
  | string {levels : Nat} (s : String) : Plain (levels + 1) (.string s)
  | array {levels : Nat} (items : List Json) (h : ∀ j ∈ items, Plain (levels + 1) j) :
    Plain (levels + 2) (.array items)
  | object {levels : Nat} (members : List (String × Json))
    (h : ∀ m ∈ members, Plain (levels + 1) m.2) : Plain (levels + 2) (.object members)

theorem Plain.mono {levels more : Nat} {j : Json} (h : Plain levels j) (hle : levels ≤ more) :
    Plain more j := by
  induction h generalizing more with
  | null =>
    obtain ⟨n, rfl⟩ : ∃ n, more = n + 1 := ⟨more - 1, by omega⟩
    exact .null
  | bool b =>
    obtain ⟨n, rfl⟩ : ∃ n, more = n + 1 := ⟨more - 1, by omega⟩
    exact .bool b
  | natural k =>
    obtain ⟨n, rfl⟩ : ∃ n, more = n + 1 := ⟨more - 1, by omega⟩
    exact .natural k
  | string s =>
    obtain ⟨n, rfl⟩ : ∃ n, more = n + 1 := ⟨more - 1, by omega⟩
    exact .string s
  | array items _ ih =>
    obtain ⟨n, rfl⟩ : ∃ n, more = n + 2 := ⟨more - 2, by omega⟩
    exact .array items fun j hj => ih j hj (by omega)
  | object members _ ih =>
    obtain ⟨n, rfl⟩ : ∃ n, more = n + 2 := ⟨more - 2, by omega⟩
    exact .object members fun m hm => ih m hm (by omega)

theorem spells_null (levels : Nat) : Spells (levels + 1) ("null".toList.map some) .null := by
  refine ⟨⟨1, [], ?_, blank_nil⟩, Nat.succ_pos levels⟩
  simp [readValue, skipBlanks, isBlank, readWord, Step.node]

theorem spells_bool (levels : Nat) (b : Bool) :
    Spells (levels + 1) ((boolChars b).map some) (.bool b) := by
  refine ⟨⟨1, [], ?_, blank_nil⟩, Nat.succ_pos levels⟩
  cases b <;> simp [boolChars, readValue, skipBlanks, isBlank, readWord, Step.node]

theorem spells_natural (levels : Nat) (n : UInt64) :
    Spells (levels + 1) ((Number.natural n).text.toList.map some) (.number (.ok (.natural n))) := by
  refine ⟨⟨1, [], ?_, blank_nil⟩, Nat.succ_pos levels⟩
  have htext : (Number.natural n).text.toList = Nat.toDigits 10 n.toNat := by
    simp only [Number.text, Nat.toString_eq_repr, Nat.toList_repr]
  rw [htext]
  have hread := readNumeral_toDigits n
  have hdigits : ∀ c ∈ Nat.toDigits 10 n.toNat, c.isDigit = true :=
    fun c hc => isDigit_of_mem_toDigits hc
  cases hchars : Nat.toDigits 10 n.toNat with
  | nil => exact absurd hchars Nat.toDigits_ne_nil
  | cons c cs =>
    rw [hchars] at hread hdigits
    have hc := hdigits c (List.mem_cons_self ..)
    have hblank : isBlank (some c) = false := by
      by_contra hcontra
      simp only [isBlank, Bool.not_eq_false, Bool.or_eq_true, decide_eq_true_eq] at hcontra
      rcases hcontra with ((rfl | rfl) | rfl) | rfl <;> exact absurd hc (by decide)
    rw [List.map_cons, readValue_eq_readAfter 0 0 (skipBlanks_cons hblank _), readAfter_digit hc]
    exact hread

/-- A quoted string spells the string. -/
theorem spells_quote (levels : Nat) (s : String) :
    Spells (levels + 1) ((quote s).map some) (.text (.ok s)) := by
  refine ⟨⟨1, [], ?_, blank_nil⟩, Nat.succ_pos levels⟩
  rw [quote_eq, readValue_eq_readAfter 0 0 (skipBlanks_cons (by decide) _)]
  simp [readAfter, readString_quotedTail, Step.node]

def printedMember (before : Source) (hbefore : Blank before) (value : Json → Source)
    (m : String × Json) : MemberText where
  before := before
  blank_before := hbefore
  quoted := quotedTail m.1
  key := m.1
  read_quoted := readString_quotedTail m.1
  between := []
  blank_between := blank_nil
  value := value m.2

theorem printedMember_text {before : Source} (hbefore : Blank before) (value : Json → Source)
    (m : String × Json) :
    (printedMember before hbefore value m).text =
      before ++ ((quote m.1).map some ++ some ':' :: value m.2) := by
  rw [quote_eq]
  rfl

theorem spells_printedMembers {levels : Nat} (hlevels : levels < depthLimit) {before inner : Source}
    (hbefore : Blank before) (hinner : Blank inner) (hpos : 0 < levels) (value : Json → Source)
    (members : List (String × Json))
    (h : ∀ m ∈ members, Spells levels (value m.2) (Document.printed m.2)) :
    Spells (levels + 1)
      (objectText (members.map fun m => before ++ ((quote m.1).map some ++ some ':' :: value m.2))
        inner [])
      (Document.printed (.object members)) := by
  have hspells := @spells_objectText _ _ (printedMember before hbefore value)
    (fun m => Document.printed m.2) _ hpos hlevels hinner [] blank_nil members h
  simp only [printedMember_text] at hspells
  rw [Document.printed, printedMembers_eq_map]
  exact hspells

theorem spells_printedItems {levels : Nat} (hlevels : levels < depthLimit) {inner : Source}
    (hinner : Blank inner) (hpos : 0 < levels) (value : Json → Source) (items : List Json)
    (h : ∀ j ∈ items, Spells levels (value j) (Document.printed j)) :
    Spells (levels + 1) (arrayText (items.map value) inner [])
      (Document.printed (.array items)) := by
  rw [Document.printed, printedItems_eq_map]
  exact spells_arrayText hpos hlevels hinner blank_nil items h

theorem compactItems_eq (items : List Json) :
    (compactItems items).map some =
      itemsText (items.map fun j => (compactChars j).map some) [] [] := by
  induction items with
  | nil => rfl
  | cons j rest ih =>
    cases rest with
    | nil => simp [compactItems, itemsText, separated, behindCommas]
    | cons k rest =>
      simp only [itemsText, List.map_cons, separated, behindCommas_cons, List.append_assoc,
        List.cons_append, List.nil_append] at ih ⊢
      rw [compactItems, List.map_append, List.map_cons, ih]
      simp

theorem compactMembers_eq (members : List (String × Json)) :
    (compactMembers members).map some =
      membersText (members.map fun m => [] ++ ((quote m.1).map some ++
        some ':' :: (compactChars m.2).map some)) [] [] := by
  induction members with
  | nil => rfl
  | cons m rest ih =>
    obtain ⟨key, j⟩ := m
    cases rest with
    | nil => simp [compactMembers, membersText, separated, behindCommas]
    | cons k rest =>
      simp only [membersText, List.map_cons, separated, behindCommas_cons, List.append_assoc,
        List.cons_append, List.nil_append] at ih ⊢
      rw [compactMembers, List.map_append, List.map_cons, List.map_append, List.map_cons, ih]
      · simp
      · simp

/-- The text on one line spells the value. -/
theorem spells_compactChars {levels : Nat} {j : Json} (h : Plain levels j)
    (hlevels : levels ≤ depthLimit) :
    Spells levels ((compactChars j).map some) (Document.printed j) := by
  induction h with
  | null => exact spells_null _
  | bool b => exact spells_bool _ b
  | natural n => exact spells_natural _ n
  | string s => exact spells_quote _ s
  | array items _ ih =>
    rw [compactChars, List.map_cons, compactItems_eq]
    exact spells_printedItems (by omega) blank_nil (Nat.succ_pos _) _ items
      fun j hj => ih j hj (by omega)
  | object members _ ih =>
    rw [compactChars, List.map_cons, compactMembers_eq]
    exact spells_printedMembers (by omega) blank_nil blank_nil (Nat.succ_pos _)
      (fun j => (compactChars j).map some) members fun m hm => ih m hm (by omega)

theorem blank_newLine (level : Nat) : Blank ((newLine level).map some) := by
  intro c hc
  rw [newLine, List.map_cons, List.map_replicate, List.mem_cons, List.mem_replicate] at hc
  rcases hc with rfl | ⟨-, rfl⟩ <;> decide

theorem prettyItems_eq (level : Nat) (items : List Json) :
    (prettyItems level items).map some =
      separated
        (items.map fun j => (newLine level).map some ++ (prettyChars level j).map some) := by
  induction items with
  | nil => rfl
  | cons j rest ih =>
    cases rest with
    | nil => simp [prettyItems, separated, behindCommas]
    | cons k rest =>
      simp only [List.map_cons, separated, behindCommas_cons] at ih ⊢
      rw [prettyItems, List.map_append, List.map_append, List.map_cons, ih]
      simp

theorem prettyMembers_eq (level : Nat) (members : List (String × Json)) :
    (prettyMembers level members).map some =
      separated (members.map fun m => (newLine level).map some ++ ((quote m.1).map some ++
        some ':' :: ([some ' '] ++ (prettyChars level m.2).map some))) := by
  induction members with
  | nil => rfl
  | cons m rest ih =>
    obtain ⟨key, j⟩ := m
    cases rest with
    | nil => simp [prettyMembers, separated, behindCommas]
    | cons k rest =>
      simp only [List.map_cons, separated, behindCommas_cons] at ih ⊢
      rw [prettyMembers, List.map_append, List.map_append, List.map_append, List.map_cons,
        List.map_cons, List.map_cons, ih]
      · simp
      · simp

theorem blank_space : Blank [some ' '] := by
  intro c hc
  obtain rfl : c = some ' ' := List.mem_singleton.mp hc
  rfl

/-- The lines of an array are the text of an array with breaks around its items. An empty one is on
one line. -/
theorem prettyChars_array (level : Nat) (items : List Json) :
    ∃ inner, Blank inner ∧ (prettyChars level (.array items)).map some =
      arrayText (items.map fun j =>
        (newLine (level + 1)).map some ++ (prettyChars (level + 1) j).map some) inner [] := by
  cases items with
  | nil => exact ⟨[], blank_nil, rfl⟩
  | cons j rest =>
    refine ⟨(newLine level).map some, blank_newLine level, ?_⟩
    rw [arrayText, itemsText, ← prettyItems_eq, prettyChars]
    · simp
    · simp

/-- A printed object is a text of members, whether it has any or not. -/
theorem prettyChars_object (level : Nat) (members : List (String × Json)) :
    ∃ inner, Blank inner ∧ (prettyChars level (.object members)).map some =
      objectText (members.map fun m => (newLine (level + 1)).map some ++ ((quote m.1).map some ++
        some ':' :: ([some ' '] ++ (prettyChars (level + 1) m.2).map some))) inner [] := by
  cases members with
  | nil => exact ⟨[], blank_nil, rfl⟩
  | cons m rest =>
    refine ⟨(newLine level).map some, blank_newLine level, ?_⟩
    rw [objectText, membersText, ← prettyMembers_eq, prettyChars]
    · simp
    · simp

/-- The text on many lines spells the value. -/
theorem spells_prettyChars {levels : Nat} {j : Json} (h : Plain levels j)
    (hlevels : levels ≤ depthLimit) :
    ∀ level, Spells levels ((prettyChars level j).map some) (Document.printed j) := by
  induction h with
  | null => exact fun _ => spells_null _
  | bool b => exact fun _ => spells_bool _ b
  | natural n => exact fun _ => spells_natural _ n
  | string s => exact fun _ => spells_quote _ s
  | array items _ ih =>
    intro level
    obtain ⟨inner, hinner, htext⟩ := prettyChars_array level items
    rw [htext]
    exact spells_printedItems (by omega) hinner (Nat.succ_pos _) _ items
      fun j hj => (ih j hj (by omega) (level + 1)).blank_append (blank_newLine _)
  | object members _ ih =>
    intro level
    obtain ⟨inner, hinner, htext⟩ := prettyChars_object level members
    rw [htext]
    exact spells_printedMembers (by omega) (blank_newLine (level + 1)) hinner (Nat.succ_pos _)
      (fun j => [some ' '] ++ (prettyChars (level + 1) j).map some) members
      fun m hm => (ih m hm (by omega) (level + 1)).blank_append blank_space

/-- The printed texts of a value are read as the printed value. -/
theorem ofSource_compact {levels : Nat} {j : Json} (h : Plain levels j)
    (hlevels : levels ≤ depthLimit) :
    Whole.ofSource (Source.ofString j.compact) = ⟨Document.printed j, false⟩ := by
  rw [Source.ofString, compact, String.toList_ofList]
  exact (spells_compactChars h hlevels).ofSource_eq hlevels

theorem ofSource_pretty {levels : Nat} {j : Json} (h : Plain levels j)
    (hlevels : levels ≤ depthLimit) :
    Whole.ofSource (Source.ofString j.pretty) = ⟨Document.printed j, false⟩ := by
  rw [Source.ofString, pretty, String.toList_ofList]
  exact (spells_prettyChars h hlevels 0).ofSource_eq hlevels

end ContentTypes.Json
