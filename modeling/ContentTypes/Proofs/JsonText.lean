import ContentTypes.Proofs.JsonReading
import Mathlib.Data.List.TakeWhile

/-! The texts of arrays and objects, put together from the texts of their items and members. What
such a text is read as is put together in the same way from what the parts are read as. -/

namespace ContentTypes.Json

open Text (Source)

def Blank (s : Source) : Prop := ∀ c ∈ s, isBlank c = true

theorem blank_nil : Blank [] := by
  intro c hc
  cases hc

theorem blank_iff {s : Source} : Blank s ↔ skipBlanks s = [] :=
  List.dropWhile_eq_nil_iff.symm

theorem skipBlanks_blank {b : Source} (hb : Blank b) (s : Source) :
    skipBlanks (b ++ s) = skipBlanks s :=
  List.dropWhile_append_of_pos hb

theorem skipBlanks_cons {c : Option Char} (hc : isBlank c = false) (s : Source) :
    skipBlanks (c :: s) = c :: s := by
  rw [skipBlanks, List.dropWhile_cons, if_neg (by simp [hc])]

/-- Blanks in front of a value do not count. -/
theorem readValue_blank {b : Source} (hb : Blank b) (fuel depth : Nat) (s : Source) :
    readValue fuel depth (b ++ s) = readValue fuel depth s := by
  cases fuel with
  | zero => simp only [readValue]
  | succ fuel => simp only [readValue, skipBlanks_blank hb]

theorem readValue_skipBlanks (fuel depth : Nat) (s : Source) :
    readValue fuel depth (skipBlanks s) = readValue fuel depth s := by
  have hsplit : s.takeWhile isBlank ++ skipBlanks s = s := List.takeWhile_append_dropWhile
  have hblank : Blank (s.takeWhile isBlank) := by
    intro c hc
    exact List.mem_takeWhile_imp hc
  calc readValue fuel depth (skipBlanks s)
      = readValue fuel depth (s.takeWhile isBlank ++ skipBlanks s) :=
        (readValue_blank hblank fuel depth _).symm
    _ = readValue fuel depth s := by rw [hsplit]

theorem ends_cons {c : Option Char} (hc : continuesNumber c = false) (t : Source) :
    Ends (c :: t) := by
  intro x hx
  obtain rfl : c = x := Option.some.inj hx
  exact hc

theorem ends_blank_append {b t : Source} (hb : Blank b) (ht : Ends t) : Ends (b ++ t) := by
  cases b with
  | nil => exact ht
  | cons c b =>
    apply ends_cons
    have hc := hb c (List.mem_cons_self ..)
    cases c with
    | none => rfl
    | some c =>
      simp only [isBlank, Bool.or_eq_true, decide_eq_true_eq] at hc
      rcases hc with ((rfl | rfl) | rfl) | rfl <;> decide

/-- A text with nothing but blanks around a value that is nested less than so many levels deep. -/
structure Spells (levels : Nat) (s : Source) (d : Document) : Prop where
  read : ∃ fuel blanks, readValue fuel 0 s = (d, some blanks) ∧ Blank blanks
  nesting_lt : d.nesting < levels

namespace Spells

variable {levels : Nat} {s : Source} {d : Document}

theorem mono (h : Spells levels s d) {more : Nat} (hle : levels ≤ more) : Spells more s d :=
  ⟨h.read, Nat.lt_of_lt_of_le h.nesting_lt hle⟩

theorem blank_append (h : Spells levels s d) {b : Source} (hb : Blank b) :
    Spells levels (b ++ s) d := by
  obtain ⟨fuel, blanks, hread, hblanks⟩ := h.read
  refine ⟨⟨fuel, blanks, ?_, hblanks⟩, h.nesting_lt⟩
  rw [readValue_blank hb]
  exact hread

/-- The value is read again with more text after it. -/
theorem readValue_append (h : Spells levels s d) (hlevels : levels ≤ depthLimit) :
    d.skip = .ok () ∧ ∃ blanks, Blank blanks ∧
      ∀ fuel depth t, 3 * s.length + 1 ≤ fuel → depth + levels ≤ depthLimit → Ends t →
        readValue fuel depth (s ++ t) = (d, some (blanks ++ t)) := by
  obtain ⟨fuel, blanks, hread, hblanks⟩ := h.read
  have hnesting := h.nesting_lt
  obtain ⟨hskip, -, hmore⟩ := (continues_all fuel).1 0 s d blanks hread (by omega)
  refine ⟨hskip, blanks, hblanks, ?_⟩
  intro fuel' depth t hfuel hdepth ht
  exact hmore fuel' depth t hfuel (by omega) ht

theorem skip_eq (h : Spells levels s d) (hlevels : levels ≤ depthLimit) : d.skip = .ok () :=
  (h.readValue_append hlevels).1

end Spells

/-- At this depth the text is read as the document, and at most blanks of it are left in front of
what follows. -/
def ReadAs (depth : Nat) (s : Source) (d : Document) : Prop :=
  ∃ blanks, Blank blanks ∧ ∀ fuel t, 3 * s.length + 1 ≤ fuel → Ends t →
    readValue fuel depth (s ++ t) = (d, some (blanks ++ t))

namespace ReadAs

variable {depth : Nat} {s : Source} {d : Document}

theorem exists_readValue (h : ReadAs depth s d) :
    ∃ fuel blanks, readValue fuel depth s = (d, some blanks) ∧ Blank blanks := by
  obtain ⟨blanks, hblanks, hread⟩ := h
  have hvalue := hread _ [] (Nat.le_refl _) (fun c hc => nomatch hc)
  rw [List.append_nil, List.append_nil] at hvalue
  exact ⟨_, blanks, hvalue, hblanks⟩

/-- The first character that is not blank begins a value, so it closes nothing. -/
theorem exists_skipBlanks (h : ReadAs depth s d) : ∃ c u, skipBlanks s = some c :: u ∧ c ≠ ']' := by
  obtain ⟨fuel, blanks, hvalue, -⟩ := h.exists_readValue
  obtain ⟨f, c, u, -, hs, hafter⟩ := exists_skipBlanks_of_readValue hvalue
  refine ⟨c, u, hs, ?_⟩
  rintro rfl
  simp [readAfter] at hafter

/-- A text that is read with nothing but blanks behind it is read as a whole. -/
theorem ofSource_eq (h : ReadAs 0 s d) : Whole.ofSource s = ⟨d, false⟩ := by
  obtain ⟨blanks, hblanks, hread⟩ := h
  have hwhole := hread (3 * s.length + 3) [] (by omega) (fun c hc => nomatch hc)
  rw [List.append_nil, List.append_nil] at hwhole
  simp only [Whole.ofSource, hwhole, blank_iff.mp hblanks]
  rfl

theorem blank_append (h : ReadAs depth s d) {b : Source} (hb : Blank b) :
    ReadAs depth (b ++ s) d := by
  obtain ⟨blanks, hblanks, hread⟩ := h
  refine ⟨blanks, hblanks, fun fuel t hfuel ht => ?_⟩
  rw [List.length_append] at hfuel
  rw [List.append_assoc, readValue_blank hb]
  exact hread fuel t (by omega) ht

theorem append_blank (h : ReadAs depth s d) {b : Source} (hb : Blank b) :
    ReadAs depth (s ++ b) d := by
  obtain ⟨blanks, hblanks, hread⟩ := h
  have hleft : Blank (blanks ++ b) := by
    intro c hc
    rcases List.mem_append.mp hc with hc | hc
    · exact hblanks c hc
    · exact hb c hc
  refine ⟨blanks ++ b, hleft, fun fuel t hfuel ht => ?_⟩
  rw [List.length_append] at hfuel
  rw [List.append_assoc, List.append_assoc]
  exact hread fuel (b ++ t) (by omega) (ends_blank_append hb ht)

end ReadAs

namespace Spells

variable {levels : Nat} {s : Source} {d : Document}

/-- A value is read as what it spells at every depth with room for it. -/
theorem readAs (h : Spells levels s d) {depth : Nat} (hdepth : depth + levels ≤ depthLimit) :
    ReadAs depth s d := by
  obtain ⟨-, blanks, hblanks, hread⟩ := h.readValue_append (by omega)
  exact ⟨blanks, hblanks, fun fuel t hfuel ht => hread fuel depth t hfuel hdepth ht⟩

/-- A text that spells a document is read as that document, with nothing after it. -/
theorem ofSource_eq (h : Spells levels s d) (hlevels : levels ≤ depthLimit) :
    Whole.ofSource s = ⟨d, false⟩ :=
  (h.readAs (by omega)).ofSource_eq

/-- What a text spells is the document that it is read as. -/
theorem eq_document (h : Spells levels s d) (hlevels : levels ≤ depthLimit) :
    d = (Whole.ofSource s).document := by
  rw [h.ofSource_eq hlevels]

end Spells

def behindCommas (texts : List Source) : Source := texts.flatMap (some ',' :: ·)

def separated : List Source → Source
  | [] => []
  | t :: rest => t ++ behindCommas rest

theorem behindCommas_cons (t : Source) (rest : List Source) :
    behindCommas (t :: rest) = some ',' :: (t ++ behindCommas rest) := by
  simp only [behindCommas, List.flatMap_cons, List.cons_append]

theorem ends_behindCommas (texts : List Source) {t : Source} (ht : Ends t) :
    Ends (behindCommas texts ++ t) := by
  cases texts with
  | nil => exact ht
  | cons text rest =>
    rw [behindCommas_cons]
    exact ends_cons (by decide) _

def Items.listed : List Document → Items
  | [] => .closed none
  | d :: rest => .item d (Items.listed rest)

def itemsText (texts : List Source) (inner after : Source) : Source :=
  separated texts ++ (inner ++ some ']' :: after)

section

variable {ι : Type} {depth levels : Nat} {text : ι → Source} {document : ι → Document}
  {inner : Source}

/-- Items behind commas are read one after the other, up to the bracket. -/
theorem readItems_behindCommas (hinner : Blank inner) (after : Source) (items : List ι)
    (h : ∀ i ∈ items, ReadAs depth (text i) (document i)) :
    ∀ blanks fuel, Blank blanks → 3 * (behindCommas (items.map text)).length + 1 ≤ fuel →
      readItems fuel depth false
          (blanks ++ (behindCommas (items.map text) ++ (inner ++ some ']' :: after))) =
        (Items.listed (items.map document), some after) := by
  induction items with
  | nil =>
    intro blanks fuel hblanks hfuel
    obtain ⟨f, rfl⟩ : ∃ f, fuel = f + 1 := ⟨fuel - 1, by omega⟩
    apply separated_readItems.close
    rw [skipBlanks_blank hblanks]
    exact (skipBlanks_blank hinner _).trans (skipBlanks_cons (by decide) _)
  | cons i rest ih =>
    intro blanks fuel hblanks hfuel
    rw [List.map_cons, behindCommas_cons, List.length_cons, List.length_append] at hfuel
    obtain ⟨f, rfl⟩ : ∃ f, fuel = f + 2 := ⟨fuel - 2, by omega⟩
    obtain ⟨blanks', hblanks', hread⟩ := h i (List.mem_cons_self ..)
    have hends : Ends (behindCommas (rest.map text) ++ (inner ++ some ']' :: after)) :=
      ends_behindCommas _ (ends_blank_append hinner (ends_cons (by decide) _))
    have hvalue := hread f _ (by omega) hends
    have hrest := ih (fun j hj => h j (List.mem_cons_of_mem _ hj)) blanks' f hblanks' (by omega)
    have hcomma : skipBlanks (blanks ++ (behindCommas ((i :: rest).map text) ++
        (inner ++ some ']' :: after))) =
          some ',' ::
            (text i ++ (behindCommas (rest.map text) ++ (inner ++ some ']' :: after))) := by
      rw [skipBlanks_blank hblanks, List.map_cons, behindCommas_cons, List.cons_append,
        List.append_assoc]
      exact skipBlanks_cons (by decide) _
    rw [separated_readItems.next (f + 1) depth false hcomma (by decide)]
    simp only [Bool.false_eq_true, if_false, if_true, id_eq, readItem, hvalue, hrest,
      List.map_cons, Items.listed]

theorem readItems_itemsText (hinner : Blank inner) (after : Source) (items : List ι)
    (h : ∀ i ∈ items, ReadAs depth (text i) (document i)) (fuel : Nat)
    (hfuel : 3 * (separated (items.map text)).length + 3 ≤ fuel) :
    readItems fuel depth true (itemsText (items.map text) inner after) =
      (Items.listed (items.map document), some after) := by
  obtain ⟨f, rfl⟩ : ∃ f, fuel = f + 2 := ⟨fuel - 2, by omega⟩
  cases items with
  | nil =>
    apply separated_readItems.close
    exact (skipBlanks_blank hinner _).trans (skipBlanks_cons (by decide) _)
  | cons i rest =>
    rw [List.map_cons, separated, List.length_append] at hfuel
    have hi := h i (List.mem_cons_self ..)
    obtain ⟨c, u, hc, hclose⟩ := hi.exists_skipBlanks
    obtain ⟨blanks, hblanks, hread⟩ := hi
    have hends : Ends (behindCommas (rest.map text) ++ (inner ++ some ']' :: after)) :=
      ends_behindCommas _ (ends_blank_append hinner (ends_cons (by decide) _))
    have hvalue := hread f _ (by omega) hends
    have hrest := readItems_behindCommas hinner after rest
      (fun j hj => h j (List.mem_cons_of_mem _ hj)) blanks f hblanks (by omega)
    have hfirst : skipBlanks (itemsText ((i :: rest).map text) inner after) =
        some c :: (u ++ (behindCommas (rest.map text) ++ (inner ++ some ']' :: after))) := by
      rw [itemsText, List.map_cons, separated, List.append_assoc]
      exact skipBlanks_append hc _
    rw [separated_readItems.next (f + 1) depth true hfirst (by simpa using hclose)]
    -- The blanks in front of the first item are passed over either way.
    have hsame : readValue f depth (some c :: (u ++ (behindCommas (rest.map text) ++
        (inner ++ some ']' :: after)))) =
          readValue f depth (text i ++ (behindCommas (rest.map text) ++
            (inner ++ some ']' :: after))) := by
      rw [← hfirst, readValue_skipBlanks, itemsText, List.map_cons, separated,
        List.append_assoc]
    simp only [if_true, readItem, hsame, hvalue, hrest, List.map_cons, Items.listed]

def arrayText (texts : List Source) (inner after : Source) : Source :=
  some '[' :: itemsText texts inner after

/-- The text of an array of texts is read as the array of what these are read as. -/
theorem readAs_arrayText (hinner : Blank inner) {after : Source} (hafter : Blank after)
    (items : List ι) (h : ∀ i ∈ items, ReadAs (depth + 1) (text i) (document i)) :
    ReadAs depth (arrayText (items.map text) inner after)
      (.array (decide (depthLimit ≤ depth + 1)) (Items.listed (items.map document))) := by
  refine ⟨after, hafter, fun fuel t hfuel _ => ?_⟩
  have hlength : (separated (items.map text)).length + 2 ≤
      (arrayText (items.map text) inner after).length := by
    simp only [arrayText, itemsText, List.length_cons, List.length_append]
    omega
  obtain ⟨f, rfl⟩ : ∃ f, fuel = f + 1 := ⟨fuel - 1, by omega⟩
  have hread := readItems_itemsText hinner (after ++ t) items h f (by omega)
  have happend : arrayText (items.map text) inner after ++ t =
      some '[' :: itemsText (items.map text) inner (after ++ t) := by
    simp only [arrayText, itemsText, List.cons_append, List.append_assoc]
  rw [happend, readValue_eq_readAfter f depth (skipBlanks_cons (by decide) _)]
  simp only [readAfter, hread]
  rfl

theorem nesting_listed_lt (hpos : 0 < levels) (items : List ι)
    (h : ∀ i ∈ items, (document i).nesting < levels) :
    (Items.listed (items.map document)).nesting < levels := by
  induction items with
  | nil => exact hpos
  | cons i rest ih =>
    have hi := h i (List.mem_cons_self ..)
    have hrest := ih (fun j hj => h j (List.mem_cons_of_mem _ hj))
    rw [List.map_cons, Items.listed, Items.nesting]
    omega

/-- The text of an array spells the array of what the texts of the items spell. -/
theorem spells_arrayText (hpos : 0 < levels) (hlevels : levels < depthLimit) (hinner : Blank inner)
    {after : Source} (hafter : Blank after) (items : List ι)
    (h : ∀ i ∈ items, Spells levels (text i) (document i)) :
    Spells (levels + 1) (arrayText (items.map text) inner after)
      (.array false (Items.listed (items.map document))) := by
  have hread : ReadAs 0 (arrayText (items.map text) inner after)
      (.array false (Items.listed (items.map document))) :=
    readAs_arrayText hinner hafter items fun i hi => (h i hi).readAs (by omega)
  have hnesting := nesting_listed_lt hpos items (fun i hi => (h i hi).nesting_lt)
  refine ⟨hread.exists_readValue, ?_⟩
  rw [Document.nesting]
  omega

end

structure MemberText where
  before : Source
  blank_before : Blank before
  quoted : Source
  key : String
  read_quoted : readString {} quoted = .done (.ok key) []
  between : Source
  blank_between : Blank between
  value : Source

def MemberText.tail (m : MemberText) : Source :=
  some '"' :: (m.quoted ++ (m.between ++ some ':' :: m.value))

def MemberText.text (m : MemberText) : Source := m.before ++ m.tail

theorem MemberText.skipBlanks_text (m : MemberText) (t : Source) :
    skipBlanks (m.text ++ t) = m.tail ++ t := by
  rw [MemberText.text, List.append_assoc, skipBlanks_blank m.blank_before]
  exact skipBlanks_cons (by decide) _

def membersText (texts : List Source) (inner after : Source) : Source :=
  separated texts ++ (inner ++ some '\x7d' :: after)

def objectText (texts : List Source) (inner after : Source) : Source :=
  some '\x7b' :: membersText texts inner after

section

variable {ι : Type} {depth levels : Nat} {member : ι → MemberText} {document : ι → Document}
  {inner : Source}

def memberDocument (member : ι → MemberText) (document : ι → Document) (i : ι) :
    String × Document :=
  ((member i).key, document i)

/-- One member is read as its key and its value, and then come the members after it. -/
theorem readMember_tail (m : MemberText) {d : Document} (h : ReadAs depth m.value d) :
    ∃ blanks, Blank blanks ∧ ∀ fuel t, 3 * m.text.length ≤ fuel → Ends t →
      readMember (fuel + 1) depth (m.tail ++ t) =
        (.member (.ok m.key) d (readMembers fuel depth false (blanks ++ t)).1,
          (readMembers fuel depth false (blanks ++ t)).2) := by
  obtain ⟨blanks, hblanks, hread⟩ := h
  refine ⟨blanks, hblanks, ?_⟩
  intro fuel t hfuel ht
  have hlength : m.value.length + 1 ≤ m.text.length := by
    simp only [MemberText.text, MemberText.tail, List.length_append, List.length_cons]
    omega
  have hvalue := hread fuel t (by omega) ht
  have hkey : readString {} (m.quoted ++ (m.between ++ some ':' :: (m.value ++ t))) =
      .done (.ok m.key) (m.between ++ some ':' :: (m.value ++ t)) :=
    readString_append m.read_quoted _
  have hcolon : skipBlanks (m.between ++ some ':' :: (m.value ++ t)) =
      some ':' :: (m.value ++ t) :=
    (skipBlanks_blank m.blank_between _).trans (skipBlanks_cons (by decide) _)
  have htail :
      m.tail ++ t = some '"' :: (m.quoted ++ (m.between ++ some ':' :: (m.value ++ t))) := by
    simp only [MemberText.tail, List.cons_append, List.append_assoc]
  rw [htail, readMember_of_key fuel depth hkey hcolon, hvalue]

/-- Members behind commas are read one after the other, up to the brace. -/
theorem readMembers_behindCommas (hinner : Blank inner) (after : Source) (items : List ι)
    (h : ∀ i ∈ items, ReadAs depth (member i).value (document i)) :
    ∀ blanks fuel, Blank blanks →
      3 * (behindCommas (items.map fun i => (member i).text)).length + 1 ≤ fuel →
      readMembers fuel depth false (blanks ++ (behindCommas (items.map fun i => (member i).text) ++
          (inner ++ some '\x7d' :: after))) =
        (Members.ofList (items.map (memberDocument member document)), some after) := by
  induction items with
  | nil =>
    intro blanks fuel hblanks hfuel
    obtain ⟨f, rfl⟩ : ∃ f, fuel = f + 1 := ⟨fuel - 1, by omega⟩
    apply separated_readMembers.close
    rw [skipBlanks_blank hblanks]
    exact (skipBlanks_blank hinner _).trans (skipBlanks_cons (by decide) _)
  | cons i rest ih =>
    intro blanks fuel hblanks hfuel
    rw [List.map_cons, behindCommas_cons, List.length_cons, List.length_append] at hfuel
    obtain ⟨f, rfl⟩ : ∃ f, fuel = f + 2 := ⟨fuel - 2, by omega⟩
    obtain ⟨blanks', hblanks', hread⟩ := readMember_tail (member i) (h i (List.mem_cons_self ..))
    have hends : Ends (behindCommas (rest.map fun i => (member i).text) ++
        (inner ++ some '\x7d' :: after)) :=
      ends_behindCommas _ (ends_blank_append hinner (ends_cons (by decide) _))
    have hmember := hread f _ (by omega) hends
    have hrest := ih (fun j hj => h j (List.mem_cons_of_mem _ hj)) blanks' f hblanks' (by omega)
    have hcomma : skipBlanks (blanks ++ (behindCommas ((i :: rest).map fun i => (member i).text) ++
        (inner ++ some '\x7d' :: after))) =
          some ',' :: ((member i).text ++ (behindCommas (rest.map fun i => (member i).text) ++
            (inner ++ some '\x7d' :: after))) := by
      rw [skipBlanks_blank hblanks, List.map_cons, behindCommas_cons, List.cons_append,
        List.append_assoc]
      exact skipBlanks_cons (by decide) _
    rw [separated_readMembers.next (f + 1) depth false hcomma (by decide)]
    simp only [Bool.false_eq_true, if_false, if_true, MemberText.skipBlanks_text, hmember, hrest,
      List.map_cons, memberDocument, Members.ofList]

theorem readMembers_membersText (hinner : Blank inner) (after : Source) (items : List ι)
    (h : ∀ i ∈ items, ReadAs depth (member i).value (document i)) (fuel : Nat)
    (hfuel : 3 * (separated (items.map fun i => (member i).text)).length + 3 ≤ fuel) :
    readMembers fuel depth true (membersText (items.map fun i => (member i).text) inner after) =
      (Members.ofList (items.map (memberDocument member document)), some after) := by
  obtain ⟨f, rfl⟩ : ∃ f, fuel = f + 2 := ⟨fuel - 2, by omega⟩
  cases items with
  | nil =>
    apply separated_readMembers.close
    exact (skipBlanks_blank hinner _).trans (skipBlanks_cons (by decide) _)
  | cons i rest =>
    rw [List.map_cons, separated, List.length_append] at hfuel
    have hlength : 0 < (member i).text.length := by
      simp only [MemberText.text, MemberText.tail, List.length_append, List.length_cons]
      omega
    obtain ⟨blanks, hblanks, hread⟩ := readMember_tail (member i) (h i (List.mem_cons_self ..))
    have hends : Ends (behindCommas (rest.map fun i => (member i).text) ++
        (inner ++ some '\x7d' :: after)) :=
      ends_behindCommas _ (ends_blank_append hinner (ends_cons (by decide) _))
    have hmember := hread f _ (by omega) hends
    have hrest := readMembers_behindCommas hinner after rest
      (fun j hj => h j (List.mem_cons_of_mem _ hj)) blanks f hblanks (by omega)
    have hfirst : skipBlanks (membersText ((i :: rest).map fun i => (member i).text) inner after) =
        (member i).tail ++ (behindCommas (rest.map fun i => (member i).text) ++
          (inner ++ some '\x7d' :: after)) := by
      rw [membersText, List.map_cons, separated, List.append_assoc, MemberText.skipBlanks_text]
    rw [separated_readMembers.next (f + 1) depth true hfirst (by decide)]
    rw [if_pos rfl]
    refine Eq.trans hmember ?_
    simp only [hrest, List.map_cons, memberDocument, Members.ofList]

/-- The text of an object of texts is read as the object of what these are read as. -/
theorem readAs_objectText (hinner : Blank inner) {after : Source} (hafter : Blank after)
    (items : List ι) (h : ∀ i ∈ items, ReadAs (depth + 1) (member i).value (document i)) :
    ReadAs depth (objectText (items.map fun i => (member i).text) inner after)
      (.object (decide (depthLimit ≤ depth + 1))
        (Members.ofList (items.map (memberDocument member document)))) := by
  refine ⟨after, hafter, fun fuel t hfuel _ => ?_⟩
  have hlength : (separated (items.map fun i => (member i).text)).length + 2 ≤
      (objectText (items.map fun i => (member i).text) inner after).length := by
    simp only [objectText, membersText, List.length_cons, List.length_append]
    omega
  obtain ⟨f, rfl⟩ : ∃ f, fuel = f + 1 := ⟨fuel - 1, by omega⟩
  have hread := readMembers_membersText hinner (after ++ t) items h f (by omega)
  have happend : objectText (items.map fun i => (member i).text) inner after ++ t =
      some '\x7b' :: membersText (items.map fun i => (member i).text) inner (after ++ t) := by
    simp only [objectText, membersText, List.cons_append, List.append_assoc]
  rw [happend, readValue_eq_readAfter f depth (skipBlanks_cons (by decide) _)]
  simp only [readAfter, hread]
  rfl

theorem nesting_ofList_lt (hpos : 0 < levels) (items : List ι)
    (h : ∀ i ∈ items, (document i).nesting < levels) :
    (Members.ofList (items.map (memberDocument member document))).nesting < levels := by
  induction items with
  | nil => exact hpos
  | cons i rest ih =>
    have hi := h i (List.mem_cons_self ..)
    have hrest := ih (fun j hj => h j (List.mem_cons_of_mem _ hj))
    rw [List.map_cons, memberDocument, Members.ofList, Members.nesting]
    omega

/-- The text of an object spells the object of what the texts of the values spell. -/
theorem spells_objectText (hpos : 0 < levels) (hlevels : levels < depthLimit)
    (hinner : Blank inner) {after : Source} (hafter : Blank after) (items : List ι)
    (h : ∀ i ∈ items, Spells levels (member i).value (document i)) :
    Spells (levels + 1) (objectText (items.map fun i => (member i).text) inner after)
      (.object false (Members.ofList (items.map (memberDocument member document)))) := by
  have hread : ReadAs 0 (objectText (items.map fun i => (member i).text) inner after)
      (.object false (Members.ofList (items.map (memberDocument member document)))) :=
    readAs_objectText hinner hafter items fun i hi => (h i hi).readAs (by omega)
  have hnesting :
      (Members.ofList (items.map (memberDocument member document))).nesting < levels :=
    nesting_ofList_lt hpos items fun i hi => (h i hi).nesting_lt
  refine ⟨hread.exists_readValue, ?_⟩
  rw [Document.nesting]
  omega

end

end ContentTypes.Json
