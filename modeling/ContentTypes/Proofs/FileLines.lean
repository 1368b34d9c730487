import ContentTypes.Declarations
import Mathlib.Data.List.Basic

/-! Reading the lines of a declaration file. Lines without breaks are found again in their text, a
block is its body with one more unit of indentation, and a body is cut into interfaces at the lines
that open and close them. -/

namespace ContentTypes

/-! ### Lines -/

def IsLine (s : String) : Prop := '\n' ∉ s.toList

instance (s : String) : Decidable (IsLine s) := inferInstanceAs (Decidable ('\n' ∉ s.toList))

def linesOf (text : String) : List String := (text.toList.splitOn '\n').map String.ofList

def brokenLines (lines : List String) : String := String.join (lines.map (· ++ "\n"))

theorem isLine_append (s t : String) : IsLine (s ++ t) ↔ IsLine s ∧ IsLine t := by
  unfold IsLine
  rw [String.toList_append, List.mem_append, not_or]

theorem IsLine.append {s t : String} (hs : IsLine s) (ht : IsLine t) : IsLine (s ++ t) :=
  (isLine_append s t).mpr ⟨hs, ht⟩

theorem isLine_intercalate {separator : String} (hseparator : IsLine separator)
    {lines : List String} (h : ∀ l ∈ lines, IsLine l) : IsLine (separator.intercalate lines) := by
  induction lines with
  | nil =>
    rw [String.intercalate_nil]
    decide
  | cons l rest ih =>
    have hl := h l List.mem_cons_self
    have hrest := ih fun x hx => h x (List.mem_cons_of_mem l hx)
    cases rest with
    | nil => rwa [String.intercalate_singleton]
    | cons x rest =>
      rw [String.intercalate_cons_cons]
      exact (hl.append hseparator).append hrest

/-- Lines with a break after each are lines with breaks between them, the last one empty. -/
theorem toList_brokenLines (lines : List String) :
    (brokenLines lines).toList = ['\n'].intercalate ((lines ++ [""]).map String.toList) := by
  unfold brokenLines
  induction lines with
  | nil => rfl
  | cons l rest ih =>
    obtain ⟨x, more, hmore⟩ := List.exists_cons_of_ne_nil
      (show (rest ++ [""]).map String.toList ≠ [] by simp)
    rw [List.map_cons, String.join_cons, String.toList_append, ih, List.cons_append, List.map_cons,
      hmore]
    simp [List.intercalate]

/-- A text of whole lines is read as these lines, with nothing behind the last break. -/
theorem linesOf_brokenLines {lines : List String} (h : ∀ l ∈ lines, IsLine l) :
    linesOf (brokenLines lines) = lines ++ [""] := by
  have hparts : ∀ l ∈ (lines ++ [""]).map String.toList, '\n' ∉ l := by
    intro l hl
    obtain ⟨s, hs, rfl⟩ := List.mem_map.mp hl
    rcases List.mem_append.mp hs with hs | hs
    · exact h s hs
    · rw [List.mem_singleton.mp hs]
      decide
  unfold linesOf
  rw [toList_brokenLines, List.splitOn_intercalate _ hparts (by simp), List.map_map]
  simp [Function.comp_def]

theorem brokenLines_append (lines more : List String) :
    brokenLines (lines ++ more) = brokenLines lines ++ brokenLines more := by
  unfold brokenLines
  rw [List.map_append, String.join_append]

/-! ### Indentation -/

def indentLine (unit line : String) : String := if line = "" then "" else unit ++ line

def outdentLine (unit line : String) : String := String.ofList (line.toList.drop unit.length)

theorem outdentLine_append (unit line : String) : outdentLine unit (unit ++ line) = line := by
  unfold outdentLine
  rw [String.toList_append, ← String.length_toList, List.drop_left, String.ofList_toList]

/-- Indenting a line is undone by taking the first unit off. -/
theorem outdentLine_indentLine (unit line : String) :
    outdentLine unit (indentLine unit line) = line := by
  unfold indentLine
  split
  · rename_i hblank
    rw [hblank]
    unfold outdentLine
    simp
  · exact outdentLine_append unit line

theorem IsLine.indentLine {unit line : String} (hunit : IsLine unit) (h : IsLine line) :
    IsLine (indentLine unit line) := by
  unfold ContentTypes.indentLine
  split
  · decide
  · exact hunit.append h

theorem blockLine_eq (unit line : String) : blockLine unit line = indentLine unit line ++ "\n" := by
  unfold blockLine indentLine
  by_cases hblank : line = ""
  · rw [if_pos hblank, hblank]
    rfl
  · rw [if_neg hblank, if_neg (by simpa using hblank)]

def blockLines (header : String) (body : List String) (unit : String) : List String :=
  (header ++ " \x7b") :: body.map (indentLine unit) ++ ["\x7d"]

/-- A block is written line by line. -/
theorem declareBlock_eq (header : String) (body : List String) (unit : String) :
    declareBlock header body unit = brokenLines (blockLines header body unit) := by
  have hbody : String.join (body.map (blockLine unit)) =
      brokenLines (body.map (indentLine unit)) := by
    unfold brokenLines
    rw [List.map_map]
    exact congrArg String.join (List.map_congr_left fun line _ => blockLine_eq unit line)
  unfold declareBlock blockLines
  rw [brokenLines_append, ← List.singleton_append, brokenLines_append, hbody]
  simp [brokenLines, String.join_cons, String.append_assoc]

/-! ### Interfaces -/

/-- An interface as it is read: whether it is exported, its name, and its member lines without
indentation. -/
structure Declared where
  exported : Bool
  name : String
  members : List String
  deriving DecidableEq

namespace Declared

def opening (d : Declared) : String :=
  (if d.exported then "export interface " else "interface ") ++ d.name ++ " \x7b"

def lines (unit : String) (d : Declared) : List String :=
  d.opening :: d.members.map (unit ++ ·) ++ ["\x7d"]

def spaced (unit : String) (ds : List Declared) : List String :=
  [""].intercalate (ds.map (lines unit))

def between? (front back line : String) : Option String :=
  ((line.toList.dropPrefix? front.toList).bind (·.dropSuffix? back.toList)).map String.ofList

def opened? (line : String) : Option Declared :=
  match between? "interface " " \x7b" line with
  | some name => some ⟨false, name, []⟩
  | none => (between? "export interface " " \x7b" line).map (⟨true, ·, []⟩)

/-- Cuts lines into interfaces at the lines that open and close them. Blank lines between interfaces
are passed over; every line of an open interface is a member, up to the line that closes it. -/
def cut (unit : String) : Option Declared → List String → Option (List Declared)
  | none, [] => some []
  | some _, [] => none
  | none, line :: rest =>
    if line = "" then cut unit none rest
    else match opened? line with
      | none => none
      | some d => cut unit (some d) rest
  | some d, line :: rest =>
    if line = "\x7d" then (cut unit none rest).map (d :: ·)
    else cut unit (some { d with members := d.members ++ [outdentLine unit line] }) rest

theorem between?_append (front name back : String) :
    between? front back (front ++ name ++ back) = some name := by
  have hfront : ((front ++ name ++ back).toList.dropPrefix? front.toList) =
      some (name.toList ++ back.toList) := by
    rw [String.toList_append, String.toList_append, List.append_assoc]
    exact List.dropPrefix?_eq_some_iff.mpr ⟨front.toList, rfl, beq_self_eq_true _⟩
  have hback : ((name.toList ++ back.toList).dropSuffix? back.toList) = some name.toList :=
    List.dropSuffix?_eq_some_iff.mpr ⟨back.toList, rfl, beq_self_eq_true _⟩
  unfold between?
  rw [hfront, Option.bind_some, hback, Option.map_some, String.ofList_toList]

theorem opened?_opening (d : Declared) : opened? d.opening = some { d with members := [] } := by
  obtain ⟨exported, name, members⟩ := d
  unfold opened? opening
  cases exported with
  | false =>
    have hname := between?_append "interface " name " \x7b"
    simp only [Bool.false_eq_true, if_false, hname]
  | true =>
    have hname := between?_append "export interface " name " \x7b"
    -- The two ways of opening differ in their first character.
    have hother : between? "interface " " \x7b" ("export interface " ++ name ++ " \x7b") =
        none := by
      unfold between?
      rw [String.toList_append, String.toList_append]
      rfl
    simp only [if_true, hother, hname, Option.map_some]

theorem opening_ne_empty (d : Declared) : d.opening ≠ "" := by
  unfold opening
  simp

/-- A line that does not close the interface is one more member. -/
theorem cut_members (unit : String) (rest : List String) {members : List String} (d : Declared)
    (h : ∀ line ∈ members, unit ++ line ≠ "\x7d") :
    cut unit (some d) (members.map (unit ++ ·) ++ "\x7d" :: rest) =
      (cut unit none rest).map ({ d with members := d.members ++ members } :: ·) := by
  -- The open interface gathers the members, so it changes from line to line.
  induction members generalizing d with
  | nil =>
    rw [List.map_nil, List.nil_append, cut, if_pos rfl, List.append_nil]
  | cons line more ih =>
    have hline := h line List.mem_cons_self
    have hmore : ∀ line ∈ more, unit ++ line ≠ "\x7d" :=
      fun l hl => h l (List.mem_cons_of_mem line hl)
    rw [List.map_cons, List.cons_append, cut, if_neg hline, outdentLine_append, ih _ hmore]
    simp only [List.append_assoc, List.singleton_append]

/-- The lines of an interface are cut out as one interface, whatever follows. -/
theorem cut_lines (unit : String) (rest : List String) {d : Declared}
    (h : ∀ line ∈ d.members, unit ++ line ≠ "\x7d") :
    cut unit none (d.lines unit ++ rest) = (cut unit none rest).map (d :: ·) := by
  unfold lines
  rw [List.append_assoc, List.cons_append, cut, if_neg d.opening_ne_empty, opened?_opening]
  exact cut_members unit rest { d with members := [] } h

theorem cut_blank (unit : String) (rest : List String) :
    cut unit none ("" :: rest) = cut unit none rest := by
  rw [cut, if_pos rfl]

theorem spaced_singleton (unit : String) (d : Declared) : spaced unit [d] = d.lines unit := by
  unfold spaced
  rw [List.map_singleton, List.intercalate_singleton]

theorem spaced_cons_cons (unit : String) (d e : Declared) (rest : List Declared) :
    spaced unit (d :: e :: rest) = d.lines unit ++ "" :: spaced unit (e :: rest) := by
  unfold spaced
  rw [List.map_cons, List.map_cons, List.intercalate_cons_cons]
  simp only [List.append_assoc, List.singleton_append]

/-- Interfaces with blank lines between them are cut into these interfaces. -/
theorem cut_spaced (unit : String) {ds : List Declared}
    (h : ∀ d ∈ ds, ∀ line ∈ d.members, unit ++ line ≠ "\x7d") :
    cut unit none (spaced unit ds) = some ds := by
  induction ds with
  | nil => rfl
  | cons d rest ih =>
    have hd := h d List.mem_cons_self
    have hrest := ih fun e he => h e (List.mem_cons_of_mem d he)
    cases rest with
    | nil =>
      have hcut := cut_lines unit [] hd
      rw [List.append_nil] at hcut
      rw [spaced_singleton, hcut]
      rfl
    | cons e rest =>
      rw [spaced_cons_cons, cut_lines unit _ hd, cut_blank, hrest]
      rfl

theorem mem_spaced {unit line : String} {ds : List Declared} (h : line ∈ spaced unit ds) :
    line = "" ∨ ∃ d ∈ ds, line ∈ d.lines unit := by
  induction ds with
  | nil => cases h
  | cons d rest ih =>
    cases rest with
    | nil =>
      rw [spaced_singleton] at h
      exact Or.inr ⟨d, List.mem_cons_self, h⟩
    | cons e rest =>
      rw [spaced_cons_cons] at h
      rcases List.mem_append.mp h with h | h
      · exact Or.inr ⟨d, List.mem_cons_self, h⟩
      · rcases List.mem_cons.mp h with h | h
        · exact Or.inl h
        · rcases ih h with h | ⟨f, hf, h⟩
          · exact Or.inl h
          · exact Or.inr ⟨f, List.mem_cons_of_mem d hf, h⟩

/-- Interfaces that each have a blank line behind them, before others. -/
theorem flatMap_append_spaced (unit : String) (ds : List Declared) (e : Declared)
    (rest : List Declared) :
    (ds.flatMap fun d => d.lines unit ++ [""]) ++ spaced unit (e :: rest) =
      spaced unit (ds ++ e :: rest) := by
  induction ds with
  | nil => rfl
  | cons d more ih =>
    obtain ⟨x, xs, hx⟩ := List.exists_cons_of_ne_nil (show more ++ e :: rest ≠ [] by simp)
    rw [List.flatMap_cons, List.append_assoc, ih, List.cons_append, hx, spaced_cons_cons,
      List.append_assoc]
    rfl

end Declared

end ContentTypes
