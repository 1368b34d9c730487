import ContentTypes.Proofs.Unions
import Mathlib.Data.List.TakeWhile

/-! The grammar of type texts, and a reader for it. A type is one or more alternatives with bars
between them, an alternative is an atom with any number of brackets behind it, and an atom is a
name, a literal or a type in parentheses. So brackets bind tighter than bars. The reader finds the
expression that the grammar gives to a text, and finds none where the grammar gives none; a text has
no two readings. -/

namespace ContentTypes

namespace TypeExpr

/-! ### The grammar -/

def marks : List Char := [' ', '|', '(', ')', '[', ']', '\'']

def IsName (s : List Char) : Prop := s ≠ [] ∧ ∀ c ∈ s, c ∉ marks

def oneOf : List TypeExpr → TypeExpr
  | [t] => t
  | ts => .union ts

inductive Category where
  | type
  | alternative
  | atom

/-- The text of a category denotes the expression. -/
inductive Denotes : Category → List Char → TypeExpr → Prop
  | name {s : List Char} (h : IsName s) : Denotes .atom s (.named (String.ofList s))
  | literal {s : List Char} (h : '\'' ∉ s) :
    Denotes .atom ('\'' :: s ++ ['\'']) (.literals [String.ofList s])
  | group {s : List Char} {t : TypeExpr} (h : Denotes .type s t) :
    Denotes .atom ('(' :: s ++ [')']) t
  | atom {s : List Char} {t : TypeExpr} (h : Denotes .atom s t) : Denotes .alternative s t
  | brackets {s : List Char} {t : TypeExpr} (h : Denotes .alternative s t) :
    Denotes .alternative (s ++ ['[', ']']) (.array t)
  | type {parts : List (List Char × TypeExpr)} (hne : parts ≠ [])
    (h : ∀ p ∈ parts, Denotes .alternative p.1 p.2) :
    Denotes .type (" | ".toList.intercalate (parts.map (·.1))) (oneOf (parts.map (·.2)))

/-! ### The reader -/

abbrev TypeReader := List Char → Option (TypeExpr × List Char)

def readAtom (inner : TypeReader) : TypeReader
  | '\'' :: s =>
    match s.dropWhile (· ≠ '\'') with
    | [] => none
    | _ :: rest => some (.literals [String.ofList (s.takeWhile (· ≠ '\''))], rest)
  | '(' :: s =>
    match inner s with
    | some (t, ')' :: rest) => some (t, rest)
    | _ => none
  | s =>
    if s.takeWhile (· ∉ marks) = [] then none
    else some (.named (String.ofList (s.takeWhile (· ∉ marks))), s.dropWhile (· ∉ marks))

def readBrackets (t : TypeExpr) : List Char → TypeExpr × List Char
  | '[' :: ']' :: rest => readBrackets (.array t) rest
  | rest => (t, rest)

def readAlternative (inner : TypeReader) : TypeReader :=
  fun s => (readAtom inner s).map fun found => readBrackets found.1 found.2

/-- Reads alternatives as long as there is a bar behind the last one. There are at most `n`. -/
def readAlternatives (inner : TypeReader) :
    (n : Nat) → List Char → Option (List TypeExpr × List Char)
  | 0, _ => none
  | n + 1, s =>
    match readAlternative inner s with
    | some (t, ' ' :: '|' :: ' ' :: rest) =>
      (readAlternatives inner n rest).map fun found => (t :: found.1, found.2)
    | some (t, rest) => some ([t], rest)
    | none => none

def readType : (n : Nat) → TypeReader
  | 0, _ => none
  | n + 1, s =>
    (readAlternatives (readType n) (n + 1) s).map fun found => (oneOf found.1, found.2)

def ofText? (text : String) : Option TypeExpr :=
  match readType (text.length + 1) text.toList with
  | some (t, []) => some t
  | _ => none

/-! ### What is read is denoted -/

def Sound (k : Category) (read : TypeReader) : Prop :=
  ∀ s t rest, read s = some (t, rest) → ∃ front, s = front ++ rest ∧ Denotes k front t

theorem isName_takeWhile {s : List Char} (h : s.takeWhile (· ∉ marks) ≠ []) :
    IsName (s.takeWhile (· ∉ marks)) := by
  refine ⟨h, fun c hc => ?_⟩
  have hname := List.mem_takeWhile_imp hc
  simpa using hname

/-- The first quote ends a literal. -/
theorem eq_append_quote {s rest : List Char} {c : Char}
    (h : s.dropWhile (· ≠ '\'') = c :: rest) :
    s = s.takeWhile (· ≠ '\'') ++ '\'' :: rest ∧ '\'' ∉ s.takeWhile (· ≠ '\'') := by
  have hc : c = '\'' := by
    have hhead := List.head?_dropWhile_not (· ≠ '\'') s
    rw [h] at hhead
    simpa using hhead
  constructor
  · have hsplit := List.takeWhile_append_dropWhile (p := (· ≠ '\'')) (l := s)
    rw [h, hc] at hsplit
    exact hsplit.symm
  · intro hmem
    have hquote := List.mem_takeWhile_imp hmem
    simp at hquote

section

variable {inner : TypeReader}

theorem sound_readAtom (hinner : Sound .type inner) : Sound .atom (readAtom inner) := by
  intro s t rest h
  unfold readAtom at h
  split at h
  · rename_i s
    split at h
    · cases h
    · rename_i c tail hdrop
      obtain ⟨rfl, rfl⟩ := Prod.mk.inj (Option.some.inj h)
      obtain ⟨hsplit, hquote⟩ := eq_append_quote hdrop
      refine ⟨'\'' :: s.takeWhile (· ≠ '\'') ++ ['\''], ?_, .literal hquote⟩
      conv_lhs => rw [hsplit]
      simp
  · rename_i s
    split at h
    · rename_i u tail hread
      obtain ⟨rfl, rfl⟩ := Prod.mk.inj (Option.some.inj h)
      obtain ⟨front, rfl, hfront⟩ := hinner _ _ _ hread
      exact ⟨'(' :: front ++ [')'], by simp, .group hfront⟩
    · cases h
  · split at h
    · cases h
    · rename_i hne
      obtain ⟨rfl, rfl⟩ := Prod.mk.inj (Option.some.inj h)
      exact ⟨_, List.takeWhile_append_dropWhile.symm, .name (isName_takeWhile hne)⟩

theorem exists_front_readBrackets {s : List Char} {t : TypeExpr} (h : Denotes .alternative s t)
    (rest : List Char) : ∃ front, rest = front ++ (readBrackets t rest).2 ∧
      Denotes .alternative (s ++ front) (readBrackets t rest).1 := by
  induction t, rest using readBrackets.induct generalizing s with
  | case1 t rest ih =>
    obtain ⟨front, hrest, hfront⟩ := ih h.brackets
    rw [readBrackets]
    refine ⟨'[' :: ']' :: front, ?_, ?_⟩
    · conv_lhs => rw [hrest]
      rfl
    · rw [List.append_assoc] at hfront
      exact hfront
  | case2 t rest hne =>
    rw [readBrackets]
    · exact ⟨[], rfl, by rwa [List.append_nil]⟩
    · exact hne

theorem sound_readAlternative (hinner : Sound .type inner) :
    Sound .alternative (readAlternative inner) := by
  intro s t rest h
  obtain ⟨⟨u, tail⟩, hread, hfound⟩ := Option.map_eq_some_iff.mp h
  obtain ⟨front, rfl, hfront⟩ := sound_readAtom hinner _ _ _ hread
  obtain ⟨more, htail, hmore⟩ := exists_front_readBrackets (.atom hfront) tail
  rw [hfound] at htail hmore
  refine ⟨front ++ more, ?_, hmore⟩
  rw [htail, List.append_assoc]

/-- Alternatives are read up to the last bar that has another one behind it. -/
theorem sound_readAlternatives (hinner : Sound .type inner) {n : Nat} {s rest : List Char}
    {ts : List TypeExpr} (h : readAlternatives inner n s = some (ts, rest)) :
    ∃ parts : List (List Char × TypeExpr), parts ≠ [] ∧
      (∀ p ∈ parts, Denotes .alternative p.1 p.2) ∧
      s = " | ".toList.intercalate (parts.map (·.1)) ++ rest ∧ ts = parts.map (·.2) := by
  induction n generalizing s ts with
  | zero => cases h
  | succ n ih =>
    rw [readAlternatives] at h
    split at h
    · rename_i t tail hread
      obtain ⟨⟨us, last⟩, hmore, hfound⟩ := Option.map_eq_some_iff.mp h
      obtain ⟨rfl, rfl⟩ := Prod.mk.inj hfound
      obtain ⟨front, rfl, hfront⟩ := sound_readAlternative hinner _ _ _ hread
      obtain ⟨parts, hne, hparts, rfl, rfl⟩ := ih hmore
      refine ⟨(front, t) :: parts, List.cons_ne_nil _ _, ?_, ?_, rfl⟩
      · exact List.forall_mem_cons.mpr ⟨hfront, hparts⟩
      · have hmap : parts.map (·.1) ≠ [] := mt List.map_eq_nil_iff.mp hne
        exact (intercalate_bar_cons front hmap last).symm
    · rename_i t tail _ hread
      obtain ⟨rfl, rfl⟩ := Prod.mk.inj (Option.some.inj h)
      obtain ⟨front, rfl, hfront⟩ := sound_readAlternative hinner _ _ _ hread
      refine ⟨[(front, t)], List.cons_ne_nil _ _, List.forall_mem_singleton.mpr hfront, ?_, rfl⟩
      rw [List.map_singleton, List.intercalate_singleton]
    · cases h

/-- What is read of a text denotes what it is read as. -/
theorem sound_readType (n : Nat) : Sound .type (readType n) := by
  induction n with
  | zero =>
    intro s t rest h
    cases h
  | succ n ih =>
    intro s t rest h
    obtain ⟨⟨ts, tail⟩, hread, hfound⟩ := Option.map_eq_some_iff.mp h
    obtain ⟨rfl, rfl⟩ := Prod.mk.inj hfound
    obtain ⟨parts, hne, hparts, rfl, rfl⟩ := sound_readAlternatives ih hread
    exact ⟨_, rfl, .type hne hparts⟩

end

/-! ### What is denoted is read -/

/-- The reader finds the expression in front of whatever can follow a text of the category. Behind
an alternative it goes on with the brackets that follow. -/
def Found (s : List Char) (t : TypeExpr) : Category → Prop
  | .atom => ∀ n rest, s.length ≤ n → (∀ c ∈ rest.head?, c ∈ marks) →
    readAtom (readType n) (s ++ rest) = some (t, rest)
  | .alternative => ∀ n rest, s.length ≤ n → (∀ c ∈ rest.head?, c ∈ marks) →
    readAlternative (readType n) (s ++ rest) = some (readBrackets t rest)
  | .type => ∀ n rest, s.length < n → (∀ c ∈ rest.head?, c = ')') →
    readType n (s ++ rest) = some (t, rest)

theorem found_name {s : List Char} (h : IsName s) :
    Found s (.named (String.ofList s)) .atom := by
  intro n rest _ hrest
  have hall : ∀ c ∈ s, decide (c ∉ marks) = true := fun c hc => decide_eq_true (h.2 c hc)
  have hstop : rest.takeWhile (· ∉ marks) = [] ∧ rest.dropWhile (· ∉ marks) = rest := by
    cases rest with
    | nil => exact ⟨rfl, rfl⟩
    | cons c rest =>
      have hc := hrest c rfl
      simp [hc]
  have htake : (s ++ rest).takeWhile (· ∉ marks) = s := by
    rw [List.takeWhile_append_of_pos hall, hstop.1, List.append_nil]
  have hdrop : (s ++ rest).dropWhile (· ∉ marks) = rest := by
    rw [List.dropWhile_append_of_pos hall, hstop.2]
  obtain ⟨c, more, rfl⟩ := List.exists_cons_of_ne_nil h.1
  have hc := h.2 c List.mem_cons_self
  rw [readAtom, if_neg (by rw [htake]; exact h.1), htake, hdrop]
  -- A name begins with none of the marks that begin other atoms.
  · rintro tail heq
    obtain ⟨rfl, -⟩ := List.cons.inj heq
    exact hc (by decide)
  · rintro tail heq
    obtain ⟨rfl, -⟩ := List.cons.inj heq
    exact hc (by decide)

theorem found_literal {s : List Char} (h : '\'' ∉ s) :
    Found ('\'' :: s ++ ['\'']) (.literals [String.ofList s]) .atom := by
  intro n rest _ _
  have hall : ∀ c ∈ s, decide (c ≠ '\'') = true := by
    intro c hc
    apply decide_eq_true
    rintro rfl
    exact h hc
  have htake : (s ++ '\'' :: rest).takeWhile (· ≠ '\'') = s := by
    rw [List.takeWhile_append_of_pos hall]
    simp
  have hdrop : (s ++ '\'' :: rest).dropWhile (· ≠ '\'') = '\'' :: rest := by
    rw [List.dropWhile_append_of_pos hall]
    simp
  simp only [List.cons_append, List.append_assoc, List.nil_append, readAtom, hdrop, htake]

theorem found_group {s : List Char} {t : TypeExpr} (h : Found s t .type) :
    Found ('(' :: s ++ [')']) t .atom := by
  intro n rest hn _
  have hlength : s.length < n := by
    simp only [List.length_append, List.length_cons, List.length_nil] at hn
    omega
  have hread := h n (')' :: rest) hlength (by simp)
  simp only [List.cons_append, List.append_assoc, List.nil_append, readAtom, hread]

theorem found_brackets {s : List Char} {t : TypeExpr} (h : Found s t .alternative) :
    Found (s ++ ['[', ']']) (.array t) .alternative := by
  intro n rest hn _
  have hlength : s.length ≤ n := by
    rw [List.length_append] at hn
    omega
  have hread := h n ('[' :: ']' :: rest) hlength (by simp [marks])
  rw [readBrackets] at hread
  rw [List.append_assoc]
  exact hread

theorem readBrackets_eq_self (t : TypeExpr) {rest : List Char} (h : ∀ c ∈ rest.head?, c ≠ '[') :
    readBrackets t rest = (t, rest) := by
  cases rest with
  | nil => rfl
  | cons c rest =>
    rw [readBrackets]
    rintro tail heq
    exact h c rfl (List.cons.inj heq).1

/-- Alternatives are found one by one, up to the one without a bar behind it. -/
theorem found_alternatives {n m : Nat} {parts : List (List Char × TypeExpr)} {rest : List Char}
    (hne : parts ≠ []) (h : ∀ p ∈ parts, Found p.1 p.2 .alternative)
    (hlength : ∀ p ∈ parts, p.1.length ≤ n) (hm : parts.length ≤ m)
    (hrest : ∀ c ∈ rest.head?, c = ')') :
    readAlternatives (readType n) m (" | ".toList.intercalate (parts.map (·.1)) ++ rest) =
      some (parts.map (·.2), rest) := by
  induction parts generalizing m with
  | nil => exact absurd rfl hne
  | cons p more ih =>
    obtain ⟨m, rfl⟩ : ∃ k, m = k + 1 := Nat.exists_eq_add_one.mpr (Nat.lt_of_lt_of_le (by simp) hm)
    have hp := h p List.mem_cons_self n
    have hpn := hlength p List.mem_cons_self
    cases more with
    | nil =>
      have hclose : ∀ c ∈ rest.head?, c ∈ marks := by
        intro c hc
        rw [hrest c hc]
        decide
      have hbrackets : readBrackets p.2 rest = (p.2, rest) := by
        apply readBrackets_eq_self
        intro c hc
        rw [hrest c hc]
        decide
      rw [List.map_singleton, List.intercalate_singleton, readAlternatives, hp rest hpn hclose,
        hbrackets]
      -- A parenthesis is no bar.
      split
      · rename_i heq
        obtain ⟨-, rfl⟩ := Prod.mk.inj (Option.some.inj heq)
        exact absurd (hrest ' ' rfl) (by decide)
      · rename_i heq
        obtain ⟨rfl, rfl⟩ := Prod.mk.inj (Option.some.inj heq)
        rfl
      · rename_i heq
        cases heq
    | cons q more =>
      have hread := ih (List.cons_ne_nil _ _) (fun r hr => h r (List.mem_cons_of_mem p hr))
        (fun r hr => hlength r (List.mem_cons_of_mem p hr)) (m := m)
        (by simpa using hm)
      have hmap : (q :: more).map (·.1) ≠ [] := List.cons_ne_nil _ _
      rw [List.map_cons, intercalate_bar_cons p.1 hmap, readAlternatives,
        hp _ hpn (by simp [marks]), readBrackets_eq_self _ (by simp)]
      simp only [hread, Option.map_some]
      rfl

/-- A text that denotes an expression is read as this one. -/
theorem Denotes.found {k : Category} {s : List Char} {t : TypeExpr} (h : Denotes k s t) :
    Found s t k := by
  induction h with
  | name h => exact found_name h
  | literal h => exact found_literal h
  | group _ ih => exact found_group ih
  | atom _ ih =>
    intro n rest hn hrest
    rw [readAlternative, ih n rest hn hrest]
    rfl
  | brackets _ ih => exact found_brackets ih
  | @type parts hne _ ih =>
    intro n rest hn hrest
    obtain ⟨n, rfl⟩ : ∃ k, n = k + 1 := Nat.exists_eq_add_one.mpr (by omega)
    have hbounds := length_intercalate_bars (parts.map (·.1))
    have hlength : ∀ p ∈ parts, p.1.length ≤ n := by
      intro p hp
      have hle := hbounds.1 p.1 (List.mem_map_of_mem hp)
      omega
    have hcount : parts.length ≤ n + 1 := by
      have hle := hbounds.2
      rw [List.length_map] at hle
      omega
    rw [readType, found_alternatives hne ih hlength hcount hrest]
    rfl

/-- The reader accepts just the texts of the grammar, and finds what the grammar says. -/
theorem ofText?_eq_some_iff {text : String} {t : TypeExpr} :
    ofText? text = some t ↔ Denotes .type text.toList t := by
  unfold ofText?
  constructor
  · intro h
    split at h
    · rename_i u hread
      obtain rfl := Option.some.inj h
      obtain ⟨front, htext, hfront⟩ := sound_readType _ _ _ _ hread
      rw [htext, List.append_nil]
      exact hfront
    · cases h
  · intro h
    have hlength : text.toList.length < text.length + 1 := by
      rw [String.length_toList]
      omega
    have hread := h.found _ [] hlength (by simp)
    rw [List.append_nil] at hread
    rw [hread]

end TypeExpr

end ContentTypes
