import ContentTypes.Yaml.Writer
import Mathlib.Data.List.TakeWhile
import Mathlib.Data.List.Chain

/-! Scalars that were written are read back: in single quotes, in double quotes, as blocks of lines
and without quotes. Each reader is followed over the text that the writer leaves, from one gap of
blanks and breaks to the next. -/

namespace ContentTypes.Yaml

/-! ### Characters -/

def IsLineEnd (x : Char) : Prop := x = '\n' ∨ x.toNat = 0x2028 ∨ x.toNat = 0x2029

section

variable {x : Char}

theorem isBreak_iff_of_isWritable (h : isWritable x = true) : isBreak x = true ↔ IsLineEnd x := by
  -- A carriage return and a next-line character are breaks too, but they are always escaped.
  have hreturn : x ≠ '\r' := by
    rintro rfl
    exact absurd h (by decide)
  have hnext : x.toNat ≠ 0x85 := by
    intro heq
    have hline : x ≠ '\n' := by
      rintro rfl
      exact absurd heq (by decide)
    simp [isWritable, heq, hline] at h
  simp [isBreak, IsLineEnd, hreturn, hnext, or_assoc]

theorem eq_space_of_isWritable (h : isWritable x = true) (hx : isSpaceOrTab x = true) :
    x = ' ' := by
  rcases (by simpa [isSpaceOrTab] using hx : x = ' ' ∨ x = '\t') with hspace | rfl
  · exact hspace
  · exact absurd h (by decide)

theorem IsLineEnd.isBreak (h : IsLineEnd x) : isBreak x = true := by
  rcases h with rfl | h | h
  · decide
  · simp [Yaml.isBreak, h]
  · simp [Yaml.isBreak, h]

theorem IsLineEnd.ne_of_toNat_lt (h : IsLineEnd x) {y : Char} (hy : y.toNat < 0x2028)
    (hline : y ≠ '\n') : x ≠ y := by
  rintro rfl
  rcases h with h | h | h
  · exact hline h
  · omega
  · omega

theorem IsLineEnd.not_isSpaceOrTab (h : IsLineEnd x) : isSpaceOrTab x = false := by
  have hspace := h.ne_of_toNat_lt (y := ' ') (by decide) (by decide)
  have htab := h.ne_of_toNat_lt (y := '\t') (by decide) (by decide)
  simp [isSpaceOrTab, hspace, htab]

theorem IsLineEnd.breakText (h : IsLineEnd x) (r : List Char) (i l col : Nat) :
    (⟨x :: r, i, l, col⟩ : Cursor).breakText = [x] := by
  rcases h with rfl | h | h
  · rfl
  · simp [Cursor.breakText, h]
  · simp [Cursor.breakText, h]

theorem IsLineEnd.skipBreak (h : IsLineEnd x) (r : List Char) (i l col : Nat) :
    (⟨x :: r, i, l, col⟩ : Cursor).skipBreak = ⟨r, i + 1, l + 1, 0⟩ := by
  have hreturn := h.ne_of_toNat_lt (y := '\r') (by decide) (by decide)
  unfold Cursor.skipBreak
  split <;> simp_all

end

theorem atMarker_eq_false {c : Cursor} (hcolumn : c.column ≠ 0) : c.atMarker = false := by
  simp [Cursor.atMarker, hcolumn]

/-! ### Gaps -/

def NoGap (t : List Char) : Prop := ∀ x ∈ t.head?, isSpaceOrTab x = false ∧ isBreak x = false

theorem noGap_cons {x : Char} (hblank : isSpaceOrTab x = false) (hbreak : isBreak x = false)
    (t : List Char) : NoGap (x :: t) := by
  intro y hy
  obtain rfl : x = y := Option.some.inj hy
  exact ⟨hblank, hbreak⟩

def IsGap (b : List Char) : Prop := ∀ x ∈ b, x = ' ' ∨ IsLineEnd x

theorem isGap_cons {x : Char} {b : List Char} (hb : IsGap (x :: b)) :
    (isSpaceOrTab x || isBreak x) = true := by
  rcases hb x (List.mem_cons_self ..) with rfl | hline
  · decide
  · rw [hline.isBreak, Bool.or_true]

def Gap.absorb (g : Gap) : List Char → Gap
  | [] => g
  | x :: b => if x = ' ' then (g.addBlank x).absorb b else (g.addBreak [x]).absorb b

def columnAfter (column : Nat) : List Char → Nat
  | [] => column
  | x :: b => if x = ' ' then columnAfter (column + 1) b else columnAfter 0 b

/-- A gap is read as what its characters come to. -/
theorem readGap_eq (margin : Option Nat) {b rest : List Char} (hb : IsGap b) (hrest : NoGap rest) :
    ∀ fuel i l col g, b.length < fuel → ∃ i' l', readGap margin fuel ⟨b ++ rest, i, l, col⟩ g =
      some (g.absorb b, ⟨rest, i', l', columnAfter col b⟩) := by
  induction b with
  | nil =>
    intro fuel i l col g hfuel
    obtain ⟨f, rfl⟩ : ∃ f, fuel = f + 1 := ⟨fuel - 1, by omega⟩
    refine ⟨i, l, ?_⟩
    cases rest with
    | nil => rfl
    | cons x r =>
      obtain ⟨hblank, hbreak⟩ := hrest x rfl
      simp [readGap, Cursor.head?, hblank, hbreak, Gap.absorb, columnAfter]
  | cons x b ih =>
    intro fuel i l col g hfuel
    rw [List.length_cons] at hfuel
    obtain ⟨f, rfl⟩ : ∃ f, fuel = f + 1 := ⟨fuel - 1, by omega⟩
    have hrec := ih fun y hy => hb y (List.mem_cons_of_mem _ hy)
    by_cases hspace : x = ' '
    · subst hspace
      obtain ⟨i', l', h⟩ := hrec f (i + 1) l (col + 1) (g.addBlank ' ') (by omega)
      refine ⟨i', l', ?_⟩
      simp only [Gap.absorb, columnAfter, if_true]
      rw [← h]
      simp [readGap, Cursor.head?, isSpaceOrTab, Cursor.skip]
    · have hline := (hb x (List.mem_cons_self ..)).resolve_left hspace
      obtain ⟨i', l', h⟩ := hrec f (i + 1) (l + 1) 0 (g.addBreak [x]) (by omega)
      refine ⟨i', l', ?_⟩
      simp only [Gap.absorb, columnAfter, if_neg hspace]
      rw [← h]
      simp [readGap, Cursor.head?, hline.not_isSpaceOrTab, hline.isBreak, hline.skipBreak,
        hline.breakText]

namespace Gap

theorem absorb_append (a b : List Char) : ∀ g : Gap, g.absorb (a ++ b) = (g.absorb a).absorb b := by
  induction a with
  | nil => exact fun _ => rfl
  | cons x a ih =>
    intro g
    rw [List.cons_append, absorb, absorb]
    split <;> exact ih _

theorem absorb_spaces (n : Nat) : ∀ g : Gap, g.broken = false →
    g.absorb (indentation n) = { g with blanks := g.blanks ++ indentation n } := by
  induction n with
  | zero =>
    intro g _
    simp [indentation, absorb]
  | succ n ih =>
    intro g hg
    have hstep := ih (g.addBlank ' ') (by simp [addBlank, hg])
    rw [indentation, List.replicate_succ, absorb, if_pos rfl]
    refine Eq.trans hstep ?_
    simp [addBlank, hg, indentation]

theorem absorb_spaces_of_broken (n : Nat) {g : Gap} (hg : g.broken = true) :
    g.absorb (indentation n) = g := by
  induction n with
  | zero => rfl
  | succ n ih =>
    rw [indentation, List.replicate_succ, absorb, if_pos rfl, addBlank, if_pos hg]
    exact ih

theorem absorb_lineEnds {b : List Char} (hb : ∀ x ∈ b, IsLineEnd x) : ∀ g : Gap, g.broken = true →
    g.absorb b = { g with others := g.others ++ b } := by
  induction b with
  | nil =>
    intro g _
    simp [absorb]
  | cons x b ih =>
    intro g hg
    have hx := hb x (List.mem_cons_self ..)
    have hspace : x ≠ ' ' := hx.ne_of_toNat_lt (by decide) (by decide)
    have hstep := ih (fun y hy => hb y (List.mem_cons_of_mem _ hy)) (g.addBreak [x])
      (by simp [addBreak, hg])
    rw [absorb, if_neg hspace, hstep]
    simp [addBreak, hg]

theorem text_spaces (n : Nat) : (({} : Gap).absorb (indentation n)).text = indentation n := by
  rw [absorb_spaces n {} rfl]
  rfl

theorem absorb_broken {x : Char} {b : List Char} (hx : IsLineEnd x) (hb : ∀ y ∈ b, IsLineEnd y)
    (n : Nat) : ({} : Gap).absorb (x :: b ++ indentation n) =
      { broken := true, first := [x], others := b } := by
  have hspace : x ≠ ' ' := hx.ne_of_toNat_lt (by decide) (by decide)
  rw [List.cons_append, absorb, if_neg hspace, absorb_append, absorb_lineEnds hb _ rfl,
    absorb_spaces_of_broken n rfl]
  rfl

end Gap

theorem columnAfter_append (a b : List Char) :
    ∀ col, columnAfter col (a ++ b) = columnAfter (columnAfter col a) b := by
  induction a with
  | nil => exact fun _ => rfl
  | cons x a ih =>
    intro col
    rw [List.cons_append, columnAfter, columnAfter]
    split <;> exact ih _

theorem columnAfter_spaces (n : Nat) : ∀ col, columnAfter col (indentation n) = col + n := by
  induction n with
  | zero => exact fun _ => rfl
  | succ n ih =>
    intro col
    rw [indentation, List.replicate_succ, columnAfter, if_pos rfl]
    refine (ih (col + 1)).trans ?_
    omega

theorem columnAfter_broken {x : Char} {b : List Char} (hx : IsLineEnd x)
    (hb : ∀ y ∈ b, IsLineEnd y) (n col : Nat) :
    columnAfter col (x :: b ++ indentation n) = n := by
  have hzero : ∀ col, columnAfter col (x :: b) = 0 := by
    induction b generalizing x with
    | nil =>
      intro col
      rw [columnAfter, if_neg (hx.ne_of_toNat_lt (by decide) (by decide)), columnAfter]
    | cons y b ih =>
      intro col
      rw [columnAfter, if_neg (hx.ne_of_toNat_lt (by decide) (by decide))]
      exact ih (hb y (List.mem_cons_self ..)) (fun z hz => hb z (List.mem_cons_of_mem _ hz)) 0
  rw [columnAfter_append, hzero, columnAfter_spaces, Nat.zero_add]

theorem isGap_indentation (n : Nat) : IsGap (indentation n) := by
  intro x hx
  exact Or.inl (List.eq_of_mem_replicate hx)

theorem isGap_append {a b : List Char} (ha : IsGap a) (hb : IsGap b) : IsGap (a ++ b) := by
  intro x hx
  exact (List.mem_append.mp hx).elim (ha x) (hb x)

theorem isGap_of_lineEnds {b : List Char} (hb : ∀ x ∈ b, IsLineEnd x) : IsGap b := by
  intro x hx
  exact Or.inr (hb x hx)

/-- The longest start of a text whose characters pass a test, and the rest. -/
theorem exists_run (test : Char → Bool) (s : List Char) : ∃ a b, s = a ++ b ∧
    (∀ x ∈ a, test x = true) ∧ ∀ x ∈ b.head?, test x = false := by
  refine ⟨s.takeWhile test, s.dropWhile test, List.takeWhile_append_dropWhile.symm, ?_, ?_⟩
  · intro x hx
    exact List.mem_takeWhile_imp hx
  · intro x hx
    have hhead := List.head?_dropWhile_not test s
    rw [Option.mem_def.mp hx] at hhead
    simpa using hhead

theorem eq_indentation_of_spaces {a : List Char} (ha : ∀ x ∈ a, isSpaceChar x = true) :
    a = indentation a.length := by
  apply List.eq_replicate_of_mem
  intro x hx
  simpa [isSpaceChar] using ha x hx

section

variable {first second : Char → Bool}

theorem hasAdjacent_suffix (a : List Char) {b : List Char}
    (h : hasAdjacent first second (a ++ b) = false) : hasAdjacent first second b = false := by
  induction a with
  | nil => exact h
  | cons x a ih =>
    apply ih
    cases hab : a ++ b with
    | nil => rfl
    | cons y r =>
      rw [List.cons_append, hab, hasAdjacent, Bool.or_eq_false_iff] at h
      exact h.2

/-- A run of characters that pass the first test is not followed by one that passes the second. -/
theorem head?_of_hasAdjacent {a b : List Char} (ha : a ≠ []) (hall : ∀ x ∈ a, first x = true)
    (h : hasAdjacent first second (a ++ b) = false) : ∀ y ∈ b.head?, second y = false := by
  intro y hy
  obtain ⟨a', x, rfl⟩ := List.eq_nil_or_concat a |>.resolve_left ha
  cases b with
  | nil => cases hy
  | cons z b =>
    obtain rfl : z = y := Option.some.inj hy
    rw [List.concat_eq_append, List.append_assoc] at h
    have hpair := hasAdjacent_suffix a' h
    have hx := hall x (by simp)
    rw [List.singleton_append, hasAdjacent, hx, Bool.true_and, Bool.or_eq_false_iff] at hpair
    exact hpair.1

end

/-- A text that begins with a space begins with a run of them. -/
theorem exists_spaces (s : List Char) : ∃ k r, k ≠ 0 ∧ ' ' :: s = indentation k ++ r ∧
    r.length ≤ s.length ∧ ∀ x ∈ r.head?, isSpaceChar x = false := by
  obtain ⟨b, r, hsplit, hb, hr⟩ := exists_run isSpaceChar (' ' :: s)
  have hne : b.length ≠ 0 := by
    intro hzero
    obtain rfl := List.length_eq_zero_iff.mp hzero
    rw [List.nil_append] at hsplit
    rw [← hsplit] at hr
    exact absurd (hr ' ' rfl) (by decide)
  have hlength : s.length + 1 = b.length + r.length := by
    rw [← List.length_append, ← hsplit, List.length_cons]
  refine ⟨b.length, r, hne, ?_, by omega, hr⟩
  rw [← eq_indentation_of_spaces hb]
  exact hsplit

theorem noGap_of_writable {r : List Char} (hwritable : ∀ x ∈ r, isWritable x = true)
    (hspace : ∀ x ∈ r.head?, isSpaceChar x = false) (hbreak : ∀ x ∈ r.head?, isBreak x = false) :
    NoGap r := by
  intro x hx
  refine ⟨?_, hbreak x hx⟩
  by_contra hblank
  have hwrite := hwritable x (List.mem_of_mem_head? hx)
  obtain rfl := eq_space_of_isWritable hwrite (by simpa using hblank)
  exact absurd (hspace ' ' hx) (by decide)

/-! ### Single quotes -/

/-- A text that stays itself when its lines are folded. -/
structure Folds (s : List Char) : Prop where
  writable : ∀ x ∈ s, isWritable x = true
  not_break_space : hasAdjacent isBreak isSpaceChar s = false
  not_space_break : hasAdjacent isSpaceChar isBreak s = false

/-- A text that may stand in single quotes stays itself when its lines are folded. -/
theorem folds_of_singleAllowed {s : List Char} (h : singleAllowed s = true) : Folds s := by
  simp only [singleAllowed, hasLostSpace, hasUnwritable, Bool.and_eq_true, Bool.not_eq_true',
    List.any_eq_false] at h
  obtain ⟨⟨hbreak, hspace⟩, hwritable⟩ := h
  refine ⟨?_, hbreak, hspace⟩
  intro x hx
  simpa using hwritable x hx

theorem Folds.suffix {a b : List Char} (h : Folds (a ++ b)) : Folds b where
  writable := fun x hx => h.writable x (List.mem_append_right a hx)
  not_break_space := hasAdjacent_suffix a h.not_break_space
  not_space_break := hasAdjacent_suffix a h.not_space_break

theorem singleChars_spaces (indent n : Nat) (r : List Char) :
    singleChars indent false (indentation n ++ r) =
      indentation n ++ singleChars indent false r := by
  induction n with
  | zero => rfl
  | succ n ih =>
    have hspace : isBreak ' ' = false := by decide
    rw [indentation, List.replicate_succ, List.cons_append, singleChars]
    simp only [hspace, Bool.false_eq_true, if_false, Bool.false_and]
    exact congrArg (' ' :: ·) ih

theorem singleChars_lineEnds (indent : Nat) {b : List Char} (hb : ∀ x ∈ b, isBreak x = true)
    (r : List Char) : singleChars indent true (b ++ r) = b ++ singleChars indent true r := by
  induction b with
  | nil => rfl
  | cons x b ih =>
    have hx := hb x (List.mem_cons_self ..)
    rw [List.cons_append, singleChars, if_pos hx, ih fun y hy => hb y (List.mem_cons_of_mem _ hy)]
    simp

/-- A line begins with its indentation. -/
theorem singleChars_line (indent : Nat) {r : List Char} (hbreak : ∀ x ∈ r.head?, isBreak x = false)
    (hspace : ∀ x ∈ r.head?, isSpaceChar x = false) :
    singleChars indent true r = indentation indent ++ singleChars indent false r := by
  cases r with
  | nil => simp [singleChars]
  | cons x r =>
    have hx := hbreak x rfl
    have hx' := hspace x rfl
    simp [singleChars, hx, hx']

/-- A part of a text in single quotes is read as itself. -/
def ReadsSingle (indent : Nat) (after s : List Char) : Prop :=
  ∀ fuel i l col reversed, col ≠ 0 → (singleChars indent false s).length < fuel →
    ∃ i' l' col',
      scanSingle fuel ⟨singleChars indent false s ++ '\'' :: after, i, l, col⟩ reversed =
        some (reversed.reverse ++ s, ⟨after, i', l', col'⟩)

section

variable {indent : Nat} {after r : List Char}

theorem readsSingle_nil (hafter : ∀ x ∈ after.head?, x ≠ '\'') : ReadsSingle indent after [] := by
  intro fuel i l col reversed hcol hfuel
  obtain ⟨f, rfl⟩ : ∃ f, fuel = f + 1 := ⟨fuel - 1, by omega⟩
  have hmarker : (⟨'\'' :: after, i, l, col⟩ : Cursor).atMarker = false := atMarker_eq_false hcol
  have hclose : (⟨'\'' :: after, i, l, col⟩ : Cursor).holds 1 (· = '\'') = false := by
    cases after with
    | nil => rfl
    | cons x t => simpa [Cursor.holds, Cursor.ahead?] using hafter x rfl
  have hquote : isSpaceOrTab '\'' = false ∧ isBreak '\'' = false := by decide
  refine ⟨i + 1, l, col + 1, ?_⟩
  simp [scanSingle, singleChars, Cursor.head?, hmarker, hclose, hquote, Cursor.skip]

theorem noGap_singleChars (hr : NoGap r) : NoGap (singleChars indent false r ++ '\'' :: after) := by
  cases r with
  | nil => exact noGap_cons (by decide) (by decide) _
  | cons x r =>
    obtain ⟨hblank, hbreak⟩ := hr x rfl
    by_cases hquote : x = '\''
    · subst hquote
      simpa [singleChars, hbreak] using noGap_cons (by decide) (by decide) _
    · simpa [singleChars, hbreak, hquote] using noGap_cons hblank hbreak _

/-- The step over one gap: what the gap is read as comes in front of the rest. -/
theorem scanSingle_gap {b rest : List Char} (hb : IsGap b) (hne : b ≠ []) (hrest : NoGap rest)
    (fuel i l col : Nat) (reversed : List Char) (hcol : col ≠ 0) :
    ∃ i' l', scanSingle (fuel + 1) ⟨b ++ rest, i, l, col⟩ reversed =
      scanSingle fuel ⟨rest, i', l', columnAfter col b⟩
        ((({} : Gap).absorb b).text.reverse ++ reversed) := by
  have hmarker : (⟨b ++ rest, i, l, col⟩ : Cursor).atMarker = false := atMarker_eq_false hcol
  obtain ⟨i', l', hgap⟩ := readGap_eq none hb hrest ((b ++ rest).length + 1) i l col {}
    (by rw [List.length_append]; omega)
  refine ⟨i', l', ?_⟩
  cases b with
  | nil => exact absurd rfl hne
  | cons x b =>
    rw [scanSingle]
    simp only [Cursor.head?, List.cons_append, List.head?_cons] at hgap hmarker ⊢
    simp only [hmarker, Bool.false_eq_true, if_false, isGap_cons hb, if_true, hgap]

/-- A gap is folded and read as itself. -/
theorem readsSingle_gap {s b : List Char} (hwritten : singleChars indent false (s ++ r) =
      b ++ singleChars indent false r)
    (htext : (({} : Gap).absorb b).text = s) (hb : IsGap b) (hne : b ≠ []) (hr : NoGap r)
    (hcolumn : ∀ col, col ≠ 0 → columnAfter col b ≠ 0) (hafter : ReadsSingle indent after r) :
    ReadsSingle indent after (s ++ r) := by
  intro fuel i l col reversed hcol hfuel
  have hlength : 0 < b.length := List.length_pos_iff.mpr hne
  rw [hwritten, List.length_append] at hfuel
  obtain ⟨f, rfl⟩ : ∃ f, fuel = f + 1 := ⟨fuel - 1, by omega⟩
  obtain ⟨i₁, l₁, hstep⟩ := scanSingle_gap hb hne (noGap_singleChars hr) f i l col reversed hcol
  obtain ⟨i₂, l₂, col₂, hrest⟩ := hafter f i₁ l₁ (columnAfter col b) (s.reverse ++ reversed)
    (hcolumn col hcol) (by omega)
  refine ⟨i₂, l₂, col₂, ?_⟩
  rw [hwritten, List.append_assoc, hstep, htext, hrest]
  simp

theorem readsSingle_spaces {n : Nat} (hn : n ≠ 0) (hr : NoGap r)
    (hafter : ReadsSingle indent after r) : ReadsSingle indent after (indentation n ++ r) := by
  have hne : indentation n ≠ [] := by simpa [indentation] using hn
  apply readsSingle_gap (singleChars_spaces indent n r) (Gap.text_spaces n) (isGap_indentation n)
    hne hr _ hafter
  intro col hcol
  rw [columnAfter_spaces]
  omega

/-- The first line feed is written twice, and folding drops one of them again. -/
theorem readsSingle_lineEnds {x : Char} {b : List Char} (hindent : indent ≠ 0) (hx : IsLineEnd x)
    (hb : ∀ y ∈ b, IsLineEnd y) (hspace : ∀ y ∈ r.head?, isSpaceChar y = false) (hr : NoGap r)
    (hafter : ReadsSingle indent after r) : ReadsSingle indent after (x :: b ++ r) := by
  have hline : singleChars indent true (b ++ r) =
      b ++ (indentation indent ++ singleChars indent false r) := by
    rw [singleChars_lineEnds indent fun y hy => (hb y hy).isBreak,
      singleChars_line indent (fun y hy => (hr y hy).2) hspace]
  by_cases hfeed : x = '\n'
  · subst hfeed
    -- The writer's second line feed is among the breaks that folding keeps.
    have hcons : ∀ y ∈ '\n' :: b, IsLineEnd y := by
      intro y hy
      exact (List.mem_cons.mp hy).elim (fun h => h ▸ hx) (hb y)
    apply readsSingle_gap (b := '\n' :: ('\n' :: b) ++ indentation indent) _ _ _ nofun hr _ hafter
    · rw [List.cons_append, singleChars]
      simp [hx.isBreak, hline]
    · rw [Gap.absorb_broken hx hcons]
      simp [Gap.text]
    · exact isGap_append (isGap_of_lineEnds fun y hy =>
        (List.mem_cons.mp hy).elim (fun h => h ▸ hx) (hcons y)) (isGap_indentation indent)
    · intro col _
      rw [columnAfter_broken hx hcons]
      exact hindent
  · apply readsSingle_gap (b := x :: b ++ indentation indent) _ _ _ nofun hr _ hafter
    · rw [List.cons_append, singleChars]
      simp [hx.isBreak, hfeed, hline]
    · rw [Gap.absorb_broken hx hb]
      simp [Gap.text, hfeed]
    · exact isGap_append (isGap_of_lineEnds fun y hy =>
        (List.mem_cons.mp hy).elim (fun h => h ▸ hx) (hb y)) (isGap_indentation indent)
    · intro col _
      rw [columnAfter_broken hx hb]
      exact hindent

theorem readsSingle_cons {x : Char} (hblank : isSpaceOrTab x = false) (hbreak : isBreak x = false)
    (hafter : ReadsSingle indent after r) : ReadsSingle indent after (x :: r) := by
  intro fuel i l col reversed hcol hfuel
  have hmarker : ∀ rest : List Char, (⟨rest, i, l, col⟩ : Cursor).atMarker = false :=
    fun rest => atMarker_eq_false hcol
  obtain ⟨f, rfl⟩ : ∃ f, fuel = f + 1 := ⟨fuel - 1, by omega⟩
  -- A quote is written twice, and every other character once.
  by_cases hquote : x = '\''
  · subst hquote
    have hwritten : singleChars indent false ('\'' :: r) =
        '\'' :: '\'' :: singleChars indent false r := by
      simp [singleChars, hbreak]
    rw [hwritten] at hfuel ⊢
    obtain ⟨i', l', col', hrest⟩ := hafter f (i + 2) l (col + 2) ('\'' :: reversed) (by omega)
      (by simp only [List.length_cons] at hfuel; omega)
    refine ⟨i', l', col', ?_⟩
    rw [scanSingle]
    simp [Cursor.head?, hmarker, hblank, hbreak, Cursor.holds, Cursor.ahead?, Cursor.skip, hrest]
  · have hwritten : singleChars indent false (x :: r) = x :: singleChars indent false r := by
      simp [singleChars, hbreak, hquote]
    rw [hwritten] at hfuel ⊢
    obtain ⟨i', l', col', hrest⟩ := hafter f (i + 1) l (col + 1) (x :: reversed) (by omega)
      (by simp only [List.length_cons] at hfuel; omega)
    refine ⟨i', l', col', ?_⟩
    rw [scanSingle]
    simp [Cursor.head?, hmarker, hblank, hbreak, hquote, Cursor.skip, hrest]

end

/-- A text that folds to itself is read back from single quotes. -/
theorem readsSingle_of_folds {indent : Nat} (hindent : indent ≠ 0) {after : List Char}
    (hafter : ∀ x ∈ after.head?, x ≠ '\'') {s : List Char} (h : Folds s) :
    ReadsSingle indent after s := by
  induction hn : s.length using Nat.strongRecOn generalizing s with
  | ind n ih =>
    subst hn
    cases s with
    | nil => exact readsSingle_nil hafter
    | cons x s =>
      have hx := h.writable x (List.mem_cons_self ..)
      -- The reader takes a run of breaks or of spaces in one step, so the induction is on the
      -- length, over runs and single characters.
      by_cases hbreak : isBreak x = true
      · obtain ⟨b, r, rfl, hb, hr⟩ := exists_run isBreak s
        have hrest : Folds r := (show Folds ((x :: b) ++ r) from h).suffix
        have hlineEnds : ∀ y ∈ x :: b, IsLineEnd y := by
          intro y hy
          have hwritable := h.writable y (List.mem_append_left r hy)
          exact (isBreak_iff_of_isWritable hwritable).mp
            ((List.mem_cons.mp hy).elim (fun heq => heq ▸ hbreak) (hb y))
        have hspace : ∀ y ∈ r.head?, isSpaceChar y = false :=
          head?_of_hasAdjacent (a := x :: b) nofun (fun y hy => (hlineEnds y hy).isBreak)
            h.not_break_space
        have hgap : NoGap r := noGap_of_writable hrest.writable hspace hr
        exact readsSingle_lineEnds hindent (hlineEnds x (List.mem_cons_self ..))
          (fun y hy => hlineEnds y (List.mem_cons_of_mem _ hy)) hspace hgap
          (ih r.length (by rw [List.length_cons, List.length_append]; omega) hrest rfl)
      · by_cases hspace : isSpaceOrTab x = true
        · obtain rfl := eq_space_of_isWritable hx hspace
          obtain ⟨k, r, hk, hsplit, hlength, hr⟩ := exists_spaces s
          rw [hsplit] at h ⊢
          have hnotBreak : ∀ y ∈ r.head?, isBreak y = false :=
            head?_of_hasAdjacent (by simpa [indentation] using hk)
              (fun y hy => by simp [isSpaceChar, List.eq_of_mem_replicate hy]) h.not_space_break
          have hgap : NoGap r := noGap_of_writable h.suffix.writable hr hnotBreak
          exact readsSingle_spaces hk hgap
            (ih r.length (by rw [List.length_cons]; omega) h.suffix rfl)
        · exact readsSingle_cons (by simpa using hspace) (by simpa using hbreak)
            (ih s.length (by simp) (show Folds ([x] ++ s) from h).suffix rfl)

/-! ### Double quotes -/

theorem escape?_of_escapeLetter? {x letter : Char} (h : escapeLetter? x = some letter) :
    escape? letter = some x ∧ isBreak letter = false := by
  have hx : Char.ofNat x.toNat = x := Char.ofNat_toNat x
  unfold escapeLetter? at h
  split at h <;> cases h <;> (rename_i heq; rw [heq] at hx; subst hx; decide)

theorem hexDigit?_upperHexDigit : ∀ n < 16, Text.hexDigit? (upperHexDigit n) = some n := by
  decide

theorem length_hexChars (count : Nat) : ∀ n, (hexChars count n).length = count := by
  induction count with
  | zero => exact fun _ => rfl
  | succ count ih =>
    intro n
    rw [hexChars, List.length_append, ih, List.length_singleton]

/-- A number in hexadecimal digits is read as the number. -/
theorem hexValue?_hexChars (count : Nat) :
    ∀ n < Nat.pow 16 count, Text.hexValue? (hexChars count n) = some n := by
  induction count with
  | zero =>
    intro n hn
    obtain rfl : n = 0 := Nat.lt_one_iff.mp hn
    rfl
  | succ count ih =>
    intro n hn
    have hpow : Nat.pow 16 (count + 1) = Nat.pow 16 count * 16 := rfl
    have hlow := hexDigit?_upperHexDigit (n % 16) (by omega)
    have hhigh := ih (n / 16) (by omega)
    rw [hexChars, Text.hexValue?_append_singleton hhigh hlow]
    exact congrArg some (by omega)

/-- The code point of a character is read as the character. -/
theorem escapedCode?_hexChars (x : Char) {count : Nat} (hx : x.toNat < Nat.pow 16 count)
    (rest : List Char) (i l col : Nat) :
    escapedCode? ⟨hexChars count x.toNat ++ rest, i, l, col⟩ count = some x := by
  have hlength := length_hexChars count x.toNat
  have htake : (hexChars count x.toNat ++ rest).take count = hexChars count x.toNat := by
    rw [List.take_append_of_le_length (Nat.le_of_eq hlength.symm), List.take_of_length_le
      (Nat.le_of_eq hlength)]
  have henough : ¬(hexChars count x.toNat ++ rest).length < count := by
    rw [List.length_append, hlength]
    omega
  have hvalid : x.toNat.isValidChar := x.valid
  simp only [escapedCode?, if_neg henough, htake, hexValue?_hexChars count x.toNat hx,
    Option.bind_some, charOfCode?, if_pos hvalid, Char.ofNat_toNat]

def ReadsDouble (after s : List Char) : Prop :=
  ∀ fuel i l col reversed, col ≠ 0 → (s.flatMap doubleChar).length < fuel →
    ∃ i' l' col', scanDouble fuel ⟨s.flatMap doubleChar ++ '"' :: after, i, l, col⟩ reversed =
      some (reversed.reverse ++ s, ⟨after, i', l', col'⟩)

section

variable {after r : List Char}

theorem readsDouble_nil : ReadsDouble after [] := by
  intro fuel i l col reversed hcol hfuel
  obtain ⟨f, rfl⟩ : ∃ f, fuel = f + 1 := ⟨fuel - 1, by omega⟩
  have hmarker : (⟨'"' :: after, i, l, col⟩ : Cursor).atMarker = false := atMarker_eq_false hcol
  have hquote : isSpaceOrTab '"' = false ∧ isBreak '"' = false := by decide
  refine ⟨i + 1, l, col + 1, ?_⟩
  simp [scanDouble, Cursor.head?, hmarker, hquote, Cursor.skip]

/-- The step over the code of a character, whose digits are as many as its mark says. -/
theorem scanDouble_code {x mark : Char} {count : Nat} (hescape : escape? mark = none)
    (hbreak : isBreak mark = false) (hlength : escapeLength? mark = some count)
    (hx : x.toNat < Nat.pow 16 count) (rest : List Char) (fuel i l : Nat) {col : Nat}
    (reversed : List Char) (hcol : col ≠ 0) :
    scanDouble (fuel + 1) ⟨'\\' :: mark :: (hexChars count x.toNat ++ rest), i, l, col⟩ reversed =
      scanDouble fuel ⟨rest, i + (2 + count), l, col + (2 + count)⟩ (x :: reversed) := by
  have hmarker : ∀ s : List Char, (⟨s, i, l, col⟩ : Cursor).atMarker = false :=
    fun s => atMarker_eq_false hcol
  have hslash : isSpaceOrTab '\\' = false ∧ isBreak '\\' = false := by decide
  have hread := escapedCode?_hexChars x hx rest (i + 2) l (col + 2)
  have hdrop : (hexChars count x.toNat ++ rest).drop count = rest := by
    have hlen := length_hexChars count x.toNat
    rw [List.drop_append_of_le_length (Nat.le_of_eq hlen.symm),
      List.drop_of_length_le (Nat.le_of_eq hlen), List.nil_append]
  have hskip : ('\\' :: mark :: (hexChars count x.toNat ++ rest)).drop (2 + count) = rest := by
    rw [← List.drop_drop]
    exact hdrop
  rw [scanDouble]
  simp [Cursor.head?, hmarker, hslash, Cursor.ahead?, hescape, hlength, hbreak, Cursor.skip,
    hread, hskip]

/-- The step over one escape: its character comes in front of the rest. -/
theorem scanDouble_escape (x : Char) (rest : List Char) (fuel i l col : Nat)
    (reversed : List Char) (hcol : col ≠ 0) :
    ∃ i' col', col' ≠ 0 ∧ scanDouble (fuel + 1) ⟨escapeChars x ++ rest, i, l, col⟩ reversed =
      scanDouble fuel ⟨rest, i', l, col'⟩ (x :: reversed) := by
  unfold escapeChars
  cases hletter : escapeLetter? x with
  | some letter =>
    obtain ⟨hescape, hbreak⟩ := escape?_of_escapeLetter? hletter
    have hmarker : ∀ s : List Char, (⟨s, i, l, col⟩ : Cursor).atMarker = false :=
      fun s => atMarker_eq_false hcol
    have hslash : isSpaceOrTab '\\' = false ∧ isBreak '\\' = false := by decide
    refine ⟨i + 2, col + 2, by omega, ?_⟩
    rw [scanDouble]
    simp [Cursor.head?, hmarker, hslash, Cursor.ahead?, hescape, hbreak, Cursor.skip]
  | none =>
    have hvalid : x.toNat < Nat.pow 16 8 := x.val.toNat_lt
    have hbyte : Nat.pow 16 2 = 0x100 := rfl
    have hplane : Nat.pow 16 4 = 0x10000 := rfl
    dsimp only
    -- The code has two digits, four, or as many as every code fits in.
    split
    · refine ⟨i + (2 + 2), col + (2 + 2), by omega, ?_⟩
      exact scanDouble_code rfl (by decide) rfl (by omega) rest fuel i l reversed hcol
    · split
      · refine ⟨i + (2 + 4), col + (2 + 4), by omega, ?_⟩
        exact scanDouble_code rfl (by decide) rfl (by omega) rest fuel i l reversed
          hcol
      · refine ⟨i + (2 + 8), col + (2 + 8), by omega, ?_⟩
        exact scanDouble_code rfl (by decide) rfl hvalid rest fuel i l reversed hcol

theorem noGap_doubleChars (hr : ∀ x ∈ r.head?, isSpaceChar x = false) :
    NoGap (r.flatMap doubleChar ++ '"' :: after) := by
  cases r with
  | nil => exact noGap_cons (by decide) (by decide) _
  | cons x r =>
    have hx := hr x rfl
    rw [List.flatMap_cons, doubleChar]
    split
    · exact noGap_cons (by decide) (by decide) _
    · rename_i hraw
      simp only [Bool.or_eq_true, Bool.not_eq_true', decide_eq_true_eq, not_or,
        Bool.not_eq_false, Bool.not_eq_true] at hraw
      apply noGap_cons _ hraw.1.1.2
      by_contra hblank
      obtain rfl := eq_space_of_isWritable hraw.1.1.1 (by simpa using hblank)
      exact absurd hx (by decide)

theorem flatMap_doubleChar_spaces (n : Nat) (r : List Char) :
    (indentation n ++ r).flatMap doubleChar = indentation n ++ r.flatMap doubleChar := by
  induction n with
  | zero => rfl
  | succ n ih =>
    have hspace : doubleChar ' ' = [' '] := by decide
    rw [indentation, List.replicate_succ, List.cons_append, List.flatMap_cons, hspace]
    exact congrArg (' ' :: ·) ih

theorem readsDouble_spaces {n : Nat} (hn : n ≠ 0) (hr : ∀ x ∈ r.head?, isSpaceChar x = false)
    (hafter : ReadsDouble after r) : ReadsDouble after (indentation n ++ r) := by
  intro fuel i l col reversed hcol hfuel
  rw [flatMap_doubleChar_spaces] at hfuel ⊢
  rw [List.length_append, indentation, List.length_replicate] at hfuel
  obtain ⟨f, rfl⟩ : ∃ f, fuel = f + 1 := ⟨fuel - 1, by omega⟩
  obtain ⟨m, rfl⟩ : ∃ m, n = m + 1 := ⟨n - 1, by omega⟩
  have hmarker : ∀ s : List Char, (⟨s, i, l, col⟩ : Cursor).atMarker = false :=
    fun s => atMarker_eq_false hcol
  obtain ⟨i₁, l₁, hgap⟩ := readGap_eq none (isGap_indentation (m + 1))
    (show NoGap (r.flatMap doubleChar ++ '"' :: after) from noGap_doubleChars hr)
    ((indentation (m + 1) ++ (r.flatMap doubleChar ++ '"' :: after)).length + 1) i l col {}
    (by rw [List.length_append]; omega)
  rw [columnAfter_spaces] at hgap
  obtain ⟨i₂, l₂, col₂, hrest⟩ := hafter f i₁ l₁ (col + (m + 1))
    ((indentation (m + 1)).reverse ++ reversed) (by omega) (by omega)
  refine ⟨i₂, l₂, col₂, ?_⟩
  have hspace : (isSpaceOrTab ' ' || isBreak ' ') = true := by decide
  have hcons : indentation (m + 1) = ' ' :: indentation m := rfl
  have htext := Gap.text_spaces (m + 1)
  rw [List.append_assoc, scanDouble]
  simp only [Cursor.head?, hcons, List.cons_append, List.head?_cons] at hgap htext hrest ⊢
  simp only [hmarker, Bool.false_eq_true, if_false, hspace, if_true, hgap, htext, hrest]
  simp

theorem readsDouble_cons {x : Char} (hx : x ≠ ' ') (hafter : ReadsDouble after r) :
    ReadsDouble after (x :: r) := by
  intro fuel i l col reversed hcol hfuel
  rw [List.flatMap_cons] at hfuel ⊢
  rw [List.length_append] at hfuel
  obtain ⟨f, rfl⟩ : ∃ f, fuel = f + 1 := ⟨fuel - 1, by omega⟩
  by_cases hescaped : (!isWritable x || isBreak x || x = '"' || x = '\\') = true
  · have hwritten : doubleChar x = escapeChars x := by rw [doubleChar, if_pos hescaped]
    have hpos : 0 < (escapeChars x).length := by
      rw [escapeChars, List.length_cons]
      omega
    rw [hwritten] at hfuel ⊢
    obtain ⟨i₁, col₁, hcol₁, hstep⟩ :=
      scanDouble_escape x (r.flatMap doubleChar ++ '"' :: after) f i l col reversed hcol
    obtain ⟨i₂, l₂, col₂, hrest⟩ := hafter f i₁ l col₁ (x :: reversed) hcol₁ (by omega)
    refine ⟨i₂, l₂, col₂, ?_⟩
    rw [List.append_assoc, hstep, hrest]
    simp
  · have hwritten : doubleChar x = [x] := by rw [doubleChar, if_neg hescaped]
    simp only [Bool.or_eq_true, Bool.not_eq_true', decide_eq_true_eq, not_or, Bool.not_eq_false,
      Bool.not_eq_true] at hescaped
    obtain ⟨⟨⟨hwritable, hbreak⟩, hquote⟩, hslash⟩ := hescaped
    have hblank : isSpaceOrTab x = false := by
      by_contra hblank
      exact hx (eq_space_of_isWritable hwritable (by simpa using hblank))
    have hmarker : ∀ s : List Char, (⟨s, i, l, col⟩ : Cursor).atMarker = false :=
      fun s => atMarker_eq_false hcol
    rw [hwritten, List.length_singleton] at hfuel
    rw [hwritten]
    obtain ⟨i₂, l₂, col₂, hrest⟩ := hafter f (i + 1) l (col + 1) (x :: reversed) (by omega)
      (by omega)
    refine ⟨i₂, l₂, col₂, ?_⟩
    rw [scanDouble]
    simp [Cursor.head?, hmarker, hblank, hbreak, hquote, hslash, Cursor.skip, hrest]

/-- Every text is read back from double quotes. -/
theorem readsDouble (after s : List Char) : ReadsDouble after s := by
  induction hn : s.length using Nat.strongRecOn generalizing s with
  | ind n ih =>
    subst hn
    cases s with
    | nil => exact readsDouble_nil
    | cons x s =>
      by_cases hx : x = ' '
      · subst hx
        obtain ⟨k, r, hk, hsplit, hlength, hr⟩ := exists_spaces s
        rw [hsplit]
        exact readsDouble_spaces hk hr (ih r.length (by rw [List.length_cons]; omega) r rfl)
      · exact readsDouble_cons hx (ih s.length (by simp) s rfl)

end

/-! ### No quotes -/

/-- A text without breaks and without marks after its first character, and without spaces at its
end. -/
structure Unmarked (before : Char) (s : List Char) : Prop where
  writable : ∀ x ∈ s, isWritable x = true
  not_break : ∀ x ∈ s, isBreak x = false
  not_space_last : ∀ x ∈ s.getLast?, isSpaceChar x = false
  not_mark : hasInnerMark before s = false

theorem hasInnerMark_cons {before x : Char} {r : List Char}
    (h : hasInnerMark before (x :: r) = false) :
    ¬(x = ':' ∧ gapNext r = true) ∧ ¬(x = '#' ∧ isSpaceOrTab before = true) ∧
      hasInnerMark x r = false := by
  simp only [hasInnerMark, Bool.or_eq_false_iff, Bool.and_eq_false_iff,
    decide_eq_false_iff_not] at h
  obtain ⟨⟨hcolon, hnumber⟩, hrest⟩ := h
  refine ⟨?_, ?_, hrest⟩
  · rintro ⟨hx, hgap⟩
    exact hcolon.elim (fun h => h hx) fun h => absurd hgap (by simp [h])
  · rintro ⟨hx, hblank⟩
    exact hnumber.elim (fun h => h hx) fun h => absurd hblank (by simp [h])

theorem hasInnerMark_spaces {k : Nat} (hk : k ≠ 0) {r : List Char} :
    ∀ {before : Char}, hasInnerMark before (indentation k ++ r) = false →
      hasInnerMark ' ' r = false := by
  induction k with
  | zero => exact absurd rfl hk
  | succ k ih =>
    intro before h
    rw [indentation, List.replicate_succ, List.cons_append] at h
    have hrest := (hasInnerMark_cons h).2.2
    cases k with
    | zero => exact hrest
    | succ k => exact ih (Nat.succ_ne_zero k) hrest

theorem Unmarked.suffix {before between : Char} {a r : List Char} (h : Unmarked before (a ++ r))
    (hr : r ≠ []) (hmark : hasInnerMark between r = false) : Unmarked between r where
  writable := fun x hx => h.writable x (List.mem_append_right a hx)
  not_break := fun x hx => h.not_break x (List.mem_append_right a hx)
  not_space_last := by
    intro x hx
    apply h.not_space_last x
    rw [List.getLast?_append_of_ne_nil a hr]
    exact hx
  not_mark := hmark

def gapText : Option Gap → List Char
  | some g => g.text
  | none => []

/-- A character that goes on with a plain scalar, after a gap or without one. -/
theorem scanPlain_push {margin f : Nat} {x : Char} {c : Cursor} {rest reversed : List Char}
    {gap : Option Gap} (hrest : c.rest = x :: rest) (hmarker : c.atMarker = false)
    (hblank : isSpaceOrTab x = false) (hbreak : isBreak x = false)
    (hnumber : ¬(gap.isSome = true ∧ x = '#')) (hcolon : ¬(x = ':' ∧ c.gapAt 1 = true)) :
    scanPlain false margin (f + 1) c reversed gap =
      scanPlain false margin f c.skip (x :: ((gapText gap).reverse ++ reversed)) none := by
  have hnumber' : (gap.isSome && decide (x = '#')) = false := by simpa using hnumber
  have hcolon' : (decide (x = ':') && c.gapAt 1) = false := by simpa using hcolon
  simp only [scanPlain, Cursor.head?, hrest, List.head?_cons, hmarker, hnumber', hblank, hbreak,
    hcolon', Bool.false_eq_true, if_false, Bool.or_false, Bool.false_and]
  rfl

/-- A part of a text without quotes is read as itself, up to the end of its line and over the
indentation of the next one, if that lies before the margin. -/
def ReadsPlain (margin next : Nat) (after s : List Char) : Prop :=
  ∀ fuel i l col reversed, col ≠ 0 → margin ≤ col → s.length < fuel → ∃ i' l',
    scanPlain false margin fuel ⟨s ++ '\n' :: (indentation next ++ after), i, l, col⟩ reversed
        none =
      some ⟨reversed.reverse ++ s, ⟨after, i', l', next⟩, true⟩

section

variable {margin next : Nat} {after r : List Char}

/-- The step over one gap. -/
theorem scanPlain_gap {b rest : List Char} (hb : IsGap b) (hne : b ≠ []) (hrest : NoGap rest)
    (margin f i l col : Nat) (reversed : List Char) (hcol : col ≠ 0) :
    ∃ i' l', scanPlain false margin (f + 1) ⟨b ++ rest, i, l, col⟩ reversed none =
      if columnAfter col b < margin then
        some ⟨reversed.reverse, ⟨rest, i', l', columnAfter col b⟩, (({} : Gap).absorb b).broken⟩
      else scanPlain false margin f ⟨rest, i', l', columnAfter col b⟩ reversed
        (some (({} : Gap).absorb b)) := by
  have hmarker : (⟨b ++ rest, i, l, col⟩ : Cursor).atMarker = false := atMarker_eq_false hcol
  obtain ⟨i', l', hgap⟩ := readGap_eq (some margin) hb hrest ((b ++ rest).length + 1) i l col {}
    (by rw [List.length_append]; omega)
  refine ⟨i', l', ?_⟩
  cases b with
  | nil => exact absurd rfl hne
  | cons x b =>
    rw [scanPlain]
    simp only [Cursor.head?, List.cons_append, List.head?_cons] at hgap hmarker ⊢
    simp only [hmarker, Option.isSome_none, Bool.false_and, Bool.false_eq_true, if_false,
      isGap_cons hb, if_true, hgap, Bool.not_false, Bool.true_and, decide_eq_true_eq]

theorem readsPlain_nil (hnext : next < margin) (hafter : NoGap after) :
    ReadsPlain margin next after [] := by
  intro fuel i l col reversed hcol _ hfuel
  obtain ⟨f, rfl⟩ : ∃ f, fuel = f + 1 := ⟨fuel - 1, by omega⟩
  have hfeed : IsLineEnd '\n' := Or.inl rfl
  have hgap : IsGap ('\n' :: indentation next) :=
    isGap_append (a := ['\n']) (isGap_of_lineEnds fun x hx => List.mem_singleton.mp hx ▸ hfeed)
      (isGap_indentation next)
  obtain ⟨i', l', hstep⟩ := scanPlain_gap hgap nofun hafter margin f i l col reversed hcol
  have hcolumn : columnAfter col ('\n' :: indentation next) = next :=
    columnAfter_broken (b := []) hfeed nofun next col
  have hbroken : (({} : Gap).absorb ('\n' :: indentation next)).broken = true := by
    have habsorb := Gap.absorb_broken (b := []) hfeed nofun next
    rw [List.singleton_append] at habsorb
    rw [habsorb]
  refine ⟨i', l', ?_⟩
  rw [hcolumn, if_pos hnext, hbroken] at hstep
  rw [List.append_nil, List.nil_append, ← hstep, List.cons_append]

theorem gapAt_one (x : Char) (r more : List Char) (i l col : Nat) :
    (⟨x :: r ++ '\n' :: more, i, l, col⟩ : Cursor).gapAt 1 = gapNext r := by
  cases r with
  | nil => rfl
  | cons y r => rfl

theorem readsPlain_cons {x before : Char} (h : hasInnerMark before (x :: r) = false)
    (hblank : isSpaceOrTab x = false) (hbreak : isBreak x = false)
    (hafter : ReadsPlain margin next after r) : ReadsPlain margin next after (x :: r) := by
  intro fuel i l col reversed hcol hmargin hfuel
  rw [List.length_cons] at hfuel
  obtain ⟨f, rfl⟩ : ∃ f, fuel = f + 1 := ⟨fuel - 1, by omega⟩
  obtain ⟨i', l', hrest⟩ := hafter f (i + 1) l (col + 1) (x :: reversed) (by omega) (by omega)
    (by omega)
  refine ⟨i', l', ?_⟩
  rw [scanPlain_push rfl (atMarker_eq_false hcol) hblank hbreak (by simp)]
  · refine Eq.trans hrest ?_
    simp
  · rw [gapAt_one]
    exact (hasInnerMark_cons h).1

theorem readsPlain_spaces {x before : Char} {k : Nat} (hk : k ≠ 0)
    (h : hasInnerMark before (indentation k ++ x :: r) = false) (hblank : isSpaceOrTab x = false)
    (hbreak : isBreak x = false) (hafter : ReadsPlain margin next after r) :
    ReadsPlain margin next after (indentation k ++ x :: r) := by
  intro fuel i l col reversed hcol hmargin hfuel
  rw [List.length_append, List.length_cons, indentation, List.length_replicate] at hfuel
  -- One step for the spaces and one for the character that ends them.
  obtain ⟨f, rfl⟩ : ∃ f, fuel = f + 2 := ⟨fuel - 2, by omega⟩
  have hmark := hasInnerMark_spaces hk h
  have hne : indentation k ≠ [] := by simpa [indentation] using hk
  obtain ⟨i₁, l₁, hgap⟩ := scanPlain_gap (isGap_indentation k) hne
    (noGap_cons hblank hbreak (r ++ '\n' :: (indentation next ++ after))) margin (f + 1) i l col
    reversed hcol
  rw [columnAfter_spaces, if_neg (by omega)] at hgap
  obtain ⟨i₂, l₂, hrest⟩ := hafter f (i₁ + 1) l₁ (col + k + 1)
    (x :: ((indentation k).reverse ++ reversed)) (by omega) (by omega) (by omega)
  refine ⟨i₂, l₂, ?_⟩
  rw [List.append_assoc, List.cons_append, hgap,
    scanPlain_push rfl (atMarker_eq_false (by simp; omega)) hblank hbreak]
  · have htext : gapText (some (({} : Gap).absorb (indentation k))) = indentation k :=
      Gap.text_spaces k
    rw [htext]
    refine Eq.trans hrest ?_
    simp
  · rintro ⟨-, rfl⟩
    exact (hasInnerMark_cons hmark).2.1 ⟨rfl, by decide⟩
  · have hnext := gapAt_one x r (indentation next ++ after) i₁ l₁ (col + k)
    rw [List.cons_append] at hnext
    rw [hnext]
    exact (hasInnerMark_cons hmark).1

end

/-- A text without marks is read back without quotes. -/
theorem readsPlain_of_unmarked {margin next : Nat} {after : List Char} (hnext : next < margin)
    (hafter : NoGap after) {before : Char} {s : List Char} (h : Unmarked before s) :
    ReadsPlain margin next after s := by
  induction hn : s.length using Nat.strongRecOn generalizing before s with
  | ind n ih =>
    subst hn
    cases s with
    | nil => exact readsPlain_nil hnext hafter
    | cons x s =>
      have hwritable := h.writable x (List.mem_cons_self ..)
      have hbreak := h.not_break x (List.mem_cons_self ..)
      by_cases hblank : isSpaceOrTab x = true
      · obtain rfl := eq_space_of_isWritable hwritable hblank
        obtain ⟨k, r, hk, hsplit, hlength, hr⟩ := exists_spaces s
        rw [hsplit] at h ⊢
        cases r with
        | nil =>
          -- The text would end with a space.
          have hlast := h.not_space_last ' ' (by
            obtain ⟨m, rfl⟩ : ∃ m, k = m + 1 := ⟨k - 1, by omega⟩
            rw [List.append_nil, indentation, List.replicate_succ', List.getLast?_append]
            rfl)
          exact absurd hlast (by decide)
        | cons y r =>
          have hy : y ∈ indentation k ++ y :: r := by simp
          have hyblank : isSpaceOrTab y = false := by
            by_contra hcontra
            obtain rfl := eq_space_of_isWritable (h.writable y hy) (by simpa using hcontra)
            exact absurd (hr ' ' rfl) (by decide)
          apply readsPlain_spaces hk h.not_mark hyblank (h.not_break y hy)
          cases r with
          | nil => exact readsPlain_nil hnext hafter
          | cons z r =>
            have hmark := (hasInnerMark_cons (hasInnerMark_spaces hk h.not_mark)).2.2
            have hrest : Unmarked y (z :: r) :=
              (show Unmarked before ((indentation k ++ [y]) ++ z :: r) by simpa using h).suffix
                nofun hmark
            exact ih (z :: r).length (by simp only [List.length_cons] at hlength ⊢; omega) hrest rfl
      · apply readsPlain_cons h.not_mark (by simpa using hblank) hbreak
        cases s with
        | nil => exact readsPlain_nil hnext hafter
        | cons z r =>
          have hrest : Unmarked x (z :: r) :=
            (show Unmarked before ([x] ++ z :: r) from h).suffix nofun
              (hasInnerMark_cons h.not_mark).2.2
          exact ih (z :: r).length (by simp) hrest rfl

end ContentTypes.Yaml
