import ContentTypes.Proofs.YamlScalars

/-! Blocks of lines that were written are read back. Empty lines are not indented, and the end of
the block is told by the next line, which is not indented either. -/

namespace ContentTypes.Yaml

/-! ### The text of a block -/

theorem literalChars_lineEnds (indent : Nat) {b : List Char} (hb : ∀ x ∈ b, isBreak x = true)
    (r : List Char) : literalChars indent true (b ++ r) = b ++ literalChars indent true r := by
  induction b with
  | nil => rfl
  | cons x b ih =>
    have hx := hb x (List.mem_cons_self ..)
    rw [List.cons_append, literalChars, if_pos hx, ih fun y hy => hb y (List.mem_cons_of_mem _ hy),
      List.cons_append]

theorem literalChars_line (indent : Nat) {line : List Char} (hline : ∀ x ∈ line, isBreak x = false)
    (r : List Char) :
    literalChars indent false (line ++ r) = line ++ literalChars indent false r := by
  induction line with
  | nil => rfl
  | cons x line ih =>
    have hx := hline x (List.mem_cons_self ..)
    rw [List.cons_append, literalChars, ih fun y hy => hline y (List.mem_cons_of_mem _ hy)]
    simp [hx]

theorem literalChars_indented (indent : Nat) {x : Char} (hx : isBreak x = false) (r : List Char) :
    literalChars indent true (x :: r) =
      indentation indent ++ literalChars indent false (x :: r) := by
  simp [literalChars, hx]

theorem literalChars_cons_break (indent : Nat) {x : Char} (hx : isBreak x = true) (r : List Char) :
    literalChars indent false (x :: r) = x :: literalChars indent true r := by
  rw [literalChars, if_pos hx]

theorem literalChars_cons (indent : Nat) {x : Char} (hx : isBreak x = false) (r : List Char) :
    literalChars indent false (x :: r) = x :: literalChars indent false r := by
  simp [literalChars, hx]

theorem ne_tab_of_isWritable {x : Char} (hx : isWritable x = true) : x ≠ '\t' := by
  rintro rfl
  exact absurd hx (by decide)

def chompingOf (s : List Char) : Chomping :=
  match s.reverse with
  | last :: rest =>
    if !isBreak last then .strip else if rest.head?.all isBreak then .keep else .clip
  | [] => .strip

def closing (s : List Char) : List Char := if s.getLast?.any isBreak then [] else ['\n']

theorem chompingOf_append (a : List Char) {x : Char} (hx : isBreak x = false) (r : List Char) :
    chompingOf (a ++ x :: r) = chompingOf (x :: r) := by
  unfold chompingOf
  rw [List.reverse_append]
  cases hreverse : (x :: r).reverse with
  | nil => simp at hreverse
  | cons last rest =>
    cases rest with
    | nil =>
      -- A single character is no break, so what stands in front of it is not looked at.
      have hlast : x :: r = [last] := by
        have := congrArg List.reverse hreverse
        simpa using this
      obtain ⟨rfl, rfl⟩ : x = last ∧ r = [] := by simpa using hlast
      simp [hx]
    | cons y rest => rfl

theorem closing_append (a : List Char) {r : List Char} (hr : r ≠ []) :
    closing (a ++ r) = closing r := by
  rw [closing, closing, List.getLast?_append_of_ne_nil a hr]

theorem chompingOf_line {line : List Char} (hline : ∀ x ∈ line, isBreak x = false) :
    chompingOf line = .strip := by
  unfold chompingOf
  split
  · rename_i last rest heq
    have hlast : last ∈ line := by
      rw [← List.mem_reverse, heq]
      exact List.mem_cons_self ..
    simp [hline last hlast]
  · rfl

theorem chompingOf_lineEnd {line : List Char} (hne : line ≠ [])
    (hline : ∀ x ∈ line, isBreak x = false) {b : Char} (hb : isBreak b = true) :
    chompingOf (line ++ [b]) = .clip := by
  obtain ⟨a, x, rfl⟩ := List.eq_nil_or_concat line |>.resolve_left hne
  have hx := hline x (by simp)
  simp [chompingOf, hb, hx]

theorem chompingOf_lineEnds {a b : List Char} (hb : ∀ x ∈ b, isBreak x = true)
    (hlength : 2 ≤ b.length) : chompingOf (a ++ b) = .keep := by
  obtain ⟨b', y, rfl⟩ := List.eq_nil_or_concat b |>.resolve_left (by rintro rfl; simp at hlength)
  obtain ⟨b'', x, rfl⟩ := List.eq_nil_or_concat b' |>.resolve_left (by rintro rfl; simp at hlength)
  have hx := hb x (by simp)
  have hy := hb y (by simp)
  simp [chompingOf, hx, hy]

theorem closing_line {line : List Char} (hline : ∀ x ∈ line, isBreak x = false) :
    closing line = ['\n'] := by
  unfold closing
  cases hlast : line.getLast? with
  | none => rfl
  | some x => simp [hline x (List.mem_of_getLast? hlast)]

theorem closing_lineEnds (a : List Char) {x : Char} (hx : isBreak x = true) {b : List Char}
    (hb : ∀ y ∈ b, isBreak y = true) : closing (a ++ x :: b) = [] := by
  have hall : ∀ y ∈ x :: b, isBreak y = true := by
    rw [List.forall_mem_cons]
    exact ⟨hx, hb⟩
  rw [closing_append a (List.cons_ne_nil x b), closing]
  cases hlast : (x :: b).getLast? with
  | none => simp at hlast
  | some y => simp [hall y (List.mem_of_getLast? hlast)]

/-! ### Reading the lines -/

/-- Where a line begins after its indentation: in the block, or in front of its end. -/
structure Lands (indent : Nat) (next rest : List Char) (column : Nat) : Prop where
  skip : ∀ i l, ∃ i', skipIndent (some indent) ⟨next, i, l, 0⟩ = ⟨rest, i', l, column⟩
  not_break : ∀ x ∈ rest.head?, isBreak x = false
  not_tab : ∀ x ∈ rest.head?, x ≠ '\t'

/-- The empty lines in front of a line of a block are read as their breaks. -/
theorem readBlockBreaks_eq {indent column : Nat} {next rest : List Char}
    (hlands : Lands indent next rest column) {b : List Char} (hb : ∀ x ∈ b, IsLineEnd x) :
    ∀ fuel i l breaks widest, b.length < fuel → ∃ w i' l',
      readBlockBreaks (some indent) fuel ⟨b ++ next, i, l, 0⟩ breaks widest =
        some (breaks ++ b, w, ⟨rest, i', l', column⟩) := by
  induction b with
  | nil =>
    intro fuel i l breaks widest hfuel
    obtain ⟨f, rfl⟩ : ∃ f, fuel = f + 1 := ⟨fuel - 1, by omega⟩
    obtain ⟨i', hskip⟩ := hlands.skip i l
    refine ⟨max widest column, i', l, ?_⟩
    have htab : (⟨rest, i', l, column⟩ : Cursor).isAt '\t' = false := by
      cases rest with
      | nil => rfl
      | cons x r => simpa [Cursor.isAt, Cursor.holds, Cursor.ahead?] using hlands.not_tab x rfl
    have hbreak : (⟨rest, i', l, column⟩ : Cursor).breakAt 0 = false := by
      cases rest with
      | nil => rfl
      | cons x r =>
        simpa [Cursor.breakAt, Cursor.holds, Cursor.ahead?] using hlands.not_break x rfl
    rw [readBlockBreaks, List.nil_append, hskip]
    simp [htab, hbreak]
  | cons x b ih =>
    intro fuel i l breaks widest hfuel
    rw [List.length_cons] at hfuel
    obtain ⟨f, rfl⟩ : ∃ f, fuel = f + 1 := ⟨fuel - 1, by omega⟩
    have hx := hb x (List.mem_cons_self ..)
    have hspace : x ≠ ' ' := hx.ne_of_toNat_lt (by decide) (by decide)
    have htab : x ≠ '\t' := hx.ne_of_toNat_lt (by decide) (by decide)
    have hskip : skipIndent (some indent) ⟨x :: (b ++ next), i, l, 0⟩ =
        ⟨x :: (b ++ next), i, l, 0⟩ := by
      simp [skipIndent, hspace, Cursor.skip]
    obtain ⟨w, i', l', hrest⟩ := ih (fun y hy => hb y (List.mem_cons_of_mem _ hy)) f (i + 1) (l + 1)
      (breaks ++ [x]) (max widest 0) (by omega)
    refine ⟨w, i', l', ?_⟩
    rw [readBlockBreaks, List.cons_append, hskip]
    have htab' : (⟨x :: (b ++ next), i, l, 0⟩ : Cursor).isAt '\t' = false := by
      simpa [Cursor.isAt, Cursor.holds, Cursor.ahead?] using htab
    have hbreak : (⟨x :: (b ++ next), i, l, 0⟩ : Cursor).breakAt 0 = true := by
      simpa [Cursor.breakAt, Cursor.holds, Cursor.ahead?] using hx.isBreak
    simp only [htab', hbreak, Bool.false_and, Bool.false_eq_true, if_false, if_true,
      hx.skipBreak, hx.breakText, hrest, List.append_assoc, List.singleton_append]

theorem drop_indentation (indent : Nat) (r : List Char) :
    (indentation indent ++ r).drop indent = r := by
  rw [List.drop_append_of_le_length (by simp [indentation])]
  simp [indentation]

theorem takeWhile_indentation (indent : Nat) (r : List Char) :
    (indentation indent ++ r).takeWhile (· = ' ') =
      indentation indent ++ r.takeWhile (· = ' ') :=
  List.takeWhile_append_of_pos fun y hy => by simp [List.eq_of_mem_replicate hy]

theorem lands_indented (indent : Nat) {x : Char} (hbreak : isBreak x = false) (htab : x ≠ '\t')
    (r : List Char) : Lands indent (indentation indent ++ x :: r) (x :: r) indent where
  skip := by
    intro i l
    refine ⟨i + indent, ?_⟩
    have hspaces : indent ≤ ((indentation indent ++ x :: r).takeWhile (· = ' ')).length := by
      rw [takeWhile_indentation]
      simp [indentation]
    simp [skipIndent, Cursor.skip, Nat.min_eq_right hspaces, drop_indentation]
  not_break := by
    intro y hy
    obtain rfl : x = y := Option.some.inj hy
    exact hbreak
  not_tab := by
    intro y hy
    obtain rfl : x = y := Option.some.inj hy
    exact htab

theorem lands_noGap (indent : Nat) {after : List Char} (hafter : NoGap after) :
    Lands indent after after 0 where
  skip := by
    intro i l
    refine ⟨i, ?_⟩
    cases after with
    | nil => simp [skipIndent, Cursor.skip]
    | cons x r =>
      have hspace : x ≠ ' ' := by
        rintro rfl
        exact absurd (hafter ' ' rfl).1 (by decide)
      simp [skipIndent, hspace, Cursor.skip]
  not_break := fun x hx => (hafter x hx).2
  not_tab := by
    intro x hx
    rintro rfl
    exact absurd (hafter '\t' hx).1 (by decide)

section

variable {line rest : List Char} {x : Char}

theorem taken_line (hline : ∀ y ∈ line, isBreak y = false) (hx : isBreak x = true) (i l col : Nat) :
    (⟨line ++ x :: rest, i, l, col⟩ : Cursor).taken (fun y => !isBreak y) = line := by
  rw [Cursor.taken, List.takeWhile_append_of_pos fun y hy => by simp [hline y hy]]
  simp [hx]

theorem skipToBreak_line (hline : ∀ y ∈ line, isBreak y = false) (hx : isBreak x = true)
    (i l col : Nat) : (⟨line ++ x :: rest, i, l, col⟩ : Cursor).skipToBreak =
      ⟨x :: rest, i + line.length, l, col + line.length⟩ := by
  have htaken : (⟨line ++ x :: rest, i, l, col⟩ : Cursor).taken (fun y => !isBreak y) = line :=
    taken_line hline hx i l col
  rw [Cursor.taken] at htaken
  rw [Cursor.skipToBreak, Cursor.skipWhile, htaken]
  simp [Cursor.skip]

/-- One line of a block, its break and the empty lines after it. -/
theorem scanBlockLines_line {next after : List Char} {indent column : Nat} (hne : line ≠ [])
    (hline : ∀ y ∈ line, isBreak y = false) (hx : IsLineEnd x) {b : List Char}
    (hb : ∀ y ∈ b, IsLineEnd y) (hlands : Lands indent next after column) (chomping : Chomping)
    (fuel i l : Nat) (text pending others : List Char) (blankBefore : Bool) :
    ∃ i' l' blank, scanBlockLines false indent chomping (fuel + 1)
        ⟨line ++ x :: (b ++ next), i, l, indent⟩ text pending others blankBefore =
      scanBlockLines false indent chomping fuel ⟨after, i', l', column⟩
        (text ++ pending ++ others ++ line) [x] b blank := by
  have hending : (⟨line ++ x :: (b ++ next), i, l, indent⟩ : Cursor).skipToBreak =
      ⟨x :: (b ++ next), i + line.length, l, indent + line.length⟩ :=
    skipToBreak_line hline hx.isBreak i l indent
  have htaken : (⟨line ++ x :: (b ++ next), i, l, indent⟩ : Cursor).taken (fun y => !isBreak y) =
      line := taken_line hline hx.isBreak i l indent
  obtain ⟨w, i', l', hbreaks⟩ := readBlockBreaks_eq hlands hb ((x :: (b ++ next)).length + 1)
    (i + line.length + 1) (l + 1) [] 0 (by rw [List.length_cons, List.length_append]; omega)
  refine ⟨i', l', (⟨line ++ x :: (b ++ next), i, l, indent⟩ : Cursor).blankAt 0, ?_⟩
  have hend : (⟨line ++ x :: (b ++ next), i, l, indent⟩ : Cursor).atEnd = false := by
    cases line with
    | nil => exact absurd rfl hne
    | cons y line => rfl
  simp only [scanBlockLines, hend, htaken, hending, hx.skipBreak, hx.breakText, hbreaks,
    Bool.not_false, decide_true, Bool.and_self, if_true, Bool.false_and, Bool.false_eq_true,
    if_false, List.nil_append]

end

/-- A line that does not begin at the indentation ends the block. -/
theorem scanBlockLines_end {indent column : Nat} (hcolumn : column ≠ indent) (chomping : Chomping)
    (fuel i l : Nat) (after text pending others : List Char) (blankBefore : Bool) :
    scanBlockLines false indent chomping (fuel + 1) ⟨after, i, l, column⟩ text pending others
        blankBefore =
      some (text ++ (match chomping with
        | .strip => []
        | .clip => pending
        | .keep => pending ++ others), ⟨after, i, l, column⟩) := by
  cases chomping <;>
    simp only [scanBlockLines, hcolumn, decide_false, Bool.false_and, Bool.false_eq_true, if_false]

section

variable {indent : Nat} {line after : List Char}

/-- A last line without a break of its own: the break that closes the block is not part of it. -/
theorem scanBlockLines_last (hindent : indent ≠ 0) (hafter : NoGap after) (hne : line ≠ [])
    (hline : ∀ y ∈ line, isBreak y = false) (fuel i l : Nat) (text pending others : List Char)
    (blankBefore : Bool) : ∃ i' l', scanBlockLines false indent (chompingOf line) (fuel + 2)
        ⟨literalChars indent false line ++ (closing line ++ after), i, l, indent⟩ text pending
        others blankBefore =
      some (text ++ pending ++ others ++ line, ⟨after, i', l', 0⟩) := by
  have hwritten : literalChars indent false line = line := by
    simpa [literalChars] using literalChars_line indent hline []
  obtain ⟨i', l', blank, hstep⟩ := scanBlockLines_line hne hline (Or.inl rfl) (b := []) nofun
    (lands_noGap indent hafter) (chompingOf line) (fuel + 1) i l text pending others blankBefore
  refine ⟨i', l', ?_⟩
  rw [closing_line hline, hwritten]
  refine hstep.trans ?_
  rw [scanBlockLines_end hindent.symm, chompingOf_line hline, List.append_nil]

/-- A last line with breaks after it, of which the chomping keeps all that there are. -/
theorem scanBlockLines_lastBreaks (hindent : indent ≠ 0) (hafter : NoGap after) (hne : line ≠ [])
    (hline : ∀ y ∈ line, isBreak y = false) {b : Char} (hb : IsLineEnd b) {bs : List Char}
    (hbs : ∀ y ∈ bs, IsLineEnd y) (fuel i l : Nat) (text pending others : List Char)
    (blankBefore : Bool) :
    ∃ i' l', scanBlockLines false indent (chompingOf (line ++ b :: bs)) (fuel + 2)
        ⟨literalChars indent false (line ++ b :: bs) ++ (closing (line ++ b :: bs) ++ after), i, l,
          indent⟩ text pending others blankBefore =
      some (text ++ pending ++ others ++ (line ++ b :: bs), ⟨after, i', l', 0⟩) := by
  have hbreaks : ∀ y ∈ bs, isBreak y = true := fun y hy => (hbs y hy).isBreak
  have hclosing : closing (line ++ b :: bs) = [] := closing_lineEnds line hb.isBreak hbreaks
  have hwritten : literalChars indent false (line ++ b :: bs) = line ++ b :: bs := by
    have hends : literalChars indent true bs = bs := by
      simpa [literalChars] using literalChars_lineEnds indent hbreaks []
    rw [literalChars_line indent hline, literalChars_cons_break indent hb.isBreak, hends]
  obtain ⟨i', l', blank, hstep⟩ := scanBlockLines_line hne hline hb hbs (lands_noGap indent hafter)
    (chompingOf (line ++ b :: bs)) (fuel + 1) i l text pending others blankBefore
  refine ⟨i', l', ?_⟩
  rw [hclosing, hwritten]
  simp only [List.nil_append, List.append_assoc, List.cons_append] at hstep ⊢
  refine hstep.trans ?_
  rw [scanBlockLines_end hindent.symm]
  cases bs with
  | nil => simp [chompingOf_lineEnd hne hline hb.isBreak]
  | cons c bs =>
    have hkeep : chompingOf (line ++ b :: c :: bs) = .keep :=
      chompingOf_lineEnds (List.forall_mem_cons.mpr ⟨hb.isBreak, hbreaks⟩) (by simp)
    simp [hkeep]

/-- A line, its breaks, and the start of the next line that is not empty. -/
theorem scanBlockLines_next (hne : line ≠ []) (hline : ∀ y ∈ line, isBreak y = false) {b : Char}
    (hb : IsLineEnd b) {bs : List Char} (hbs : ∀ y ∈ bs, IsLineEnd y) {y : Char} {r : List Char}
    (hy : isBreak y = false) (htab : y ≠ '\t') (more : List Char) (chomping : Chomping)
    (fuel i l : Nat) (text pending others : List Char) (blankBefore : Bool) :
    ∃ i' l' blank, scanBlockLines false indent chomping (fuel + 1)
        ⟨literalChars indent false (line ++ b :: (bs ++ y :: r)) ++ more, i, l, indent⟩ text
        pending others blankBefore =
      scanBlockLines false indent chomping fuel
        ⟨literalChars indent false (y :: r) ++ more, i', l', indent⟩
        (text ++ pending ++ others ++ line) [b] bs blank := by
  have hwritten : literalChars indent false (line ++ b :: (bs ++ y :: r)) =
      line ++ b :: (bs ++ (indentation indent ++ y :: literalChars indent false r)) := by
    rw [literalChars_line indent hline, literalChars_cons_break indent hb.isBreak,
      literalChars_lineEnds indent fun z hz => (hbs z hz).isBreak, literalChars_indented indent hy,
      literalChars_cons indent hy]
  have hlands := lands_indented indent hy htab (literalChars indent false r ++ more)
  obtain ⟨i', l', blank, hstep⟩ := scanBlockLines_line hne hline hb hbs hlands chomping fuel i l
    text pending others blankBefore
  refine ⟨i', l', blank, ?_⟩
  rw [hwritten, literalChars_cons indent hy]
  simp only [List.append_assoc, List.cons_append] at hstep ⊢
  exact hstep

/-- The lines of a block from its first one on are read as they are written. -/
theorem scanBlockLines_eq (hindent : indent ≠ 0) (hafter : NoGap after) {x : Char} {s : List Char}
    (hx : isBreak x = false) (hwritable : ∀ y ∈ x :: s, isWritable y = true) :
    ∀ fuel i l text pending others blankBefore, (x :: s).length < fuel → ∃ i' l',
      scanBlockLines false indent (chompingOf (x :: s)) fuel
          ⟨literalChars indent false (x :: s) ++ (closing (x :: s) ++ after), i, l, indent⟩
          text pending others blankBefore =
        some (text ++ pending ++ others ++ x :: s, ⟨after, i', l', 0⟩) := by
  induction hn : (x :: s).length using Nat.strongRecOn generalizing x s with
  | ind n ih =>
    subst hn
    intro fuel i l text pending others blankBefore hfuel
    -- The text is a line, a run of breaks, and what comes after them.
    obtain ⟨line, r, hsplit, hline, hr⟩ := exists_run (fun y => !isBreak y) (x :: s)
    have hline' : ∀ y ∈ line, isBreak y = false := fun y hy => by simpa using hline y hy
    have hne : line ≠ [] := by
      rintro rfl
      rw [List.nil_append] at hsplit
      rw [← hsplit] at hr
      simp [hx] at hr
    have hpos := List.length_pos_iff.mpr hne
    rw [hsplit] at hwritable hfuel ⊢
    obtain ⟨f, rfl⟩ : ∃ f, fuel = f + 2 := ⟨fuel - 2, by rw [List.length_append] at hfuel; omega⟩
    cases r with
    | nil =>
      rw [List.append_nil]
      exact scanBlockLines_last hindent hafter hne hline' f i l text pending others blankBefore
    | cons b r =>
      have hb : IsLineEnd b := (isBreak_iff_of_isWritable (hwritable b (by simp))).mp
        (by simpa using hr b rfl)
      obtain ⟨bs, r, rfl, hbs, hr'⟩ := exists_run isBreak r
      have hbs' : ∀ y ∈ bs, IsLineEnd y := fun y hy =>
        (isBreak_iff_of_isWritable (hwritable y (by simp [hy]))).mp (hbs y hy)
      cases r with
      | nil =>
        rw [List.append_nil]
        exact scanBlockLines_lastBreaks hindent hafter hne hline' hb hbs' f i l text pending others
          blankBefore
      | cons y r =>
        have hy : isBreak y = false := hr' y rfl
        have htab := ne_tab_of_isWritable (hwritable y (by simp))
        have hassoc : line ++ b :: (bs ++ y :: r) = (line ++ b :: bs) ++ y :: r := by simp
        have hclosing : closing (line ++ b :: (bs ++ y :: r)) = closing (y :: r) := by
          rw [hassoc, closing_append _ (List.cons_ne_nil y r)]
        have hchomping : chompingOf (line ++ b :: (bs ++ y :: r)) = chompingOf (y :: r) := by
          rw [hassoc, chompingOf_append _ hy]
        have hlength : (line ++ b :: (bs ++ y :: r)).length =
            line.length + (bs.length + (r.length + 2)) := by
          simp only [List.length_append, List.length_cons]
          omega
        obtain ⟨i₁, l₁, blank, hstep⟩ := scanBlockLines_next hne hline' hb hbs' hy htab
          (closing (y :: r) ++ after) (chompingOf (y :: r)) (f + 1) i l text pending others
          blankBefore
        obtain ⟨i', l', hrest⟩ := ih (y :: r).length
          (by rw [hsplit, hlength, List.length_cons]; omega) hy
          (fun z hz => hwritable z (by simp [List.mem_cons.mp hz])) rfl (f + 1) i₁ l₁
          (text ++ pending ++ others ++ line) [b] bs blank
          (by rw [hlength] at hfuel; rw [List.length_cons]; omega)
        refine ⟨i', l', ?_⟩
        rw [hclosing, hchomping, hstep, hrest]
        simp

end

/-! ### The head of a block -/

def chompMark : Chomping → List Char
  | .strip => ['-']
  | .clip => []
  | .keep => ['+']

/-- The written mark is that of how the breaks are to be kept. -/
theorem chompHint_eq (s : List Char) : chompHint s = chompMark (chompingOf s) := by
  unfold chompHint chompingOf
  cases s.reverse with
  | nil => rfl
  | cons last rest =>
    by_cases hlast : isBreak last = true <;> by_cases hrest : rest.head?.all isBreak = true <;>
      simp [hlast, hrest, chompMark]

/-- The head of a block is read as the indentation and the chomping that it was written for. -/
theorem readBlockHead_eq (hint : Bool) (chomping : Chomping) (rest : List Char) (i l col : Nat) :
    ∃ i' col', readBlockHead
        ⟨(if hint then ['2'] else []) ++ (chompMark chomping ++ '\n' :: rest), i, l, col⟩ =
      some (⟨chomping, if hint then some 2 else none⟩, ⟨'\n' :: rest, i', l, col'⟩) := by
  cases hint <;> cases chomping <;> exact ⟨_, _, rfl⟩

/-- A block whose first line tells its indentation. -/
theorem readBlockBreaks_first (indent : Nat) {x : Char} (hspace : x ≠ ' ')
    (hbreak : isBreak x = false) (htab : x ≠ '\t') (rest : List Char) (fuel i l : Nat) :
    ∃ i', readBlockBreaks none (fuel + 1) ⟨indentation indent ++ x :: rest, i, l, 0⟩ [] 0 =
      some ([], indent, ⟨x :: rest, i', l, indent⟩) := by
  refine ⟨i + indent, ?_⟩
  have htake : ((indentation indent ++ x :: rest).takeWhile (· = ' ')).length = indent := by
    rw [takeWhile_indentation]
    simp [indentation, hspace]
  have hskip : skipIndent none ⟨indentation indent ++ x :: rest, i, l, 0⟩ =
      ⟨x :: rest, i + indent, l, indent⟩ := by
    simp only [skipIndent, htake, Cursor.skip, drop_indentation, Nat.zero_add]
  rw [readBlockBreaks, hskip]
  simp [Cursor.isAt, Cursor.breakAt, Cursor.holds, Cursor.ahead?, htab, hbreak]

/-- After its head a block is read from the start of the next line. -/
theorem scanBlock_head {hint : Bool} {chomping : Chomping} {body head : List Char}
    {i l col i' col' : Nat}
    (hhead : readBlockHead ⟨head, i, l, col⟩ =
      some (⟨chomping, if hint then some 2 else none⟩, ⟨'\n' :: body, i', l, col'⟩)) :
    scanBlock false 1 ⟨head, i, l, col⟩ =
      (readBlockBreaks (if hint then some 2 else none) (body.length + 1) ⟨body, i' + 1, l + 1, 0⟩ []
        0).bind fun (breaks, widest, c) =>
          scanBlockLines false (if hint then 2 else max widest 1) chomping (c.rest.length + 2) c []
            [] breaks false := by
  have hskip : (⟨'\n' :: body, i', l, col'⟩ : Cursor).skipWhile isSpaceOrTab =
      ⟨'\n' :: body, i', l, col'⟩ := by
    have hfeed : isSpaceOrTab '\n' = false := by decide
    simp [Cursor.skipWhile, hfeed, Cursor.skip]
  have hat : (⟨'\n' :: body, i', l, col'⟩ : Cursor).isAt '#' = false := rfl
  have hgap : (⟨'\n' :: body, i', l, col'⟩ : Cursor).gapAt 0 = true := rfl
  have hbreak : (⟨'\n' :: body, i', l, col'⟩ : Cursor).breakAt 0 = true := rfl
  have hfeed : IsLineEnd '\n' := Or.inl rfl
  simp only [scanBlock, hhead, Option.bind_eq_bind, Option.bind_some, hskip, hat, hgap, hbreak,
    Bool.false_eq_true, if_false, Bool.not_true, if_true, hfeed.skipBreak]
  cases hint <;> rfl

theorem chompingOf_breaks {b : List Char} (hne : b ≠ []) (hb : ∀ x ∈ b, isBreak x = true) :
    chompingOf b = .keep := by
  obtain ⟨a, x, rfl⟩ := List.eq_nil_or_concat b |>.resolve_left hne
  have hx := hb x (by simp)
  have hall : a.getLast?.all isBreak = true := by
    cases hlast : a.getLast? with
    | none => rfl
    | some y =>
      have hy := List.mem_of_getLast? hlast
      simpa using hb y (by simp [hy])
  simp [chompingOf, hx, hall]

theorem length_le_literalChars (indent : Nat) (s : List Char) :
    ∀ newLine, s.length ≤ (literalChars indent newLine s).length := by
  induction s with
  | nil => exact fun _ => Nat.le_refl 0
  | cons x s ih =>
    intro newLine
    rw [literalChars]
    split
    · simpa using ih true
    · have := ih false
      simp only [List.length_append, List.length_cons]
      omega

/-- A block of breaks only, which are all kept. -/
theorem scanBlock_breaks {b after : List Char} (hne : b ≠ []) (hb : ∀ y ∈ b, IsLineEnd y)
    (hafter : NoGap after) (i l col : Nat) : ∃ i' l',
    scanBlock false 1 ⟨indentHint b ++ (chompHint b ++ '\n' ::
        (literalChars 2 true b ++ (closing b ++ after))), i, l, col⟩ =
      some (b, ⟨after, i', l', 0⟩) := by
  have hbreaks : ∀ y ∈ b, isBreak y = true := fun y hy => (hb y hy).isBreak
  have hhint : indentHint b = if b.head?.any isSpaceOrBreak then ['2'] else [] := rfl
  have hhinted : b.head?.any isSpaceOrBreak = true := by
    obtain ⟨y, b, rfl⟩ := List.exists_cons_of_ne_nil hne
    simp [isSpaceOrBreak, hbreaks y (List.mem_cons_self ..)]
  have hclosing : closing b = [] := by
    obtain ⟨y, b, rfl⟩ := List.exists_cons_of_ne_nil hne
    exact closing_lineEnds [] (hbreaks y (List.mem_cons_self ..)) fun z hz =>
      hbreaks z (List.mem_cons_of_mem _ hz)
  have hbody : literalChars 2 true b ++ (closing b ++ after) = b ++ after := by
    have hwritten : literalChars 2 true b = b := by
      simpa [literalChars] using literalChars_lineEnds 2 hbreaks []
    rw [hwritten, hclosing, List.nil_append]
  obtain ⟨i₁, col₁, hhead⟩ := readBlockHead_eq true (chompingOf b) (b ++ after) i l col
  obtain ⟨w, i₂, l₂, hread⟩ := readBlockBreaks_eq (lands_noGap 2 hafter) hb
    ((b ++ after).length + 1) (i₁ + 1) (l + 1) [] 0 (by rw [List.length_append]; omega)
  refine ⟨i₂, l₂, ?_⟩
  rw [hbody, hhint, hhinted, chompHint_eq, scanBlock_head hhead, chompingOf_breaks hne hbreaks]
  simp only [if_true, hread, Option.bind_some, List.nil_append]
  exact scanBlockLines_end (by decide) .keep _ _ _ _ _ _ _ _

/-- A block at the outermost level is read back. -/
theorem scanBlock_eq {s after : List Char} (hne : s ≠ []) (hwritable : ∀ x ∈ s, isWritable x = true)
    (hafter : NoGap after) (i l col : Nat) : ∃ i' l',
    scanBlock false 1 ⟨indentHint s ++ (chompHint s ++ '\n' ::
        (literalChars 2 true s ++ (closing s ++ after))), i, l, col⟩ =
      some (s, ⟨after, i', l', 0⟩) := by
  obtain ⟨b, r, rfl, hb, hr⟩ := exists_run isBreak s
  have hb' : ∀ y ∈ b, IsLineEnd y := fun y hy =>
    (isBreak_iff_of_isWritable (hwritable y (List.mem_append_left r hy))).mp (hb y hy)
  cases r with
  | nil =>
    rw [List.append_nil] at hne ⊢
    exact scanBlock_breaks hne hb' hafter i l col
  | cons x r =>
    have hx : isBreak x = false := hr x rfl
    have hrest : ∀ y ∈ x :: r, isWritable y = true := fun y hy =>
      hwritable y (List.mem_append_right b hy)
    have hxtab := ne_tab_of_isWritable (hrest x (List.mem_cons_self ..))
    have hhint : indentHint (b ++ x :: r) =
        if (b ++ x :: r).head?.any isSpaceOrBreak then ['2'] else [] := rfl
    have hbody : literalChars 2 true (b ++ x :: r) ++ (closing (b ++ x :: r) ++ after) =
        b ++ (indentation 2 ++ x :: (literalChars 2 false r ++ (closing (x :: r) ++ after))) := by
      rw [literalChars_lineEnds 2 hb, literalChars_indented 2 hx, literalChars_cons 2 hx,
        closing_append b (List.cons_ne_nil x r)]
      simp
    obtain ⟨i₁, col₁, hhead⟩ := readBlockHead_eq ((b ++ x :: r).head?.any isSpaceOrBreak)
      (chompingOf (b ++ x :: r))
      (b ++ (indentation 2 ++ x :: (literalChars 2 false r ++ (closing (x :: r) ++ after)))) i l col
    rw [hbody, hhint, chompHint_eq, scanBlock_head hhead, chompingOf_append b hx]
    -- The lines are read in the same way, whether their indentation was written or found.
    have hlines := scanBlockLines_eq (by decide : 2 ≠ 0) hafter hx hrest
    rw [literalChars_cons 2 hx, List.cons_append] at hlines
    have hfuel : (x :: r).length <
        (x :: (literalChars 2 false r ++ (closing (x :: r) ++ after))).length + 2 := by
      have := length_le_literalChars 2 r false
      simp only [List.length_cons, List.length_append]
      omega
    generalize literalChars 2 false r ++ (closing (x :: r) ++ after) = more at hlines hfuel ⊢
    by_cases hhinted : (b ++ x :: r).head?.any isSpaceOrBreak = true
    · obtain ⟨w, i₂, l₂, hbreaks⟩ := readBlockBreaks_eq (lands_indented 2 hx hxtab more) hb'
        ((b ++ (indentation 2 ++ x :: more)).length + 1) (i₁ + 1) (l + 1) [] 0
        (by rw [List.length_append]; omega)
      obtain ⟨i₃, l₃, hread⟩ := hlines _ i₂ l₂ [] [] b false hfuel
      refine ⟨i₃, l₃, ?_⟩
      rw [hhinted]
      simp only [if_true, hbreaks, Option.bind_some, List.nil_append]
      exact hread
    · have hnil : b = [] := by
        by_contra hcontra
        obtain ⟨y, b, rfl⟩ := List.exists_cons_of_ne_nil hcontra
        have hy := hb y (List.mem_cons_self ..)
        simp [isSpaceOrBreak, hy] at hhinted
      subst hnil
      have hspace : x ≠ ' ' := by
        rintro rfl
        exact hhinted rfl
      obtain ⟨i₂, hbreaks⟩ := readBlockBreaks_first 2 hspace hx hxtab more
        (indentation 2 ++ x :: more).length (i₁ + 1) (l + 1)
      obtain ⟨i₃, l₃, hread⟩ := hlines _ i₂ (l + 1) [] [] [] false hfuel
      refine ⟨i₃, l₃, ?_⟩
      rw [Bool.eq_false_iff.mpr hhinted]
      simp only [Bool.false_eq_true, if_false, List.nil_append, hbreaks, Option.bind_some]
      exact hread

end ContentTypes.Yaml

