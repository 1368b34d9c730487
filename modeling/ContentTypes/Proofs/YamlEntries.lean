import ContentTypes.Proofs.YamlBlocks
import ContentTypes.ConfigurationFile

/-! The tokens of a written entry. A key is met as a plain scalar, becomes a key at its colon, and
is followed by the scalar that was written for its value; then the next entry begins. -/

namespace ContentTypes.Yaml

/-! ### Keys -/

def isKeyChar (x : Char) : Bool := x.isLower || x = '_'

section

variable {x : Char} (h : isKeyChar x = true)

include h

theorem ne_of_isKeyChar {y : Char} (hy : isKeyChar y = false) : x ≠ y := by
  rintro rfl
  rw [h] at hy
  cases hy

theorem toNat_le_of_isKeyChar : x.toNat ≤ 0x7A := by
  change (x.val ≥ 'a'.val && x.val ≤ 'z'.val || x = '_') = true at h
  simp only [Bool.or_eq_true, Bool.and_eq_true, decide_eq_true_eq] at h
  rcases h with ⟨-, hle⟩ | rfl
  · exact hle
  · decide

theorem not_blank_of_isKeyChar : isSpaceOrTab x = false := by
  simp [isSpaceOrTab, ne_of_isKeyChar h (y := ' ') (by decide),
    ne_of_isKeyChar h (y := '\t') (by decide)]

theorem not_break_of_isKeyChar : isBreak x = false := by
  have hcode := toNat_le_of_isKeyChar h
  have hnext : x.toNat ≠ 0x85 ∧ x.toNat ≠ 0x2028 ∧ x.toNat ≠ 0x2029 := by omega
  simp [isBreak, ne_of_isKeyChar h (y := '\n') (by decide),
    ne_of_isKeyChar h (y := '\r') (by decide), hnext]

end

structure IsKey (k : List Char) : Prop where
  ne_nil : k ≠ []
  chars : ∀ x ∈ k, isKeyChar x = true
  short : k.length ≤ 1024

def KeyNext (t : List Char) : Prop := ∀ x ∈ t.head?, isKeyChar x = true

theorem keyNext_nil : KeyNext [] := by
  intro x hx
  cases hx

theorem IsKey.next {k : List Char} (h : IsKey k) (t : List Char) : KeyNext (k ++ t) := by
  obtain ⟨x, r, rfl⟩ := List.exists_cons_of_ne_nil h.ne_nil
  intro y hy
  obtain rfl : x = y := Option.some.inj hy
  exact h.chars x (List.mem_cons_self ..)

theorem KeyNext.noGap {t : List Char} (h : KeyNext t) : NoGap t := by
  intro x hx
  exact ⟨not_blank_of_isKeyChar (h x hx), not_break_of_isKeyChar (h x hx)⟩

def Starts (t : List Char) : Prop :=
  ∀ x ∈ t.head?, isSpaceOrTab x = false ∧ isBreak x = false ∧ x ≠ '#' ∧ isByteOrderMark x = false

theorem starts_cons {x : Char} (hblank : isSpaceOrTab x = false) (hbreak : isBreak x = false)
    (hnumber : x ≠ '#') (hmark : isByteOrderMark x = false) (t : List Char) : Starts (x :: t) := by
  intro y hy
  obtain rfl : x = y := Option.some.inj hy
  exact ⟨hblank, hbreak, hnumber, hmark⟩

theorem KeyNext.starts {t : List Char} (h : KeyNext t) : Starts t := by
  intro x hx
  have hx' := h x hx
  have hcode := toNat_le_of_isKeyChar hx'
  refine ⟨not_blank_of_isKeyChar hx', not_break_of_isKeyChar hx',
    ne_of_isKeyChar hx' (by decide), ?_⟩
  simp [isByteOrderMark]
  omega

/-! ### From token to token -/

theorem blankAt_of_gapAt {c : Cursor} {n : Nat} (h : c.gapAt n = false) : c.blankAt n = false := by
  unfold Cursor.gapAt at h
  unfold Cursor.blankAt Cursor.holds
  split at h
  · cases h
  · rename_i heq
    rw [Bool.or_eq_false_iff] at h
    simpa [heq] using h.1

def isMark (x : Char) : Bool := "#,[]\x7b\x7d&*!|>'\"%@\x60".toList.contains x

theorem isMark_of_isKeyChar {x : Char} (h : isKeyChar x = true) : isMark x = false := by
  by_contra hmark
  have hmem : x ∈ "#,[]\x7b\x7d&*!|>'\"%@\x60".toList :=
    List.contains_iff_mem.mp (Bool.not_eq_false _ ▸ hmark)
  have hnone : "#,[]\x7b\x7d&*!|>'\"%@\x60".toList.all (fun y => !isKeyChar y) = true := by decide
  have hx := List.all_eq_true.mp hnone x hmem
  rw [h] at hx
  cases hx

/-- What the first entry of a mapping opens: a block, unless the mapping is open already. -/
inductive Opens (margin : Nat) (margins : List Nat) (column : Nat) :
    List Token → Nat → List Nat → Prop
  | stays (h : margin = column + 1) : Opens margin margins column [] margin margins
  | opens (h : margin ≤ column) :
    Opens margin margins column [.blockMappingStart] (column + 1) (margin :: margins)

def keyTokens (k : List Char) : List Token := [.key, .scalar k .plain, .value]

namespace Scanner

def atKey (tokens : List Token) (margin : Nat) (margins : List Nat) (c : Cursor) : Scanner :=
  { cursor := c, tokens, margin, margins }

def atValue (tokens : List Token) (margin : Nat) (margins : List Nat) (c : Cursor) : Scanner :=
  { cursor := c, tokens, margin, margins, keyAllowed := false }

def resume (fuel : Nat) (s : Scanner) : Option (List Token) := do
  let s ← s.expireKeys
  if s.cursor.atEnd then
    let s ← (s.unroll 0).dropKey
    return s.tokens
  else
    let s ← (s.unroll (s.cursor.column + 1)).token
    run fuel s

theorem run_succ (fuel : Nat) (s : Scanner) :
    run (fuel + 1) s = resume fuel (skipToToken (s.cursor.rest.length + 1) s) := rfl

/-- Blanks in front of a token are passed over. -/
theorem skipToToken_spaces {n i l col : Nat} {t : List Char} (ht : Starts t) {s : Scanner}
    (hs : s.cursor = ⟨indentation n ++ t, i, l, col⟩) (fuel : Nat) :
    skipToToken (fuel + 1) s = s.moveTo ⟨t, i + n, l, col + n⟩ := by
  have hmark : (⟨indentation n ++ t, i, l, col⟩ : Cursor).holds 0 isByteOrderMark = false := by
    cases n with
    | zero =>
      cases t with
      | nil => rfl
      | cons x t => simpa [Cursor.holds, Cursor.ahead?, indentation] using (ht x rfl).2.2.2
    | succ n => rfl
  have hskip : (⟨indentation n ++ t, i, l, col⟩ : Cursor).skipWhile
      (fun x => x = ' ' || (x = '\t' && (s.inFlow || !s.keyAllowed))) = ⟨t, i + n, l, col + n⟩ := by
    have htake : ((indentation n ++ t).takeWhile
        (fun x => x = ' ' || (x = '\t' && (s.inFlow || !s.keyAllowed)))).length = n := by
      rw [List.takeWhile_append_of_pos fun y hy => by simp [List.eq_of_mem_replicate hy]]
      cases t with
      | nil => simp [indentation]
      | cons x t =>
        have hblank := (ht x rfl).1
        simp only [isSpaceOrTab, Bool.or_eq_false_iff, decide_eq_false_iff_not] at hblank
        simp [indentation, hblank]
    have hdrop : (indentation n ++ t).drop n = t := by
      rw [List.drop_append_of_le_length (by simp [indentation])]
      simp [indentation]
    rw [Cursor.skipWhile, htake, Cursor.skip, hdrop]
  have hnumber : (⟨t, i + n, l, col + n⟩ : Cursor).isAt '#' = false := by
    cases t with
    | nil => rfl
    | cons x t => simpa [Cursor.isAt, Cursor.holds, Cursor.ahead?] using (ht x rfl).2.2.1
  have hbreak : (⟨t, i + n, l, col + n⟩ : Cursor).breakAt 0 = false := by
    cases t with
    | nil => rfl
    | cons x t => simpa [Cursor.breakAt, Cursor.holds, Cursor.ahead?] using (ht x rfl).2.1
  simp only [skipToToken, hs, hmark, Bool.and_false, Bool.false_eq_true, if_false, hskip, hnumber,
    hbreak]

/-- A line feed is passed over, together with the indentation of the next line. -/
theorem skipToToken_feed {n i l col : Nat} {t : List Char} (ht : Starts t) {s : Scanner}
    (hs : s.cursor = ⟨'\n' :: (indentation n ++ t), i, l, col⟩) (hflow : s.inFlow = false)
    (fuel : Nat) :
    skipToToken (fuel + 2) s =
      { s with cursor := ⟨t, i + 1 + n, l + 1, n⟩, keyAllowed := true } := by
  have hstep : skipToToken (fuel + 2) s = skipToToken (fuel + 1)
      { s with cursor := ⟨indentation n ++ t, i + 1, l + 1, 0⟩, keyAllowed := true } := by
    have hmark : isByteOrderMark '\n' = false := by decide
    have hfeed : IsLineEnd '\n' := Or.inl rfl
    rw [skipToToken]
    simp [hs, Cursor.holds, Cursor.ahead?, hmark, Cursor.skipWhile, Cursor.skip, Cursor.isAt,
      Cursor.breakAt, hfeed.isBreak, hfeed.skipBreak, hflow]
  rw [hstep, skipToToken_spaces ht rfl, Nat.zero_add]
  rfl

theorem unroll_of_le {s : Scanner} {target : Nat} (h : s.margin ≤ target) :
    s.unroll target = s := by
  unfold unroll
  split
  · rfl
  · cases s.margins with
    | nil => rfl
    | cons outer rest => rw [unrollWith, if_pos h]

/-- Where a plain scalar begins, one is read. -/
theorem token_eq_plain {s : Scanner} {x : Char} {r : List Char} {i l col : Nat}
    (hs : s.cursor = ⟨x :: r, i, l, col⟩) (hmarker : s.cursor.atMarker = false)
    (hflow : s.inFlow = false) (hblank : isSpaceOrTab x = false) (hbreak : isBreak x = false)
    (hmark : isMark x = false)
    (hgap : x = '?' ∨ x = ':' ∨ x = '-' → s.cursor.gapAt 1 = false) : s.token = s.plain := by
  have hat : ∀ y, s.cursor.isAt y = decide (x = y) := by
    intro y
    rw [hs]
    rfl
  have hholds : s.cursor.holds 0 isIndicator = isIndicator x := by
    rw [hs]
    rfl
  have hgap₀ : s.cursor.gapAt 0 = false := by
    rw [hs]
    simp [Cursor.gapAt, Cursor.ahead?, hblank, hbreak]
  have hminus : (decide (x = '-') && s.cursor.gapAt 1) = false := by
    by_cases h : x = '-' <;> simp [h]
    exact hgap (Or.inr (Or.inr h))
  have hquestion : (decide (x = '?') && s.cursor.gapAt 1) = false := by
    by_cases h : x = '?' <;> simp [h]
    exact hgap (Or.inl h)
  have hcolon : (decide (x = ':') && s.cursor.gapAt 1) = false := by
    by_cases h : x = ':' <;> simp [h]
    exact hgap (Or.inr (Or.inl h))
  simp [isMark] at hmark
  have hbegins : beginsPlain false s.cursor = true := by
    by_cases h : x = '?' ∨ x = ':' ∨ x = '-'
    · have hgap₁ := hgap h
      have hblank₁ := blankAt_of_gapAt hgap₁
      rcases h with rfl | rfl | rfl <;> simp [beginsPlain, hat, hgap₁, hblank₁]
    · have hindicator : isIndicator x = false := by
        simp [isIndicator]
        simp_all
      simp [beginsPlain, hgap₀, hholds, hindicator]
  simp [token, hat, hmarker, hflow, hminus, hquestion, hcolon, hbegins, hmark]

/-- A key is met as a plain scalar up to its colon. -/
theorem scanPlain_key {k r : List Char} (hkey : ∀ x ∈ k, isKeyChar x = true)
    (hgap : ∀ i l col, (⟨':' :: r, i, l, col⟩ : Cursor).gapAt 1 = true) (margin : Nat) :
    ∀ fuel i l col reversed, k.length < fuel →
      scanPlain false margin fuel ⟨k ++ ':' :: r, i, l, col⟩ reversed none =
        some ⟨reversed.reverse ++ k, ⟨':' :: r, i + k.length, l, col + k.length⟩, false⟩ := by
  induction k with
  | nil =>
    intro fuel i l col reversed hfuel
    obtain ⟨f, rfl⟩ : ∃ f, fuel = f + 1 := ⟨fuel - 1, by omega⟩
    have hcolon : isSpaceOrTab ':' = false ∧ isBreak ':' = false := by decide
    have hmarker : (⟨':' :: r, i, l, col⟩ : Cursor).atMarker = false := by
      simp [Cursor.atMarker, List.isPrefixOf]
    simp [scanPlain, Cursor.head?, hmarker, hcolon, hgap]
  | cons x k ih =>
    intro fuel i l col reversed hfuel
    rw [List.length_cons] at hfuel
    obtain ⟨f, rfl⟩ : ∃ f, fuel = f + 1 := ⟨fuel - 1, by omega⟩
    have hx := hkey x (List.mem_cons_self ..)
    have hmarker : (⟨x :: (k ++ ':' :: r), i, l, col⟩ : Cursor).atMarker = false := by
      have hminus : x ≠ '-' := ne_of_isKeyChar hx (by decide)
      have hpoint : x ≠ '.' := ne_of_isKeyChar hx (by decide)
      simp [Cursor.atMarker, List.isPrefixOf, hminus.symm, hpoint.symm]
    have hrest := ih (fun y hy => hkey y (List.mem_cons_of_mem _ hy)) f (i + 1) l (col + 1)
      (x :: reversed) (by omega)
    rw [List.cons_append, scanPlain_push rfl hmarker (not_blank_of_isKeyChar hx)
      (not_break_of_isKeyChar hx) (by simp) fun h => ne_of_isKeyChar hx (by decide) h.1]
    refine hrest.trans ?_
    simp [Nat.add_assoc, Nat.add_comm 1]

theorem token_eq_value {s : Scanner} {r : List Char} {i l col : Nat}
    (hs : s.cursor = ⟨':' :: r, i, l, col⟩) (hgap : s.cursor.gapAt 1 = true) :
    s.token = s.value := by
  have hat : ∀ y, s.cursor.isAt y = decide (':' = y) := by
    intro y
    rw [hs]
    rfl
  have hmarker : s.cursor.atMarker = false := by
    rw [hs]
    simp [Cursor.atMarker, List.isPrefixOf]
  simp [token, hat, hmarker, hgap]

/-- A token is read from its place when no possible key expires and no block ends there. -/
theorem resume_token {s s' : Scanner} (hexpire : s.expireKeys = some s)
    (hend : s.cursor.atEnd = false) (hmargin : s.margin ≤ s.cursor.column + 1)
    (htoken : s.token = some s') (fuel : Nat) : resume fuel s = run fuel s' := by
  simp [resume, hexpire, hend, unroll_of_le hmargin, htoken]

def afterKey (tokens : List Token) (margin : Nat) (margins : List Nat) (k : List Char)
    (place : KeyPlace) (c : Cursor) : Scanner :=
  { cursor := c, tokens := tokens ++ [Token.scalar k .plain], margin, margins
    keyPlace := some place, keyAllowed := false }

/-- A colon behind a key puts its tokens in front of it. -/
theorem value_afterKey {margin margin' col : Nat} {margins margins' : List Nat}
    {opened : List Token} (hopens : Opens margin margins col opened margin' margins')
    (tokens : List Token) (k : List Char) (required : Bool) (index line : Nat) (c : Cursor) :
    (afterKey tokens margin margins k ⟨required, tokens.length, index, line, col⟩ c).value =
      some (atValue (tokens ++ (opened ++ keyTokens k)) margin' margins'
        c.skip) := by
  cases hopens with
  | stays h =>
    have hlt : col < margin := by omega
    simp [value, afterKey, emitAt, roll, inFlow, hlt, advance, moveTo, emit, atValue, keyTokens]
  | opens h =>
    have hle : ¬col < margin := by omega
    simp [value, afterKey, emitAt, roll, inFlow, hle, advance, moveTo, emit, atValue, keyTokens]

section

variable {k r : List Char} {margin col : Nat} {margins : List Nat}

/-- At the place of a key its text is read as a scalar and remembered as a possible key. -/
theorem token_atKey (hk : IsKey k)
    (hgap : ∀ i l col, (⟨':' :: r, i, l, col⟩ : Cursor).gapAt 1 = true) (i l : Nat)
    (tokens : List Token) :
    (atKey tokens margin margins ⟨k ++ ':' :: r, i, l, col⟩).token =
      some (afterKey tokens margin margins k ⟨margin == col + 1, tokens.length, i, l, col⟩
        ⟨':' :: r, i + k.length, l, col + k.length⟩) := by
  have hplain : (atKey tokens margin margins ⟨k ++ ':' :: r, i, l, col⟩).plain =
      some (afterKey tokens margin margins k ⟨margin == col + 1, tokens.length, i, l, col⟩
        ⟨':' :: r, i + k.length, l, col + k.length⟩) := by
    have hscan := scanPlain_key hk.chars hgap margin ((k ++ ':' :: r).length + 1) i l col []
      (by rw [List.length_append]; omega)
    rw [List.length_append, List.length_cons, List.reverse_nil, List.nil_append] at hscan
    simp [plain, saveKey, dropKey, atKey, inFlow, hscan, afterKey, allowKey, moveTo, emit]
  rw [← hplain]
  -- The first character of a key starts nothing else.
  obtain ⟨x, k', rfl⟩ := List.exists_cons_of_ne_nil hk.ne_nil
  have hx := hk.chars x (List.mem_cons_self ..)
  have hminus : x ≠ '-' := ne_of_isKeyChar hx (by decide)
  have hpoint : x ≠ '.' := ne_of_isKeyChar hx (by decide)
  apply token_eq_plain rfl _ rfl (not_blank_of_isKeyChar hx) (not_break_of_isKeyChar hx)
  · exact isMark_of_isKeyChar hx
  · rintro (rfl | rfl | rfl)
    · exact absurd hx (by decide)
    · exact absurd hx (by decide)
    · exact absurd hx (by decide)
  · simp [atKey, Cursor.atMarker, List.isPrefixOf, hminus.symm, hpoint.symm]

/-- A key is short, so it is still a possible key when its colon is reached. -/
theorem expireKeys_afterKey (hk : IsKey k) (i l : Nat) (tokens : List Token) :
    (afterKey tokens margin margins k ⟨margin == col + 1, tokens.length, i, l, col⟩
        ⟨':' :: r, i + k.length, l, col + k.length⟩).expireKeys =
      some (afterKey tokens margin margins k ⟨margin == col + 1, tokens.length, i, l, col⟩
        ⟨':' :: r, i + k.length, l, col + k.length⟩) := by
  have hexpired : keyExpired ⟨':' :: r, i + k.length, l, col + k.length⟩
      ⟨margin == col + 1, tokens.length, i, l, col⟩ = false := by
    have hshort := hk.short
    simp [keyExpired]
    omega
  simp [expireKeys, expireKey, afterKey, hexpired]

/-- From the place of a key to the place after its colon. -/
theorem resume_key (hk : IsKey k)
    (hgap : ∀ i l col, (⟨':' :: r, i, l, col⟩ : Cursor).gapAt 1 = true) {margin' : Nat}
    {margins' : List Nat} {opened : List Token}
    (hopens : Opens margin margins col opened margin' margins') (fuel i l : Nat)
    (tokens : List Token) :
    resume (fuel + 1) (atKey tokens margin margins ⟨k ++ ':' :: r, i, l, col⟩) =
      run fuel (atValue (tokens ++ (opened ++ keyTokens k)) margin' margins'
        ⟨r, i + k.length + 1, l, col + k.length + 1⟩) := by
  have hle : margin ≤ col + 1 := by
    cases hopens with
    | stays h => omega
    | opens h => omega
  let place : KeyPlace := ⟨margin == col + 1, tokens.length, i, l, col⟩
  let colon : Cursor := ⟨':' :: r, i + k.length, l, col + k.length⟩
  have hstart : (⟨k ++ ':' :: r, i, l, col⟩ : Cursor).atEnd = false := by
    cases k with
    | nil => exact absurd rfl hk.ne_nil
    | cons x k => rfl
  have hstay : skipToToken (colon.rest.length + 1) (afterKey tokens margin margins k place colon) =
      afterKey tokens margin margins k place colon :=
    skipToToken_spaces (n := 0)
      (starts_cons (by decide) (by decide) (by decide) (by decide) r) rfl _
  -- The colon turns the scalar into a key.
  have hvalue : (afterKey tokens margin margins k place colon).token =
      some (atValue (tokens ++ (opened ++ keyTokens k)) margin' margins'
        ⟨r, i + k.length + 1, l, col + k.length + 1⟩) := by
    rw [token_eq_value rfl (hgap _ _ _)]
    exact value_afterKey hopens tokens k _ i l colon
  calc resume (fuel + 1) (atKey tokens margin margins ⟨k ++ ':' :: r, i, l, col⟩)
      = run (fuel + 1) (afterKey tokens margin margins k place colon) :=
        resume_token rfl hstart hle (token_atKey hk hgap i l tokens) _
    _ = resume fuel (afterKey tokens margin margins k place colon) := by
        rw [run_succ]
        exact congrArg (resume fuel) hstay
    _ = run fuel _ :=
        resume_token (expireKeys_afterKey hk i l tokens) rfl (by simp [afterKey]; omega)
          hvalue _

end

end Scanner

open Scanner

/-! ### Values -/

/-- A written value is read as a token, together with its line feed and the indentation of the next
line. -/
structure ReadsValue (margin next : Nat) (v : List Char) (t : Token) : Prop where
  ne_nil : v ≠ []
  starts : ∀ r, Starts (v ++ r)
  reads : ∀ after, KeyNext after → ∀ tokens margins i l col, margin ≤ col → col ≠ 0 →
    ∃ s' i' l', (atValue tokens margin margins
        ⟨v ++ (closing v ++ (indentation next ++ after)), i, l, col⟩).token = some s' ∧
      skipToToken (s'.cursor.rest.length + 1) s' =
        atKey (tokens ++ [t]) margin margins ⟨after, i', l', next⟩

structure StartsPlain (x : Char) (r : List Char) : Prop where
  unmarked : ∀ before, Unmarked before (x :: r)
  not_blank : isSpaceOrTab x = false
  not_mark : isMark x = false
  not_gap : x = '?' ∨ x = ':' ∨ x = '-' → gapNext r = false

/-- A string that may stand without quotes begins like one. -/
theorem startsPlain_of_plainAllowed {x : Char} {r : List Char} (h : plainAllowed (x :: r) = true) :
    StartsPlain x r := by
  simp only [plainAllowed, Bool.and_eq_true, Bool.not_eq_true', hasMark, Bool.or_eq_false_iff,
    List.any_eq_false, hasUnwritable, hasLeadingMark, Bool.and_eq_false_iff,
    decide_eq_false_iff_not, Bool.not_eq_false, Option.any_eq_false_iff_get] at h
  obtain ⟨⟨⟨⟨hhead, hlast⟩, hbreaks⟩, hwritable⟩, ⟨-, hmark, hgap⟩, hinner⟩ := h
  have hspace : isSpaceChar x = false := (Bool.or_eq_false_iff.mp (hhead rfl)).1
  have hnumber : x ≠ '#' := by
    rintro rfl
    exact absurd hmark (by decide)
  refine ⟨?_, ?_, hmark, ?_⟩
  · intro before
    refine ⟨hwritable, fun y hy => by simpa using hbreaks y hy, ?_, ?_⟩
    · intro y hy
      have hy' := Option.mem_def.mp hy
      have hlast' := hlast (by rw [hy']; rfl)
      simp only [hy', Option.get_some] at hlast'
      exact (Bool.or_eq_false_iff.mp hlast').1
    · have hcolon : (decide (x = ':') && gapNext r) = false := by
        rw [Bool.and_eq_false_iff, decide_eq_false_iff_not]
        exact hgap.imp (fun h => h.1.2) id
      simp [hasInnerMark, hcolon, hnumber, hinner]
  · by_contra hblank
    obtain rfl := eq_space_of_isWritable (hwritable x (List.mem_cons_self ..))
      (by simpa using hblank)
    exact absurd hspace (by decide)
  · intro hx
    rcases hgap with ⟨⟨hquestion, hcolon⟩, hminus⟩ | hgap
    · exact absurd hx (by simp [hquestion, hcolon, hminus])
    · exact hgap

/-- An unquoted text is read at the end of its line. -/
theorem readsValue_plain {margin next : Nat} (hnext : next < margin) {s : List Char} (hne : s ≠ [])
    (h : plainAllowed s = true) : ReadsValue margin next s (.scalar s .plain) := by
  obtain ⟨x, r, rfl⟩ := List.exists_cons_of_ne_nil hne
  have hplain := startsPlain_of_plainAllowed h
  have hunmarked := hplain.unmarked 'a'
  have hx := hunmarked.not_break x (List.mem_cons_self ..)
  have hwritable := hunmarked.writable x (List.mem_cons_self ..)
  have hclosing : closing (x :: r) = ['\n'] := closing_line hunmarked.not_break
  refine ⟨hne, ?_, ?_⟩
  · intro more
    apply starts_cons hplain.not_blank hx
    · rintro rfl
      exact absurd hplain.not_mark (by decide)
    · by_contra hmark
      simp [isByteOrderMark] at hmark
      simp [isWritable, isByteOrderMark, hmark] at hwritable
      subst hwritable
      exact absurd hmark (by decide)
  · intro after hafter tokens margins i l col hmargin hcol
    rw [hclosing, List.singleton_append]
    let start : Cursor := ⟨x :: r ++ '\n' :: (indentation next ++ after), i, l, col⟩
    obtain ⟨i', l', hscan⟩ := readsPlain_of_unmarked hnext hafter.noGap hunmarked
      (start.rest.length + 1) i l col [] hcol hmargin
      (by rw [show start.rest = _ from rfl, List.length_append]; omega)
    have htoken : (atValue tokens margin margins start).token =
        (atValue tokens margin margins start).plain := by
      apply token_eq_plain rfl (atMarker_eq_false hcol) rfl hplain.not_blank hx hplain.not_mark
      intro hx
      exact (gapAt_one x r _ i l col).trans (hplain.not_gap hx)
    refine ⟨atKey (tokens ++ [Token.scalar (x :: r) .plain]) margin margins
      ⟨after, i', l', next⟩, i', l', ?_, ?_⟩
    · rw [htoken]
      have hscan' : scanPlain false margin (start.rest.length + 1) start [] none =
        some ⟨x :: r, ⟨after, i', l', next⟩, true⟩ := hscan
      simp [plain, saveKey, atValue, inFlow, hscan', allowKey, moveTo, emit, atKey]
    · exact skipToToken_spaces (n := 0) hafter.starts rfl _

theorem closing_concat (v : List Char) {x : Char} (hx : isBreak x = false) :
    closing (v ++ [x]) = ['\n'] := by
  simp [closing, hx]

/-- A text in quotes is read when its inside is. -/
theorem readsValue_quoted {margin next : Nat} {mark : Char} {inside s : List Char} {style : Style}
    (scan : Nat → Cursor → List Char → Scanned) (hstarts : ∀ t, Starts (mark :: t))
    (htoken : ∀ st : Scanner, st.cursor.column ≠ 0 → st.inFlow = false →
      (∀ y, st.cursor.isAt y = decide (mark = y)) → st.token = st.keyToken (quoted style scan))
    (hscan : ∀ t i l col, col ≠ 0 → t.head? = some '\n' →
      ∃ i' l' col', scan ((mark :: inside ++ mark :: t).length + 1)
        ⟨inside ++ mark :: t, i, l, col⟩ [] = some (s, ⟨t, i', l', col'⟩)) :
    ReadsValue margin next (mark :: inside ++ [mark]) (.scalar s style) where
  ne_nil := nofun
  starts := fun r => hstarts (inside ++ [mark] ++ r)
  reads := by
    intro after hafter tokens margins i l col hmargin hcol
    rw [closing_concat _ (hstarts [] mark rfl).2.1, List.singleton_append, List.append_assoc,
      List.singleton_append]
    let start : Cursor :=
      ⟨mark :: inside ++ mark :: '\n' :: (indentation next ++ after), i, l, col⟩
    obtain ⟨i', l', col', hread⟩ := hscan ('\n' :: (indentation next ++ after)) (i + 1) l (col + 1)
      (Nat.succ_ne_zero col) rfl
    let ending : Cursor := ⟨'\n' :: (indentation next ++ after), i', l', col'⟩
    let closed : Scanner := atValue (tokens ++ [Token.scalar s style]) margin margins ending
    have hquoted : quoted style scan start = some (.scalar s style, ending) := by
      rw [quoted]
      exact congrArg (Option.map _) hread
    refine ⟨closed, i' + 1 + next, l' + 1, ?_, ?_⟩
    · have hopen : (atValue tokens margin margins start).token =
          (atValue tokens margin margins start).keyToken (quoted style scan) :=
        htoken _ hcol rfl fun y => rfl
      refine hopen.trans ?_
      simp [keyToken, saveKey, atValue, hquoted, allowKey, moveTo, emit, closed]
    · exact skipToToken_feed hafter.starts rfl rfl _

/-- What is written in single quotes is read as itself. -/
theorem readsValue_single {margin next indent : Nat} (hindent : indent ≠ 0) {s : List Char}
    (h : singleAllowed s = true) :
    ReadsValue margin next (scalarChars indent .singleQuoted s) (.scalar s .singleQuoted) := by
  apply readsValue_quoted scanSingle (starts_cons (by decide) (by decide) (by decide) (by decide))
  · intro st hcol hflow hat
    simp [token, hat, hcol, hflow, atMarker_eq_false]
  · intro t i l col hcol ht
    have hafter : ∀ x ∈ t.head?, x ≠ '\'' := by
      intro x hx
      rw [ht] at hx
      cases hx
      decide
    exact readsSingle_of_folds hindent hafter (folds_of_singleAllowed h) _ i l col [] hcol
      (by simp; omega)

/-- What is written in double quotes is read as itself. -/
theorem readsValue_double {margin next : Nat} (indent : Nat) (s : List Char) :
    ReadsValue margin next (scalarChars indent .doubleQuoted s) (.scalar s .doubleQuoted) := by
  apply readsValue_quoted scanDouble (starts_cons (by decide) (by decide) (by decide) (by decide))
  · intro st hcol hflow hat
    simp [token, hat, hcol, hflow, atMarker_eq_false]
  · intro t i l col hcol _
    exact readsDouble t s _ i l col [] hcol (by simp; omega)

theorem getLast?_literalChars (indent : Nat) (s : List Char) :
    ∀ newLine, (literalChars indent newLine s).getLast? = s.getLast? := by
  induction s with
  | nil => exact fun _ => rfl
  | cons x s ih =>
    intro newLine
    have hrest : ∀ l, (x :: literalChars indent l s).getLast? = (x :: s).getLast? := by
      intro l
      rw [List.getLast?_cons, List.getLast?_cons, ih]
    rw [literalChars]
    split
    · exact hrest true
    · rw [List.getLast?_append_of_ne_nil _ (List.cons_ne_nil _ _)]
      exact hrest false

/-- A block is read up to the line that is not indented any more. -/
theorem readsValue_literal {s : List Char} (hne : s ≠ [])
    (hwritable : ∀ x ∈ s, isWritable x = true) :
    ReadsValue 1 0 (scalarChars 2 .literal s) (.scalar s .literal) where
  ne_nil := nofun
  starts := fun r => starts_cons (by decide) (by decide) (by decide) (by decide) _
  reads := by
    intro after hafter tokens margins i l col hmargin hcol
    have hclosing : closing (scalarChars 2 .literal s) = closing s := by
      have hbody : literalChars 2 true s ≠ [] := by
        rw [← List.length_pos_iff]
        exact Nat.lt_of_lt_of_le (List.length_pos_iff.mpr hne) (length_le_literalChars 2 s true)
      have hlast := getLast?_literalChars 2 s true
      rw [scalarChars, closing_append _ (List.cons_ne_nil _ _), ← List.singleton_append,
        closing_append _ hbody, closing, closing, hlast]
    have hsplit : scalarChars 2 .literal s ++ (closing s ++ (indentation 0 ++ after)) =
        '|' :: (indentHint s ++ (chompHint s ++ '\n' ::
          (literalChars 2 true s ++ (closing s ++ after)))) := by
      simp [scalarChars, indentation]
    rw [hclosing, hsplit]
    obtain ⟨i', l', hscan⟩ := scanBlock_eq hne hwritable hafter.noGap (i + 1) l (col + 1)
    let start : Cursor := ⟨'|' :: (indentHint s ++ (chompHint s ++ '\n' ::
      (literalChars 2 true s ++ (closing s ++ after)))), i, l, col⟩
    have hat : ∀ y, start.isAt y = decide ('|' = y) := fun y => rfl
    have htoken : (atValue tokens 1 margins start).token =
        (atValue tokens 1 margins start).block .literal := by
      simp [token, atValue, inFlow, hat, atMarker_eq_false (c := start) hcol]
    have hscan' : scanBlock false 1 start.skip = some (s, ⟨after, i', l', 0⟩) := hscan
    refine ⟨atKey (tokens ++ [Token.scalar s .literal]) 1 margins ⟨after, i', l', 0⟩, i', l',
      ?_, ?_⟩
    · rw [htoken]
      simp [block, dropKey, atValue, hscan', allowKey, moveTo, emit, atKey]
    · exact skipToToken_spaces (n := 0) hafter.starts rfl _

/-- What a text has to be like for the style that it is written in. -/
inductive Written (s : List Char) : Style → Prop
  | plain (hne : s ≠ []) (hword : isNullWord s = false) (h : plainAllowed s = true) :
    Written s .plain
  | single (h : singleAllowed s = true) : Written s .singleQuoted
  | double : Written s .doubleQuoted
  | literal (hne : s ≠ []) (hwritable : ∀ x ∈ s, isWritable x = true) : Written s .literal

theorem written_quotes (s : List Char) : Written s (writtenStyle .singleQuoted s) := by
  by_cases h : singleAllowed s = true
  · rw [writtenStyle, if_pos h]
    exact .single h
  · rw [writtenStyle, if_neg h]
    exact .double

/-- Every string is written in a style that can hold it. -/
theorem written_string (s : List Char) : Written s (writtenStyle (preferredStyle s) s) := by
  have hquotes := written_quotes s
  unfold preferredStyle
  split
  · rename_i hfeed
    by_cases h : literalAllowed s = true
    · have hne : s ≠ [] := by
        rintro rfl
        exact absurd hfeed (by decide)
      rw [writtenStyle, if_pos h]
      simp only [literalAllowed, hasUnwritable, Bool.and_eq_true, Bool.not_eq_true',
        List.any_eq_false, Bool.not_eq_false] at h
      exact .literal hne h.2
    · rw [writtenStyle, if_neg h]
      exact .double
  · split
    · exact hquotes
    · rename_i hneeds
      by_cases h : plainAllowed s = true
      · simp only [needsQuotes, Bool.or_eq_true, not_or, Bool.not_eq_true] at hneeds
        obtain ⟨⟨⟨⟨⟨hempty, hword⟩, -⟩, -⟩, -⟩, -⟩ := hneeds
        have hne : s ≠ [] := by
          rintro rfl
          exact absurd hempty (by decide)
        rw [writtenStyle, if_pos h]
        exact .plain hne hword h
      · rw [writtenStyle, if_neg h]
        exact hquotes

/-- Every text is read back in the style that is chosen for it, at the outermost level. -/
theorem readsValue_string (s : List Char) :
    ReadsValue 1 0 (scalarChars 2 (writtenStyle (preferredStyle s) s) s)
      (.scalar s (writtenStyle (preferredStyle s) s)) := by
  have hwritten := written_string s
  generalize writtenStyle (preferredStyle s) s = style at hwritten ⊢
  cases hwritten with
  | plain hne _ h => exact readsValue_plain (by decide) hne h
  | single h => exact readsValue_single (by decide) h
  | double => exact readsValue_double 2 s
  | literal hne hwritable => exact readsValue_literal hne hwritable

/-- A text that asks for quotes is read back wherever it stands. -/
theorem readsValue_quotes {margin next indent : Nat} (hindent : indent ≠ 0) (s : List Char) :
    ReadsValue margin next (scalarChars indent (writtenStyle .singleQuoted s) s)
      (.scalar s (writtenStyle .singleQuoted s)) := by
  by_cases h : singleAllowed s = true
  · rw [writtenStyle, if_pos h]
    exact readsValue_single hindent h
  · rw [writtenStyle, if_neg h]
    exact readsValue_double indent s

/-! ### Entries -/

/-- From the place of a key over its value to the place of the next key. -/
theorem resume_entry {k v : List Char} {t : Token} (hk : IsKey k)
    {margin margin' col next : Nat} {margins margins' : List Nat} {opened : List Token}
    (hopens : Opens margin margins col opened margin' margins') (hv : ReadsValue margin' next v t)
    {after : List Char} (hafter : KeyNext after) (fuel i l : Nat) (tokens : List Token) :
    ∃ i' l', resume (fuel + 3) (atKey tokens margin margins
        ⟨entryChars k v ++ (indentation next ++ after), i, l, col⟩) =
      resume fuel (atKey (tokens ++ (opened ++ (keyTokens k ++ [t]))) margin' margins'
        ⟨after, i', l', next⟩) := by
  have hmargin : margin' = col + 1 := by
    cases hopens with
    | stays h => exact h
    | opens h => rfl
  have hsplit : entryChars k v ++ (indentation next ++ after) =
      k ++ ':' :: (indentation 1 ++ (v ++ (closing v ++ (indentation next ++ after)))) := by
    simp [entryChars, closing, indentation]
  let known := tokens ++ (opened ++ keyTokens k)
  let place : Cursor := ⟨v ++ (closing v ++ (indentation next ++ after)), i + k.length + 1 + 1, l,
    col + k.length + 1 + 1⟩
  obtain ⟨s', i', l', htoken, hskip⟩ := hv.reads after hafter known margins'
    (i + k.length + 1 + 1) l (col + k.length + 1 + 1) (by omega) (by omega)
  have hend : place.atEnd = false := by
    obtain ⟨x, v', rfl⟩ := List.exists_cons_of_ne_nil hv.ne_nil
    rfl
  refine ⟨i', l', ?_⟩
  rw [hsplit]
  have hknown : known ++ [t] = tokens ++ (opened ++ (keyTokens k ++ [t])) := by
    simp [known]
  calc resume (fuel + 3) (atKey tokens margin margins ⟨_, i, l, col⟩)
      = run (fuel + 2) (atValue known margin' margins'
          ⟨indentation 1 ++ place.rest, i + k.length + 1, l, col + k.length + 1⟩) :=
        resume_key hk (fun _ _ _ => rfl) hopens (fuel + 2) i l tokens
    _ = resume (fuel + 1) (atValue known margin' margins' place) := by
        rw [run_succ]
        exact congrArg (resume (fuel + 1)) (skipToToken_spaces (hv.starts _) rfl _)
    _ = run (fuel + 1) s' := resume_token rfl hend (by simp [atValue]; omega) htoken _
    _ = resume fuel (atKey (known ++ [t]) margin' margins' ⟨after, i', l', next⟩) := by
        rw [run_succ, hskip]
    _ = resume fuel (atKey _ margin' margins' ⟨after, i', l', next⟩) := by rw [hknown]

/-- From the place of a key to the place of the first key below it. -/
theorem resume_outer {k : List Char} (hk : IsKey k) {margin margin' col : Nat}
    {margins margins' : List Nat} {opened : List Token}
    (hopens : Opens margin margins col opened margin' margins') {after : List Char}
    (hafter : KeyNext after) (next fuel i l : Nat) (tokens : List Token) :
    ∃ i' l', resume (fuel + 2) (atKey tokens margin margins
        ⟨k ++ ':' :: '\n' :: (indentation next ++ after), i, l, col⟩) =
      resume fuel (atKey (tokens ++ (opened ++ keyTokens k)) margin' margins'
        ⟨after, i', l', next⟩) := by
  refine ⟨i + k.length + 1 + 1 + next, l + 1, ?_⟩
  rw [resume_key hk (fun _ _ _ => rfl) hopens, run_succ]
  exact congrArg (resume fuel) (skipToToken_feed hafter.starts rfl rfl _)

/-- Where a key stands further left, the inner mapping ends. -/
theorem resume_dedent {margin outer column i l : Nat} {margins : List Nat} {text : List Char}
    (htext : text ≠ []) (hinner : column + 1 < margin) (houter : outer ≤ column + 1) (fuel : Nat)
    (tokens : List Token) :
    resume fuel (atKey tokens margin (outer :: margins) ⟨text, i, l, column⟩) =
      resume fuel (atKey (tokens ++ [Token.blockEnd]) outer margins ⟨text, i, l, column⟩) := by
  have hend : (⟨text, i, l, column⟩ : Cursor).atEnd = false := by
    obtain ⟨x, r, rfl⟩ := List.exists_cons_of_ne_nil htext
    rfl
  have hinner' : ¬margin ≤ column + 1 := by omega
  have hstays : (atKey (tokens ++ [Token.blockEnd]) outer margins ⟨text, i, l, column⟩).unroll
      (column + 1) = atKey (tokens ++ [Token.blockEnd]) outer margins ⟨text, i, l, column⟩ :=
    unroll_of_le houter
  have hends : (atKey tokens margin (outer :: margins) ⟨text, i, l, column⟩).unroll (column + 1) =
      atKey (tokens ++ [Token.blockEnd]) outer margins ⟨text, i, l, column⟩ := by
    refine Eq.trans ?_ hstays
    simp [unroll, inFlow, atKey, unrollWith, hinner', emit]
  have hexpire : ∀ (tokens : List Token) (margin : Nat) (margins : List Nat) (c : Cursor),
      (atKey tokens margin margins c).expireKeys = some (atKey tokens margin margins c) :=
    fun _ _ _ _ => rfl
  have hcursor : ∀ (tokens : List Token) (margin : Nat) (margins : List Nat) (c : Cursor),
      (atKey tokens margin margins c).cursor = c := fun _ _ _ _ => rfl
  simp only [resume, hexpire, hcursor, hend, hends, hstays, Option.bind_eq_bind, Option.bind_some,
    Bool.false_eq_true, if_false]

end ContentTypes.Yaml
