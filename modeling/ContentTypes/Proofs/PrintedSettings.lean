import ContentTypes.Proofs.PrintedJson
import ContentTypes.Proofs.YamlEntries

/-! Settings that were written are read back. The text has only characters that a text may hold, its
tokens are those of the entries one after the other, and each entry sets its setting. -/

namespace ContentTypes

namespace Yaml

open Scanner

/-! ### Characters -/

theorem isAllowed_of_isWritable {x : Char} (h : isWritable x = true) : isAllowed x = true := by
  simp only [isWritable, Bool.or_eq_true, Bool.and_eq_true, decide_eq_true_eq] at h
  simp only [isAllowed, Bool.or_eq_true, Bool.and_eq_true, decide_eq_true_eq]
  rcases h with ((hfeed | hascii) | ⟨hplane, -⟩) | hbeyond
  · simp [hfeed]
  · simp [hascii]
  · simp [hplane]
  · simp [hbeyond]

theorem all_isAllowed_of_writable {s : List Char} (h : ∀ x ∈ s, isWritable x = true) :
    s.all isAllowed = true := by
  rw [List.all_eq_true]
  intro x hx
  exact isAllowed_of_isWritable (h x hx)

theorem all_isAllowed_indentation (n : Nat) : (indentation n).all isAllowed = true := by
  rw [List.all_eq_true]
  intro x hx
  rw [List.eq_of_mem_replicate hx]
  decide

theorem all_isAllowed_singleChars (indent : Nat) {s : List Char}
    (h : ∀ x ∈ s, isWritable x = true) :
    ∀ newLine, (singleChars indent newLine s).all isAllowed = true := by
  have hindent := all_isAllowed_indentation indent
  have hmarks : isAllowed '\n' = true ∧ isAllowed '\'' = true := by decide
  induction s with
  | nil =>
    intro newLine
    rw [singleChars]
    split
    · exact hindent
    · rfl
  | cons x s ih =>
    intro newLine
    have hx := isAllowed_of_isWritable (h x (List.mem_cons_self ..))
    have hrest := ih fun y hy => h y (List.mem_cons_of_mem _ hy)
    have hdoubled : ∀ {c : Prop} [Decidable c] {y : Char}, isAllowed y = true →
        (if c then [y, x] else [x]).all isAllowed = true := by
      intro c _ y hy
      split
      · simp [hx, hy]
      · simp [hx]
    have hstart : (if newLine && !isSpaceChar x then indentation indent else []).all isAllowed =
        true := by
      split
      · exact hindent
      · rfl
    rw [singleChars]
    split
    · rw [List.all_append, hdoubled hmarks.1, hrest, Bool.and_self]
    · rw [List.all_append, List.all_append, hstart, hdoubled hmarks.2, hrest, Bool.and_self,
        Bool.and_self]

theorem all_isAllowed_hexChars (count : Nat) : ∀ n, (hexChars count n).all isAllowed = true := by
  have hdigit : ∀ n < 16, isAllowed (upperHexDigit n) = true := by decide
  induction count with
  | zero => exact fun _ => rfl
  | succ count ih =>
    intro n
    have hlow := hdigit (n % 16) (by omega)
    simp [hexChars, List.all_append, ih, hlow]

theorem isAllowed_of_escapeLetter? {x letter : Char} (h : escapeLetter? x = some letter) :
    isAllowed letter = true := by
  unfold escapeLetter? at h
  split at h <;> cases h <;> decide

theorem all_isAllowed_doubleChar (x : Char) : (doubleChar x).all isAllowed = true := by
  unfold doubleChar
  split
  · have hslash : isAllowed '\\' = true := by decide
    have hmarks : isAllowed 'x' = true ∧ isAllowed 'u' = true ∧ isAllowed 'U' = true := by decide
    unfold escapeChars
    cases hletter : escapeLetter? x with
    | some letter => simp [hslash, isAllowed_of_escapeLetter? hletter]
    | none =>
      have hhex := fun count => all_isAllowed_hexChars count x.toNat
      dsimp only
      split
      · simp only [List.all_cons, hslash, hmarks, hhex, Bool.and_self]
      · split <;> simp only [List.all_cons, hslash, hmarks, hhex, Bool.and_self]
  · -- What is not escaped is written as it is.
    rename_i hraw
    simp only [Bool.or_eq_true, Bool.not_eq_true', decide_eq_true_eq, not_or,
      Bool.not_eq_false] at hraw
    simp [isAllowed_of_isWritable hraw.1.1.1]

theorem all_isAllowed_literalChars (indent : Nat) {s : List Char}
    (h : ∀ x ∈ s, isWritable x = true) :
    ∀ newLine, (literalChars indent newLine s).all isAllowed = true := by
  have hindent := all_isAllowed_indentation indent
  induction s with
  | nil => exact fun _ => rfl
  | cons x s ih =>
    intro newLine
    have hx := isAllowed_of_isWritable (h x (List.mem_cons_self ..))
    have hrest := ih fun y hy => h y (List.mem_cons_of_mem _ hy)
    rw [literalChars]
    split
    · rw [List.all_cons, hx, hrest, Bool.and_self]
    · rw [List.all_append, List.all_cons, hx, hrest]
      split
      · rw [hindent, Bool.and_self, Bool.and_self]
      · rfl

/-- Whatever is written for a string may stand in a text. -/
theorem all_isAllowed_of_written {s : List Char} {style : Style} (h : Written s style)
    (indent : Nat) : (scalarChars indent style s).all isAllowed = true := by
  have hmarks : isAllowed '\'' = true ∧ isAllowed '"' = true ∧ isAllowed '|' = true ∧
      isAllowed '\n' = true := by decide
  cases h with
  | plain hne _ h =>
    obtain ⟨x, r, rfl⟩ := List.exists_cons_of_ne_nil hne
    exact all_isAllowed_of_writable ((startsPlain_of_plainAllowed h).unmarked 'a').writable
  | single h =>
    have hinside := all_isAllowed_singleChars indent (folds_of_singleAllowed h).writable false
    simp only [scalarChars, List.all_append, List.all_cons, List.all_nil, hmarks, hinside,
      Bool.and_self]
  | double =>
    have hinside : (s.flatMap doubleChar).all isAllowed = true := by
      rw [List.all_flatMap, List.all_eq_true]
      exact fun x _ => all_isAllowed_doubleChar x
    simp only [scalarChars, List.all_append, List.all_cons, List.all_nil, hmarks, hinside,
      Bool.and_self]
  | literal _ hwritable =>
    have hinside := all_isAllowed_literalChars indent hwritable true
    have hhint : (indentHint s).all isAllowed = true := by
      unfold indentHint
      split <;> decide
    have hchomp : (chompHint s).all isAllowed = true := by
      rw [chompHint_eq]
      cases chompingOf s <;> decide
    simp only [scalarChars, List.all_append, List.all_cons, hmarks, hhint, hchomp, hinside,
      Bool.and_self]

theorem all_isAllowed_entry {k w : List Char} (hk : k.all isAllowed = true)
    (hw : w.all isAllowed = true) : (entryChars k w).all isAllowed = true := by
  have hmarks : isAllowed ':' = true ∧ isAllowed ' ' = true ∧ isAllowed '\n' = true := by decide
  rw [entryChars]
  split
  · simp only [List.all_append, List.all_cons, List.all_nil, hmarks, hk, hw, Bool.and_self]
  · simp only [List.all_append, List.all_cons, List.all_nil, hmarks, hk, hw, Bool.and_self]

/-! ### Amounts -/

/-- What digits are not. -/
theorem digit_facts {x : Char} (hx : x.isDigit = true) : isSpaceOrBreak x = false ∧
    isBreak x = false ∧ isWritable x = true ∧ isMark x = false ∧
    ∀ y ∈ "+-.?:#".toList, x ≠ y := by
  -- Decided for the ten codes, not for all characters.
  have hall : ∀ n < 58, 48 ≤ n → isSpaceOrBreak (Char.ofNat n) = false ∧
      isBreak (Char.ofNat n) = false ∧ isWritable (Char.ofNat n) = true ∧
      isMark (Char.ofNat n) = false ∧ Char.ofNat n ∉ "+-.?:#".toList := by
    decide
  simp only [Char.isDigit, Bool.and_eq_true, decide_eq_true_eq, ge_iff_le,
    UInt32.le_iff_toNat_le] at hx
  have hfacts := hall x.toNat (Nat.lt_succ_of_le hx.2) hx.1
  rw [Char.ofNat_toNat] at hfacts
  obtain ⟨hspace, hbreak, hwritable, hmark, hother⟩ := hfacts
  refine ⟨hspace, hbreak, hwritable, hmark, ?_⟩
  rintro y hy rfl
  exact hother hy

section

variable {s : List Char} (hs : ∀ x ∈ s, x.isDigit = true)

include hs

theorem hasInnerMark_digits : ∀ before, hasInnerMark before s = false := by
  induction s with
  | nil => exact fun _ => rfl
  | cons x s ih =>
    intro before
    have hx := (digit_facts (hs x (List.mem_cons_self ..))).2.2.2.2
    have hcolon : x ≠ ':' := hx ':' (by decide)
    have hnumber : x ≠ '#' := hx '#' (by decide)
    have hrest := ih (fun y hy => hs y (List.mem_cons_of_mem _ hy)) x
    simp [hasInnerMark, hcolon, hnumber, hrest]

/-- Digits need no quotes. -/
theorem plainAllowed_digits (hne : s ≠ []) : plainAllowed s = true := by
  have htame := fun y hy => digit_facts (hs y hy)
  obtain ⟨x, r, rfl⟩ := List.exists_cons_of_ne_nil hne
  obtain ⟨hspace, -, -, hmark, hother⟩ := htame x (List.mem_cons_self ..)
  have hminus : x ≠ '-' := hother '-' (by decide)
  have hpoint : x ≠ '.' := hother '.' (by decide)
  have hquestion : x ≠ '?' := hother '?' (by decide)
  have hcolon : x ≠ ':' := hother ':' (by decide)
  have hlast : (x :: r).getLast?.any isSpaceOrBreak = false := by
    cases hlast : (x :: r).getLast? with
    | none => rfl
    | some y => exact (htame y (List.mem_of_getLast? hlast)).1
  have hbreaks : (x :: r).any isBreak = false := by
    rw [List.any_eq_false]
    exact fun y hy => by simp [(htame y hy).2.1]
  have hunwritable : hasUnwritable (x :: r) = false := by
    rw [hasUnwritable, List.any_eq_false]
    exact fun y hy => by simp [(htame y hy).2.2.1]
  have hmarker : startsLikeMarker (x :: r) = false := by
    simp [startsLikeMarker, List.isPrefixOf, hminus.symm, hpoint.symm]
  have hleading : hasLeadingMark (x :: r) = false := by
    have hmark' := hmark
    unfold isMark at hmark'
    rw [hasLeadingMark, hmark']
    simp [hquestion, hcolon, hminus]
  have hrest := hasInnerMark_digits (fun y hy => hs y (List.mem_cons_of_mem _ hy)) x
  simp [plainAllowed, hspace, hlast, hbreaks, hunwritable, hasMark, hmarker, hleading, hrest]

theorem startsWithSign_digits : startsWithSign s = false := by
  cases s with
  | nil => rfl
  | cons x s =>
    have hother := (digit_facts (hs x (List.mem_cons_self ..))).2.2.2.2
    have hplus : x ≠ '+' := hother '+' (by decide)
    have hminus : x ≠ '-' := hother '-' (by decide)
    simp [startsWithSign, isSign, hplus, hminus]

/-- Digits are no number in another notation. -/
theorem afterMark?_digits {m : Char} (hm : m.isDigit = false) :
    afterMark? ['0', m] s = none := by
  cases s with
  | nil => rfl
  | cons x s =>
    by_cases hzero : x = '0'
    · cases s with
      | nil => simp [afterMark?, hzero]
      | cons y s =>
        have hy : y ≠ m := by
          rintro rfl
          rw [hs y (by simp)] at hm
          cases hm
        simp [afterMark?, hzero, hy]
    · simp [afterMark?, hzero]

theorem foldlM_digits : ∀ init,
    s.foldlM (fun n c => (digitValue? 10 c).map (10 * n + ·)) init =
      some (Nat.ofDigitChars 10 s init) := by
  induction s with
  | nil => exact fun _ => rfl
  | cons x s ih =>
    intro init
    have hx := hs x (List.mem_cons_self ..)
    have hvalue : digitValue? 10 x = some (x.toNat - '0'.toNat) := by
      have hle : x.toNat ≤ 57 := by
        simp only [Char.isDigit, Bool.and_eq_true, decide_eq_true_eq, ge_iff_le,
          UInt32.le_iff_toNat_le] at hx
        exact hx.2
      have hlt : x.toNat - 0x30 < 10 := by omega
      simp only [digitValue?, hx, if_true, if_pos hlt]
      rfl
    have hrest := ih (fun y hy => hs y (List.mem_cons_of_mem _ hy))
      (10 * init + (x.toNat - '0'.toNat))
    rw [List.foldlM_cons, hvalue, Nat.ofDigitChars_cons, ← hrest]
    rfl

end

/-- A number does not begin with a zero, unless it is zero. -/
theorem isPadded_toDigits (n : Nat) : isPadded (Nat.toDigits 10 n) = false := by
  rcases Nat.eq_zero_or_pos n with rfl | hpos
  · rfl
  · obtain ⟨d, ds, hvalues, hd⟩ := Json.exists_digitValues n hpos
    obtain ⟨x, r, hsplit⟩ := List.exists_cons_of_ne_nil (Nat.toDigits_ne_nil (n := n) (b := 10))
    have hsign := startsWithSign_digits fun x hx => Json.isDigit_of_mem_toDigits (n := n) hx
    have hx : x ≠ '0' := by
      rintro rfl
      rw [hsplit] at hvalues
      exact hd (List.cons.inj hvalues).1.symm
    rw [hsplit] at hsign ⊢
    rw [isPadded, hsign]
    simp [hx]

/-- An amount is read back from its digits. -/
theorem natural?_toDigits {n limit : Nat} (hn : n < limit) :
    natural? limit (Nat.toDigits 10 n) = some n := by
  have hdigits : ∀ x ∈ Nat.toDigits 10 n, x.isDigit = true := fun x hx =>
    Json.isDigit_of_mem_toDigits hx
  have hpadded := isPadded_toDigits n
  have hsign := startsWithSign_digits hdigits
  have hplus : (Nat.toDigits 10 n).head? ≠ some '+' := by
    intro hhead
    rw [startsWithSign, hhead] at hsign
    exact absurd hsign (by decide)
  have hvalue : digitsValue? 10 (Nat.toDigits 10 n) = some n := by
    have hfold := foldlM_digits hdigits 0
    rw [Nat.ofDigitChars_ten_toDigits] at hfold
    rw [digitsValue?, if_neg (by simp [Nat.toDigits_ne_nil])]
    exact hfold
  -- The marks of the other notations are letters, and there is none among digits.
  have hnotation : notationValue? [] limit (Nat.toDigits 10 n) = none := by
    simp [notationValue?, markedValue?, afterMark?_digits hdigits]
  simp [natural?, hplus, hnotation, hsign, hpadded, hvalue, below, hn]

/-! ### Tokens -/

def entryTokens (key value : List Char) (style : Style) : List Token :=
  keyTokens key ++ [Token.scalar value style]

def stringTokens (key value : String) : List Token :=
  let s := value.toList
  entryTokens key.toList s (writtenStyle (preferredStyle s) s)

theorem IsKey.next_entry {k : List Char} (h : IsKey k) (w t : List Char) :
    KeyNext (entryChars k w ++ t) := by
  rw [entryChars, List.append_assoc, List.append_assoc]
  exact h.next _

theorem IsKey.next_string {key : String} (h : IsKey key.toList) (value : String) (t : List Char) :
    KeyNext (stringEntry key value ++ t) :=
  h.next_entry _ _

/-- The tokens of a string come after those read before. -/
theorem resume_string {key : String} (hkey : IsKey key.toList) (value : String)
    {margin : Nat} {margins margins' : List Nat} {opened : List Token}
    (hopens : Opens margin margins 0 opened 1 margins') {after : List Char} (hafter : KeyNext after)
    (fuel i l : Nat) (tokens : List Token) :
    ∃ i' l', resume (fuel + 3) (atKey tokens margin margins
        ⟨stringEntry key value ++ after, i, l, 0⟩) =
      resume fuel (atKey (tokens ++ (opened ++ stringTokens key value)) 1 margins'
        ⟨after, i', l', 0⟩) :=
  resume_entry hkey hopens (readsValue_string value.toList) hafter fuel i l tokens

end Yaml

namespace Configuration

open Yaml Scanner

def indentTokens (i : Indent) : List Token :=
  let character := [i.character]
  keyTokens "indent".toList ++ (Token.blockMappingStart ::
    (entryTokens "amount".toList (Nat.toDigits 10 i.amount.toNat) .plain ++
      entryTokens "char".toList character (writtenStyle .singleQuoted character)))

def outputTokens : Option String → List Token
  | some path => stringTokens "output" path
  | none => []

def tokens (c : Configuration) : List Token :=
  Token.blockMappingStart :: stringTokens "naming" c.naming.selector ++
    stringTokens "root_name" c.rootName ++
    stringTokens "module_name" c.moduleName ++
    indentTokens c.indent ++ [Token.blockEnd] ++
    outputTokens c.output ++ [Token.blockEnd]

def outputChars : Option String → List Char
  | some path => stringEntry "output" path
  | none => []

theorem yamlChars_eq (c : Configuration) :
    c.yamlChars = stringEntry "naming" c.naming.selector ++ (stringEntry "root_name" c.rootName ++
      (stringEntry "module_name" c.moduleName ++
        (indentChars c.indent ++ outputChars c.output))) := by
  rw [yamlChars]
  cases c.output with
  | none => simp only [outputChars, List.append_assoc]
  | some path => simp only [outputChars, List.append_assoc]

theorem isKey_of_all {k : String} (hne : k.toList ≠ [])
    (h : k.toList.all isKeyChar = true) (hshort : k.toList.length ≤ 1024) : IsKey k.toList :=
  ⟨hne, List.all_eq_true.mp h, hshort⟩

theorem indentChars_append (n : Indent) (after : List Char) :
    indentChars n ++ after = "indent".toList ++ ':' :: '\n' :: (indentation 2 ++
      (entryChars "amount".toList (Nat.toDigits 10 n.amount.toNat) ++ (indentation 2 ++
        (entryChars "char".toList
          (scalarChars 4 (writtenStyle .singleQuoted [n.character]) [n.character]) ++
            after)))) := by
  have houter : "indent:\n".toList = "indent".toList ++ [':', '\n'] := by decide
  have hfirst : "  amount".toList = indentation 2 ++ "amount".toList := by decide
  have hsecond : "  char".toList = indentation 2 ++ "char".toList := by decide
  dsimp only [indentChars]
  rw [houter, hfirst, hsecond]
  generalize scalarChars 4 (writtenStyle .singleQuoted [n.character]) [n.character] = quoted
  generalize Nat.toDigits 10 n.amount.toNat = digits
  simp only [entryChars, List.append_assoc, List.cons_append, List.nil_append]

/-- The indentation opens a mapping of its own, which is still open after it. -/
theorem resume_indentChars (n : Indent) {after : List Char} (hafter : KeyNext after)
    (fuel i l : Nat) (tokens : List Token) (margins : List Nat) :
    ∃ i' l', resume (fuel + 8) (atKey tokens 1 margins ⟨indentChars n ++ after, i, l, 0⟩) =
      resume fuel (atKey (tokens ++ indentTokens n) 3 (1 :: margins) ⟨after, i', l', 0⟩) := by
  have hindent : IsKey "indent".toList := isKey_of_all (by decide) (by decide) (by decide)
  have hamount : IsKey "amount".toList := isKey_of_all (by decide) (by decide) (by decide)
  have hchar : IsKey "char".toList := isKey_of_all (by decide) (by decide) (by decide)
  rw [indentChars_append]
  dsimp only [indentTokens, entryTokens]
  have hnumber : ReadsValue 3 2 (Nat.toDigits 10 n.amount.toNat)
      (.scalar (Nat.toDigits 10 n.amount.toNat) .plain) :=
    readsValue_plain (by decide) Nat.toDigits_ne_nil
      (plainAllowed_digits (fun x hx => Json.isDigit_of_mem_toDigits hx) Nat.toDigits_ne_nil)
  have hquoted : ReadsValue 3 0 _ _ := readsValue_quotes (by decide : 4 ≠ 0) [n.character]
  -- From here on it only matters that both scalars are read back.
  generalize Nat.toDigits 10 n.amount.toNat = digits at hnumber ⊢
  generalize writtenStyle .singleQuoted [n.character] = style at hquoted ⊢
  generalize scalarChars 4 style [n.character] = quoted at hquoted ⊢
  have hstays : Opens 1 margins 0 [] 1 margins := .stays rfl
  have hopens : Opens 1 margins 2 [.blockMappingStart] 3 (1 :: margins) := .opens (by decide)
  have hstays' : Opens 3 (1 :: margins) 2 [] 3 (1 :: margins) := .stays rfl
  obtain ⟨i₁, l₁, houter⟩ := resume_outer hindent hstays
    (hamount.next_entry digits (indentation 2 ++ (entryChars "char".toList quoted ++ after))) 2
    (fuel + 6) i l tokens
  -- What was read before each of the two inner entries.
  let outer := tokens ++ ([] ++ keyTokens "indent".toList)
  let first := keyTokens "amount".toList ++ [Token.scalar digits .plain]
  obtain ⟨i₂, l₂, hfirst⟩ := resume_entry hamount hopens hnumber (hchar.next_entry quoted after)
    (fuel + 3) i₁ l₁ outer
  obtain ⟨i₃, l₃, hsecond⟩ := resume_entry hchar hstays' hquoted hafter fuel i₂ l₂
    (outer ++ ([Token.blockMappingStart] ++ first))
  have hzero : indentation 0 ++ after = after := rfl
  rw [hzero] at hsecond
  refine ⟨i₃, l₃, ?_⟩
  rw [houter, hfirst, hsecond]
  simp only [outer, first, List.append_assoc, List.nil_append, List.cons_append]

theorem length_yamlChars (c : Configuration) : 19 ≤ c.yamlChars.length := by
  have hentry : ∀ k w : List Char, k.length + 2 ≤ (entryChars k w).length := by
    intro k w
    simp [entryChars]
  have hnaming : 8 ≤ (stringEntry "naming" c.naming.selector).length := hentry "naming".toList _
  have hroot : 11 ≤ (stringEntry "root_name" c.rootName).length := hentry "root_name".toList _
  simp only [yamlChars, List.length_append]
  omega

/-- The settings without the path for output are read up to the place of the next key. -/
theorem resume_settings (c : Configuration) {after : List Char} (hafter : KeyNext after)
    (fuel : Nat) : ∃ i l, resume (fuel + 17) (atKey [] 0 []
        ⟨stringEntry "naming" c.naming.selector ++ (stringEntry "root_name" c.rootName ++
          (stringEntry "module_name" c.moduleName ++ (indentChars c.indent ++ after))), 0, 0, 0⟩) =
      resume fuel (atKey (Token.blockMappingStart :: stringTokens "naming" c.naming.selector ++
        stringTokens "root_name" c.rootName ++ stringTokens "module_name" c.moduleName ++
        indentTokens c.indent) 3 [1, 0] ⟨after, i, l, 0⟩) := by
  have hnaming : IsKey "naming".toList := isKey_of_all (by decide) (by decide) (by decide)
  have hroot : IsKey "root_name".toList := isKey_of_all (by decide) (by decide) (by decide)
  have hmodule : IsKey "module_name".toList := isKey_of_all (by decide) (by decide) (by decide)
  have hindent : IsKey "indent".toList := isKey_of_all (by decide) (by decide) (by decide)
  have hopens : Opens 0 [] 0 [.blockMappingStart] 1 [0] := .opens (by decide)
  have hstays : Opens 1 [0] 0 [] 1 [0] := .stays rfl
  have hlast : KeyNext (indentChars c.indent ++ after) := by
    rw [indentChars_append]
    exact hindent.next _
  let first := [] ++ ([Token.blockMappingStart] ++ stringTokens "naming" c.naming.selector)
  obtain ⟨i₁, l₁, h₁⟩ := resume_string hnaming c.naming.selector hopens
    (hroot.next_string _
      (stringEntry "module_name" c.moduleName ++ (indentChars c.indent ++ after)))
    (fuel + 8 + 3 + 3) 0 0 []
  obtain ⟨i₂, l₂, h₂⟩ := resume_string hroot c.rootName hstays
    (hmodule.next_string _ (indentChars c.indent ++ after)) (fuel + 8 + 3) i₁ l₁
    first
  obtain ⟨i₃, l₃, h₃⟩ := resume_string hmodule c.moduleName hstays hlast (fuel + 8) i₂ l₂
    (first ++ ([] ++ stringTokens "root_name" c.rootName))
  obtain ⟨i₄, l₄, h₄⟩ := resume_indentChars c.indent hafter fuel i₃ l₃
    (first ++ ([] ++ stringTokens "root_name" c.rootName) ++
      ([] ++ stringTokens "module_name" c.moduleName)) [0]
  refine ⟨i₄, l₄, ?_⟩
  have hfuel : fuel + 17 = fuel + 8 + 3 + 3 + 3 := rfl
  rw [hfuel, h₁, h₂, h₃, h₄]
  simp only [first, List.append_assoc, List.nil_append, List.cons_append]

theorem all_isAllowed_string (key value : String) (hkey : key.toList.all isAllowed = true) :
    (stringEntry key value).all isAllowed = true :=
  all_isAllowed_entry hkey (all_isAllowed_of_written (written_string value.toList) 2)

/-- The text of the settings holds no character that a text may not hold. -/
theorem all_isAllowed_yamlChars (c : Configuration) : c.yamlChars.all isAllowed = true := by
  have hdigits : (Nat.toDigits 10 c.indent.amount.toNat).all isAllowed = true :=
    all_isAllowed_of_writable fun x hx => (digit_facts (Json.isDigit_of_mem_toDigits hx)).2.2.1
  have hcharacter := all_isAllowed_of_written (written_quotes [c.indent.character]) 4
  have hindent : (indentChars c.indent).all isAllowed = true := by
    have houter : "indent:\n".toList.all isAllowed = true := by decide
    have hamount := all_isAllowed_entry (k := "  amount".toList) (by decide) hdigits
    have hchar := all_isAllowed_entry (k := "  char".toList) (by decide) hcharacter
    dsimp only [indentChars]
    rw [List.all_append, List.all_append, houter, hamount, hchar, Bool.and_self, Bool.and_self]
  have houtput : (outputChars c.output).all isAllowed = true := by
    cases c.output with
    | none => rfl
    | some path => exact all_isAllowed_string "output" path (by decide)
  have hnaming := all_isAllowed_string "naming" c.naming.selector (by decide)
  have hroot := all_isAllowed_string "root_name" c.rootName (by decide)
  have hmodule := all_isAllowed_string "module_name" c.moduleName (by decide)
  simp only [yamlChars_eq, List.all_append, hnaming, hroot, hmodule, hindent, houtput,
    Bool.and_self]

/-- The tokens of a written text are those of its entries. -/
theorem tokens?_yamlChars (c : Configuration) : tokens? c.yamlChars = some c.tokens := by
  have hnaming : IsKey "naming".toList := isKey_of_all (by decide) (by decide) (by decide)
  have houtput : IsKey "output".toList := isKey_of_all (by decide) (by decide) (by decide)
  obtain ⟨fuel, hfuel⟩ : ∃ fuel, c.yamlChars.length + 1 = fuel + 3 + 17 := by
    have hlength := length_yamlChars c
    exact ⟨c.yamlChars.length - 19, by omega⟩
  have hnext : KeyNext c.yamlChars := by
    rw [yamlChars_eq]
    exact hnaming.next_string _ _
  have hstart : skipToToken (c.yamlChars.length + 1) { cursor := { rest := c.yamlChars } } =
      atKey [] 0 [] ⟨c.yamlChars, 0, 0, 0⟩ :=
    skipToToken_spaces (n := 0) hnext.starts rfl _
  rw [tokens?, if_pos (all_isAllowed_yamlChars c), run_succ]
  refine (congrArg (resume _) hstart).trans ?_
  rw [hfuel, yamlChars_eq, tokens]
  cases c.output with
  | none =>
    -- The end of the text closes both mappings.
    have hafter : KeyNext (outputChars none) := keyNext_nil
    obtain ⟨i, l, hsettings⟩ := resume_settings c hafter (fuel + 3)
    rw [hsettings]
    have hends : ∀ read : List Token,
        resume (fuel + 3) (atKey read 3 [1, 0] ⟨outputChars none, i, l, 0⟩) =
          some (read ++ [Token.blockEnd] ++ [Token.blockEnd]) := fun _ => rfl
    rw [hends, outputTokens, List.append_nil]
  | some path =>
    have hafter : KeyNext (outputChars (some path)) := by
      have hnext := houtput.next_string path []
      rw [List.append_nil] at hnext
      exact hnext
    have hne : outputChars (some path) ≠ [] := by
      simp [outputChars, stringEntry, entryChars]
    have hstays : Opens 1 [0] 0 [] 1 [0] := .stays rfl
    obtain ⟨i, l, hsettings⟩ := resume_settings c hafter (fuel + 3)
    -- The next key stands further out, which closes the mapping of the indentation.
    rw [hsettings, resume_dedent hne (by decide) (by decide)]
    generalize Token.blockMappingStart :: stringTokens "naming" c.naming.selector ++
      stringTokens "root_name" c.rootName ++ stringTokens "module_name" c.moduleName ++
      indentTokens c.indent ++ [Token.blockEnd] = read
    obtain ⟨i', l', hread⟩ := resume_string houtput path hstays keyNext_nil fuel i l read
    rw [List.append_nil] at hread
    have hends : ∀ read : List Token, resume fuel (atKey read 1 [0] ⟨[], i', l', 0⟩) =
        some (read ++ [Token.blockEnd]) := fun _ => rfl
    rw [outputChars, hread, hends, outputTokens, List.nil_append]

/-! ### Tree -/

end Configuration

namespace Yaml

def textNode (text : List Char) (style : Style) : Node := .scalar (String.ofList text) style none

theorem parseNode_mapping (handles : Handles) (fuel : Nat) (tokens : List Token)
    (anchors : Anchors) :
    parseNode handles (fuel + 2) .block (.blockMappingStart :: tokens) anchors =
      parseBlockMapping handles fuel tokens anchors [] := rfl

/-- An entry whose value is a scalar is read as a key and a value. -/
theorem parseBlockMapping_entry (handles : Handles) (fuel : Nat) (key value : List Char)
    (style : Style) (rest : List Token) (anchors : Anchors) (reversed : List (Node × Node)) :
    parseBlockMapping handles (fuel + 5) (entryTokens key value style ++ rest) anchors reversed =
      parseBlockMapping handles (fuel + 4) rest anchors
        ((textNode key .plain, textNode value style) :: reversed) := rfl

/-- An entry whose value is a mapping is read as a key and a value. -/
theorem parseBlockMapping_inner {handles : Handles} {fuel : Nat} {tokens rest : List Token}
    {anchors : Anchors} {inner : Node}
    (h : parseBlockMapping handles fuel tokens anchors [] = some (inner, rest, anchors))
    (key : List Char) (reversed : List (Node × Node)) :
    parseBlockMapping handles (fuel + 5)
        (keyTokens key ++ .blockMappingStart :: tokens) anchors reversed =
      parseBlockMapping handles (fuel + 4) rest anchors
        ((textNode key .plain, inner) :: reversed) := by
  have hnode : parseBlockValue handles (fuel + 4) (.value :: .blockMappingStart :: tokens) anchors =
      some (inner, rest, anchors) := h
  exact congrArg (fun r => Option.bind r fun p => parseBlockMapping handles (fuel + 4) p.2.1 p.2.2
    ((textNode key .plain, p.1) :: reversed)) hnode

end Yaml

namespace Configuration

open Yaml Scanner

def stringNodes (key value : String) : Node × Node :=
  let s := value.toList
  (textNode key.toList .plain, textNode s (writtenStyle (preferredStyle s) s))

def indentNodes (i : Indent) : List (Node × Node) :=
  let character := [i.character]
  [(textNode "amount".toList .plain, textNode (Nat.toDigits 10 i.amount.toNat) .plain),
    (textNode "char".toList .plain, textNode character (writtenStyle .singleQuoted character))]

def nodes (c : Configuration) : List (Node × Node) :=
  [stringNodes "naming" c.naming.selector, stringNodes "root_name" c.rootName,
    stringNodes "module_name" c.moduleName,
    (textNode "indent".toList .plain, .mapping (indentNodes c.indent))] ++
    c.output.toList.map (stringNodes "output")

/-- The tokens of the indentation are read as its two entries. -/
theorem parseBlockMapping_indent (handles : Handles) (fuel : Nat) (i : Indent) (rest : List Token)
    (anchors : Anchors) (reversed : List (Node × Node)) :
    parseBlockMapping handles (fuel + 12) (indentTokens i ++ (Token.blockEnd :: rest)) anchors
        reversed =
      parseBlockMapping handles (fuel + 11) rest anchors
        ((textNode "indent".toList .plain, .mapping (indentNodes i)) :: reversed) := by
  let number := Nat.toDigits 10 i.amount.toNat
  let style := writtenStyle .singleQuoted [i.character]
  have hinner : parseBlockMapping handles (fuel + 7) (entryTokens "amount".toList number .plain ++
      (entryTokens "char".toList [i.character] style ++ .blockEnd :: rest)) anchors [] =
      some (.mapping (indentNodes i), rest, anchors) := by
    rw [parseBlockMapping_entry, parseBlockMapping_entry]
    rfl
  rw [← parseBlockMapping_inner hinner, indentTokens, List.append_assoc, List.cons_append,
    List.append_assoc]

/-- The tokens of the settings describe a mapping of their entries. -/
theorem document?_tokens (c : Configuration) :
    document? c.tokens = some (.mapping c.nodes, {}) := by
  have hstring : ∀ handles fuel key value rest anchors reversed,
      parseBlockMapping handles (fuel + 5) (stringTokens key value ++ rest) anchors reversed =
        parseBlockMapping handles (fuel + 4) rest anchors (stringNodes key value :: reversed) :=
    fun _ _ _ _ _ _ _ => parseBlockMapping_entry ..
  have houtput : ∀ (handles : Handles) (fuel : Nat) (reversed : List (Node × Node)),
      parseBlockMapping handles (fuel + 6) (outputTokens c.output ++ [Token.blockEnd]) {} reversed =
        some
          (.mapping (reversed.reverse ++ c.output.toList.map (stringNodes "output")), [], {}) := by
    intro handles fuel reversed
    cases c.output with
    | none =>
      rw [outputTokens, List.nil_append, Option.toList, List.map_nil, List.append_nil]
      rfl
    | some path =>
      rw [outputTokens, hstring, Option.toList, List.map_singleton, ← List.reverse_cons]
      rfl
  let inner := stringTokens "naming" c.naming.selector ++ (stringTokens "root_name" c.rootName ++
    (stringTokens "module_name" c.moduleName ++ (indentTokens c.indent ++
      (Token.blockEnd :: (outputTokens c.output ++ [Token.blockEnd])))))
  have htokens : c.tokens = .blockMappingStart :: inner := by
    simp only [tokens, inner, List.append_assoc, List.cons_append, List.nil_append]
  have hinner : ∀ fuel, parseBlockMapping Handles.standard (fuel + 15) inner {} [] =
      some (.mapping c.nodes, [], {}) := by
    intro fuel
    rw [hstring, hstring, hstring, parseBlockMapping_indent, houtput]
    rfl
  rw [htokens]
  obtain ⟨fuel, hfuel⟩ : ∃ fuel, 4 * (Token.blockMappingStart :: inner).length + 8 =
    fuel + 15 + 2 := by
    have hlength : 4 ≤ inner.length := by simp [inner, stringTokens, entryTokens, keyTokens]
    exact ⟨4 * inner.length - 5, by rw [List.length_cons]; omega⟩
  change parseDocument [] (.blockMappingStart :: inner) = _
  rw [parseDocument, hfuel, List.nil_append, parseNode_mapping, hinner]
  rfl

end Configuration

/-! ### Settings -/

namespace Yaml

open Scanner

section

variable {anchors : Anchors}

theorem text?_textNode (s : List Char) (style : Style) :
    text? anchors (textNode s style) = some (String.ofList s) := rfl

theorem naming?_textNode (naming : Naming) (style : Style) :
    naming? anchors (textNode naming.selector.toList style) = some naming := by
  simp [naming?, text?_textNode, Naming.ofSelector_selector]

theorem char?_textNode (c : Char) (style : Style) :
    char? anchors (textNode [c] style) = some c := by
  simp [char?, text?_textNode]

/-- The digits of an amount are read as the amount. -/
theorem amount?_textNode (n : UInt64) :
    amount? anchors (textNode (Nat.toDigits 10 n.toNat) .plain) = some n := by
  have hdigits : natural? (Nat.pow 2 64) (Nat.toDigits 10 n.toNat) = some n.toNat :=
    natural?_toDigits n.toNat_lt
  simp only [amount?, textNode, Anchors.resolve?, decide_true, Bool.true_or, if_true,
    String.toList_ofList, hdigits, Option.map_some]
  exact congrArg some (UInt64.ofNat_toNat)

/-- A path that was written is not taken for a path that is absent. -/
theorem path?_textNode {s : List Char} {style : Style} (h : Written s style) :
    path? anchors (textNode s style) = some (some (String.ofList s)) := by
  cases h with
  | plain hne hword _ =>
    -- Only a scalar without quotes can mean nothing, and no such word is written that way.
    have hempty : (String.ofList s).isEmpty = false := by
      simpa using hne
    simp [path?, textNode, Anchors.resolve?, hempty, hword]
  | single _ => rfl
  | double => rfl
  | literal _ _ => rfl

/-- One entry with a known key. -/
theorem readEntries_cons {α β : Type} {settings : List (Setting α)} {key : String}
    {read : Anchors → Node → Option β} {set : α → β → α}
    (hfind : settings.find? (·.key == key) = some (.of key read set)) {seen : List String}
    (hseen : seen.contains key = false) {v : Node} {b : β} (hread : read anchors v = some b) (a : α)
    (rest : List (Node × Node)) :
    readEntries anchors settings ((textNode key.toList .plain, v) :: rest) a seen =
      readEntries anchors settings rest (set a b) (key :: seen) := by
  have hput : (Setting.of key read set).put anchors a v = some (set a b) :=
    congrArg (Option.map (set a)) hread
  rw [readEntries, text?_textNode, String.ofList_toList]
  simp only [hfind, hseen, hput, Bool.false_eq_true, if_false]

end

end Yaml

namespace Configuration

open Yaml Scanner

/-- The entries of the indentation are read as the indentation, whatever was there before. -/
theorem readSettings_indentNodes (i initial : Indent) (anchors : Anchors) :
    readSettings indentSettings initial anchors (.mapping (indentNodes i)) = some i := by
  have hamount : indentSettings.find? (·.key == "amount") =
    some (.of "amount" amount? fun i n => { i with amount := n }) := rfl
  have hchar : indentSettings.find? (·.key == "char") =
    some (.of "char" char? fun i c => { i with character := c }) := rfl
  change readEntries anchors indentSettings (indentNodes i) initial [] = some i
  rw [indentNodes, readEntries_cons hamount rfl (amount?_textNode i.amount),
    readEntries_cons hchar (by decide) (char?_textNode i.character _)]
  rfl

/-- The settings are read back from their entries. -/
theorem readSettings_nodes (c : Configuration) :
    readSettings configurationSettings {} {} (.mapping c.nodes) = some c := by
  have hnaming : configurationSettings.find? (·.key == "naming") =
    some (.of "naming" naming? fun c n => { c with naming := n }) := rfl
  have hroot : configurationSettings.find? (·.key == "root_name") =
    some (.of "root_name" text? fun c s => { c with rootName := s }) := rfl
  have hmodule : configurationSettings.find? (·.key == "module_name") =
    some (.of "module_name" text? fun c s => { c with moduleName := s }) := rfl
  have hindent : configurationSettings.find? (·.key == "indent") =
    some (.of "indent" (readSettings indentSettings {}) fun c i => { c with indent := i }) := rfl
  have houtput : configurationSettings.find? (·.key == "output") =
    some (.of "output" path? fun c p => { c with output := p }) := rfl
  have htext : ∀ s : String, ∀ style, text? {} (textNode s.toList style) = some s := by
    intro s style
    rw [text?_textNode, String.ofList_toList]
  change readEntries {} configurationSettings c.nodes {} [] = some c
  obtain ⟨naming, rootName, moduleName, indent, output⟩ := c
  dsimp only [nodes, stringNodes, List.cons_append, List.nil_append]
  rw [readEntries_cons hnaming rfl (naming?_textNode naming _),
    readEntries_cons hroot (by decide) (htext rootName _),
    readEntries_cons hmodule (by decide) (htext moduleName _),
    readEntries_cons hindent (by decide) (readSettings_indentNodes indent {} {})]
  cases output with
  | none => rfl
  | some path =>
    have hpath : path? {} (textNode path.toList
        (writtenStyle (preferredStyle path.toList) path.toList)) = some (some path) := by
      rw [path?_textNode (written_string path.toList), String.ofList_toList]
    rw [Option.toList, List.map_singleton, stringNodes, readEntries_cons houtput (by decide) hpath]
    rfl

/-- Settings are read back from the text that is written for them. -/
theorem ofYaml?_toYaml (c : Configuration) : ofYaml? (Text.Source.ofString c.toYaml) = some c := by
  have hchars : (Text.Source.ofString c.toYaml).chars? = some c.yamlChars := by
    rw [Text.Source.ofString, toYaml, String.toList_ofList, Text.Source.chars?_map_some]
  simp only [ofYaml?, hchars, Option.bind_eq_bind, Option.bind_some, tokens?_yamlChars,
    document?_tokens, readSettings_nodes]

end Configuration

end ContentTypes
