import ContentTypes.Json.Reader
import Mathlib.Data.List.Basic

/-! Reading JSON texts. A value that was read is read again, to the same document, wherever its text
stands: at another depth that is not too deep, with more text after it, and with as much fuel as it
has characters. So a text can be put together from the texts of its parts. -/

namespace ContentTypes.Json

open Text (Source)

def continuesNumber (c : Option Char) : Bool :=
  (digit? c).isSome || c = some '.' || c = some 'e' || c = some 'E'

def Ends (t : Source) : Prop := ∀ c ∈ t.head?, continuesNumber c = false

section

variable {t : Source}

theorem Ends.digit? (h : Ends t) {c : Option Char} {rest : Source} (ht : t = c :: rest) :
    digit? c = none := by
  have hc := h c (by rw [ht]; rfl)
  unfold continuesNumber at hc
  simp only [Bool.or_eq_false_iff, Option.isSome_eq_false_iff, Option.isNone_iff_eq_none] at hc
  exact hc.1.1.1

theorem takeDigits_append (h : Ends t) (s : Source) :
    takeDigits (s ++ t) = ((takeDigits s).1, (takeDigits s).2 ++ t) := by
  induction s with
  | nil =>
    cases t with
    | nil => rfl
    | cons c rest =>
      have hc := h.digit? rfl
      simp only [List.nil_append, takeDigits, hc]
  | cons c rest ih =>
    rw [List.cons_append]
    cases hc : digit? c with
    | none => simp only [takeDigits, hc, List.cons_append]
    | some d => simp only [takeDigits, hc, ih]

theorem readWhole_append (h : Ends t) {s rest : Source} {digits : List Nat}
    (hs : readWhole s = .done digits rest) :
    readWhole (s ++ t) = .done digits (rest ++ t) := by
  unfold readWhole at hs ⊢
  rw [takeDigits_append h]
  generalize takeDigits s = taken at hs ⊢
  obtain ⟨ds, r⟩ := taken
  rcases ds with _ | ⟨_ | n, _ | ⟨m, more⟩⟩
  · cases hs
  · cases hs
    rfl
  · cases hs
  · cases hs
    rfl
  · cases hs
    rfl

theorem readFraction_append (h : Ends t) {s rest : Source} {fraction : Option (List Nat)}
    (hs : readFraction s = .done fraction rest) :
    readFraction (s ++ t) = .done fraction (rest ++ t) := by
  rcases s with _ | ⟨c, s⟩
  · cases hs
    rcases t with _ | ⟨c, u⟩
    · rfl
    · have hc := h c rfl
      have hpoint : c ≠ some '.' := by
        rintro rfl
        exact absurd hc (by decide)
      simp [readFraction, hpoint]
  · by_cases hc : c = some '.'
    · subst hc
      simp only [List.cons_append, readFraction, takeDigits_append h] at hs ⊢
      generalize takeDigits s = taken at hs ⊢
      obtain ⟨_ | ⟨d, ds⟩, r⟩ := taken
      · cases hs
      · cases hs
        rfl
    · simp [readFraction, hc] at hs ⊢
      rw [← hs.1, ← hs.2]
      exact ⟨rfl, rfl⟩

theorem readExponentDigits_append (h : Ends t) {negative : Bool} {s rest : Source}
    {exponent : Option Int} (hs : readExponentDigits negative s = .done exponent rest) :
    readExponentDigits negative (s ++ t) = .done exponent (rest ++ t) := by
  unfold readExponentDigits at hs ⊢
  rw [takeDigits_append h]
  generalize takeDigits s = taken at hs ⊢
  obtain ⟨_ | ⟨d, ds⟩, r⟩ := taken
  · cases hs
  · cases hs
    rfl

/-- After its mark an exponent may have a sign. -/
theorem readExponent_mark {c : Char} (hc : c = 'e' ∨ c = 'E') (s : Source) :
    readExponent (some c :: s) =
      if s.head? = some (some '+') then readExponentDigits false s.tail
      else if s.head? = some (some '-') then readExponentDigits true s.tail
      else readExponentDigits false s := by
  have hmark : (c = 'e' || c = 'E') = true := by simpa using hc
  rcases s with _ | ⟨x, s⟩
  · simp [readExponent, hmark]
  · by_cases hplus : x = some '+'
    · subst hplus
      simp [readExponent, hmark]
    · by_cases hminus : x = some '-'
      · subst hminus
        simp [readExponent, hmark]
      · simp [readExponent, hmark, hplus, hminus]

theorem readExponent_append (h : Ends t) {s rest : Source} {exponent : Option Int}
    (hs : readExponent s = .done exponent rest) :
    readExponent (s ++ t) = .done exponent (rest ++ t) := by
  rcases s with _ | ⟨c, s⟩
  · cases hs
    rcases t with _ | ⟨c, u⟩
    · rfl
    · have hc := h c rfl
      cases c with
      | none => rfl
      | some c =>
        have hmark : (c = 'e' || c = 'E') = false := by
          unfold continuesNumber at hc
          simp_all
        simp [readExponent, hmark]
  · cases c with
    | none =>
      cases hs
      rfl
    | some c =>
      by_cases hmark : c = 'e' ∨ c = 'E'
      · rw [List.cons_append, readExponent_mark hmark] at *
        rcases s with _ | ⟨x, s⟩
        · exact absurd hs (by simp [readExponentDigits, takeDigits])
        · simp only [List.head?_cons, List.tail_cons, List.cons_append, Option.some.injEq] at hs ⊢
          by_cases hplus : x = some '+'
          · rw [if_pos hplus] at hs ⊢
            exact readExponentDigits_append h hs
          · rw [if_neg hplus] at hs ⊢
            by_cases hminus : x = some '-'
            · rw [if_pos hminus] at hs ⊢
              exact readExponentDigits_append h hs
            · rw [if_neg hminus] at hs ⊢
              exact readExponentDigits_append h hs
      · have hmark' : (c = 'e' || c = 'E') = false := by simpa using hmark
        simp [readExponent, hmark'] at hs ⊢
        simp [← hs.1, ← hs.2]

/-- A number is read alike in front of a text that does not go on with it. -/
theorem readNumeral_append (h : Ends t) {negative : Bool} {s rest : Source} {n : Numeral}
    (hs : readNumeral negative s = .done n rest) :
    readNumeral negative (s ++ t) = .done n (rest ++ t) := by
  unfold readNumeral at hs ⊢
  cases hwhole : readWhole s with
  | broken b => simp only [hwhole, reduceCtorEq] at hs
  | done whole r =>
    rw [readWhole_append h hwhole]
    cases hfraction : readFraction r with
    | broken b => simp only [hwhole, hfraction, reduceCtorEq] at hs
    | done fraction r' =>
      dsimp only
      rw [readFraction_append h hfraction]
      cases hexponent : readExponent r' with
      | broken b => simp only [hwhole, hfraction, hexponent, reduceCtorEq] at hs
      | done exponent r'' =>
        dsimp only
        rw [readExponent_append h hexponent]
        simp only [hwhole, hfraction, hexponent, Step.done.injEq] at hs
        rw [← hs.1, ← hs.2]

end

theorem length_takeDigits (s : Source) :
    (takeDigits s).1.length + (takeDigits s).2.length = s.length := by
  induction s with
  | nil => rfl
  | cons c rest ih =>
    cases hc : digit? c with
    | none => simp only [takeDigits, hc, List.length_nil, List.length_cons, Nat.zero_add]
    | some d =>
      simp only [takeDigits, hc, List.length_cons]
      omega

theorem length_readWhole {s rest : Source} {digits : List Nat}
    (hs : readWhole s = .done digits rest) : rest.length < s.length := by
  have hlength := length_takeDigits s
  unfold readWhole at hs
  generalize takeDigits s = taken at hs hlength
  obtain ⟨ds, r⟩ := taken
  rcases ds with _ | ⟨_ | n, _ | ⟨m, more⟩⟩ <;> cases hs <;>
    simp only [List.length_cons] at hlength <;>
    omega

theorem length_readFraction {s rest : Source} {fraction : Option (List Nat)}
    (hs : readFraction s = .done fraction rest) : rest.length ≤ s.length := by
  unfold readFraction at hs
  split at hs
  · rename_i u
    have hlength := length_takeDigits u
    generalize takeDigits u = taken at hs hlength
    obtain ⟨_ | ⟨d, ds⟩, r⟩ := taken <;> cases hs
    simp only [List.length_cons] at hlength ⊢
    omega
  · cases hs
    exact Nat.le_refl _

theorem length_readExponentDigits {negative : Bool} {s rest : Source} {exponent : Option Int}
    (hs : readExponentDigits negative s = .done exponent rest) : rest.length ≤ s.length := by
  have hlength := length_takeDigits s
  unfold readExponentDigits at hs
  generalize takeDigits s = taken at hs hlength
  obtain ⟨_ | ⟨d, ds⟩, r⟩ := taken <;> cases hs
  simp only [List.length_cons] at hlength
  omega

theorem length_readExponent {s rest : Source} {exponent : Option Int}
    (hs : readExponent s = .done exponent rest) : rest.length ≤ s.length := by
  unfold readExponent at hs
  split at hs
  · split at hs
    · split at hs <;>
      · have hlength := length_readExponentDigits hs
        simp only [List.length_cons] at hlength ⊢
        omega
    · cases hs
      exact Nat.le_refl _
  · cases hs
    exact Nat.le_refl _

/-- A number takes at least one character. -/
theorem length_readNumeral {negative : Bool} {s rest : Source} {n : Numeral}
    (hs : readNumeral negative s = .done n rest) : rest.length < s.length := by
  unfold readNumeral at hs
  split at hs
  · cases hs
  · rename_i hwhole
    split at hs
    · cases hs
    · rename_i hfraction
      split at hs
      · cases hs
      · rename_i hexponent
        cases hs
        have h₁ := length_readWhole hwhole
        have h₂ := length_readFraction hfraction
        have h₃ := length_readExponent hexponent
        omega

/-- A word is read alike whatever follows. -/
theorem readWord_append {α : Type} (value : α) (word : List Char) {s rest : Source} {a : α}
    (hs : readWord value word s = .done a rest) (t : Source) :
    readWord value word (s ++ t) = .done a (rest ++ t) := by
  induction word generalizing s with
  | nil =>
    cases hs
    rfl
  | cons w word ih =>
    cases s with
    | nil => cases hs
    | cons c s =>
      simp only [readWord, List.cons_append] at hs ⊢
      split at hs
      · rename_i hc
        rw [if_pos hc]
        exact ih hs
      · cases hs

theorem length_readWord {α : Type} {value : α} {word : List Char} {s rest : Source} {a : α}
    (hs : readWord value word s = .done a rest) : rest.length ≤ s.length := by
  induction word generalizing s with
  | nil =>
    cases hs
    exact Nat.le_refl _
  | cons w word ih =>
    cases s with
    | nil => cases hs
    | cons c s =>
      simp only [readWord] at hs
      split at hs
      · have hlength := ih hs
        simp only [List.length_cons]
        omega
      · cases hs

theorem eq_of_readWord {α : Type} {value : α} {word : List Char} {s rest : Source} {a : α}
    (hs : readWord value word s = .done a rest) : a = value := by
  induction word generalizing s with
  | nil =>
    cases hs
    rfl
  | cons w word ih =>
    cases s with
    | nil => cases hs
    | cons c s =>
      simp only [readWord] at hs
      split at hs
      · exact ih hs
      · cases hs

/-- A character that needs no escape stands for itself. -/
theorem readString_plain (st : StringState) {c : Char} (hquote : c ≠ '"') (hslash : c ≠ '\\')
    (hcontrol : ¬c.toNat < 0x20) (s : Source) :
    readString st (some c :: s) = readString (st.addChar c) s := by
  rw [readString.eq_def]
  split
  case h_8 heq =>
    obtain ⟨hhead, rfl⟩ := List.cons.inj heq
    obtain rfl := Option.some.inj hhead
    exact if_neg hcontrol
  -- Every other pattern begins with a quote or a backslash.
  all_goals simp_all

/-- A string ends at its own quote, whatever follows. -/
theorem readString_append {st : StringState} {s rest : Source} {r : Reading String}
    (hs : readString st s = .done r rest) (t : Source) :
    readString st (s ++ t) = .done r (rest ++ t) := by
  fun_induction readString st s with
  | case11 st c s hquote _ hunit hshort hstray hend hcontrol ih =>
    have hslash : c ≠ '\\' := by
      intro hc
      rcases s with _ | ⟨_ | x, s⟩
      · exact hend rfl hc
      · exact hstray s rfl hc
      · exact hshort x s rfl hc
    rw [List.cons_append, readString_plain st hquote hslash hcontrol]
    exact ih hs
  | _ => simp_all [readString]

/-- A string takes at least its closing quote. -/
theorem length_readString {st : StringState} {s rest : Source} {r : Reading String}
    (hs : readString st s = .done r rest) : rest.length < s.length := by
  fun_induction readString st s with
  | case2 st s =>
    cases hs
    exact Nat.lt_succ_self _
  | case3 st a b c d s n hn ih =>
    have hlength := ih hs
    simp only [List.length_cons]
    omega
  | case6 st c s hfour hunit e he ih =>
    have hlength := ih hs
    simp only [List.length_cons]
    omega
  | case11 st c s hquote _ hunit hshort hstray hend hcontrol ih =>
    have hlength := ih hs
    simp only [List.length_cons]
    omega
  | case12 st s ih =>
    have hlength := ih hs
    simp only [List.length_cons]
    omega
  | _ => cases hs

mutual

def Document.nesting : Document → Nat
  | .array _ items => items.nesting + 1
  | .object _ members => members.nesting + 1
  | _ => 0

def Items.nesting : Items → Nat
  | .item value rest => max value.nesting rest.nesting
  | _ => 0

def Members.nesting : Members → Nat
  | .member _ value rest => max value.nesting rest.nesting
  | _ => 0

end

theorem skipBlanks_append {s u : Source} {c : Option Char} (hs : skipBlanks s = c :: u)
    (t : Source) : skipBlanks (s ++ t) = c :: (u ++ t) := by
  unfold skipBlanks at hs ⊢
  induction s with
  | nil => cases hs
  | cons x s ih =>
    rw [List.cons_append]
    simp only [List.dropWhile_cons] at hs ⊢
    split at hs
    · rename_i hx
      rw [if_pos hx]
      exact ih hs
    · rename_i hx
      obtain ⟨rfl, rfl⟩ := List.cons.inj hs
      rw [if_neg hx]

theorem length_skipBlanks_le (s : Source) : (skipBlanks s).length ≤ s.length :=
  (List.dropWhile_suffix _).length_le

/-- Parts of a text that were read are read again with more text after them. -/
def Continues {α : Type} (read : Nat → Nat → Source → Node α) (nesting : α → Nat)
    (skip : α → Reading Unit) (cost fuel : Nat) : Prop :=
  ∀ depth s a rest, read fuel depth s = (a, some rest) → depth + nesting a < depthLimit →
    skip a = .ok () ∧ rest.length < s.length ∧
    ∀ fuel' depth' t, 3 * s.length + cost ≤ fuel' → depth' + nesting a < depthLimit → Ends t →
      read fuel' depth' (s ++ t) = (a, some (rest ++ t))

theorem node_eq_some {α : Type} {f : α → Document} {st : Step α} {d : Document} {rest : Source}
    (h : st.node f = (d, some rest)) : ∃ a, st = .done a rest ∧ f a = d := by
  cases st with
  | done a r =>
    cases h
    exact ⟨a, rfl, rfl⟩
  | broken b => cases h

section

variable {s rest : Source} {d : Document}

theorem node_readWord {value : Document} {word : List Char} (hv : value.skip = .ok ())
    (h : (readWord value word s).node id = (d, some rest)) :
    d.skip = .ok () ∧ rest.length ≤ s.length ∧
      ∀ t, Ends t → (readWord value word (s ++ t)).node id = (d, some (rest ++ t)) := by
  obtain ⟨a, ha, rfl⟩ := node_eq_some h
  refine ⟨?_, length_readWord ha, ?_⟩
  · rw [eq_of_readWord ha]
    exact hv
  · intro t _
    rw [readWord_append _ _ ha]
    rfl

theorem node_readNumeral {negative : Bool}
    (h : (readNumeral negative s).node numberDocument = (d, some rest)) :
    d.skip = .ok () ∧ rest.length < s.length ∧ ∀ t, Ends t →
      (readNumeral negative (s ++ t)).node numberDocument = (d, some (rest ++ t)) := by
  obtain ⟨n, hn, rfl⟩ := node_eq_some h
  refine ⟨rfl, length_readNumeral hn, ?_⟩
  intro t ht
  rw [readNumeral_append ht hn]
  rfl

theorem node_readString (h : (readString {} s).node .text = (d, some rest)) :
    d.skip = .ok () ∧ rest.length < s.length ∧
      ∀ t, Ends t → (readString {} (s ++ t)).node .text = (d, some (rest ++ t)) := by
  obtain ⟨r, hr, rfl⟩ := node_eq_some h
  refine ⟨rfl, length_readString hr, ?_⟩
  intro t _
  rw [readString_append hr]
  rfl

end

def readAfter (fuel depth : Nat) (c : Char) (rest : Source) : Node Document :=
  if c = 'n' then (readWord Document.null ['u', 'l', 'l'] rest).node id
  else if c = 't' then (readWord (Document.bool true) ['r', 'u', 'e'] rest).node id
  else if c = 'f' then (readWord (Document.bool false) ['a', 'l', 's', 'e'] rest).node id
  else if c = '-' then (readNumeral true rest).node numberDocument
  else if c.isDigit then (readNumeral false (some c :: rest)).node numberDocument
  else if c = '"' then (readString {} rest).node .text
  else if c = '[' then
    (.array (decide (depthLimit ≤ depth + 1)) (readItems fuel (depth + 1) true rest).1,
      (readItems fuel (depth + 1) true rest).2)
  else if c = '\x7b' then
    (.object (decide (depthLimit ≤ depth + 1)) (readMembers fuel (depth + 1) true rest).1,
      (readMembers fuel (depth + 1) true rest).2)
  else (.broken (.same .malformed), none)

/-- Behind blanks the first character of a value says what it is. -/
theorem readValue_eq_readAfter (fuel depth : Nat) {s u : Source} {c : Char}
    (hs : skipBlanks s = some c :: u) :
    readValue (fuel + 1) depth s = readAfter fuel depth c u := by
  simp only [readValue, hs]
  rfl

theorem exists_skipBlanks_of_readValue {fuel depth : Nat} {s rest : Source} {d : Document}
    (h : readValue fuel depth s = (d, some rest)) :
    ∃ f c u, fuel = f + 1 ∧ skipBlanks s = some c :: u ∧
      readAfter f depth c u = (d, some rest) := by
  cases fuel with
  | zero => simp [readValue] at h
  | succ f =>
    cases hs : skipBlanks s with
    | nil => simp [readValue, hs] at h
    | cons x u =>
      cases x with
      | none => simp [readValue, hs] at h
      | some c =>
        rw [readValue_eq_readAfter f depth hs] at h
        exact ⟨f, c, u, rfl, rfl, h⟩

/-- What stands between brackets is read one level further in, and the level is allowed for one
depth as for another. -/
theorem Continues.inside {α : Type} {read : Nat → Nat → Source → Node α} {nesting : α → Nat}
    {skip : α → Reading Unit} {fuel depth : Nat} {s rest : Source} {a : α}
    (hread : Continues read nesting skip 3 fuel) (h : read fuel (depth + 1) s = (a, some rest))
    (hd : depth + (nesting a + 1) < depthLimit) :
    skip a = .ok () ∧ rest.length ≤ s.length ∧
      ∀ fuel' depth' t, 3 * s.length + 3 ≤ fuel' → depth' + (nesting a + 1) < depthLimit → Ends t →
        read fuel' (depth' + 1) (s ++ t) = (a, some (rest ++ t)) ∧
          decide (depthLimit ≤ depth' + 1) = decide (depthLimit ≤ depth + 1) := by
  obtain ⟨hskip, hlt, hmore⟩ := hread (depth + 1) s a rest h (by omega)
  refine ⟨hskip, Nat.le_of_lt hlt, fun fuel' depth' t hfuel hd' ht => ?_⟩
  refine ⟨hmore fuel' (depth' + 1) t hfuel (by omega) ht, ?_⟩
  rw [decide_eq_false (by omega), decide_eq_false (by omega)]

/-- The step for values: what holds for the inside of arrays and objects holds for values. -/
theorem continues_readAfter {fuel : Nat}
    (hitems : Continues (fun f d s => readItems f d true s) Items.nesting Items.skip 3 fuel)
    (hmembers : Continues (fun f d s => readMembers f d true s) Members.nesting Members.skip 3 fuel)
    {depth : Nat} {c : Char} {s rest : Source} {d : Document}
    (h : readAfter fuel depth c s = (d, some rest)) (hd : depth + d.nesting < depthLimit) :
    d.skip = .ok () ∧ rest.length ≤ s.length ∧
      ∀ fuel' depth' t, 3 * s.length + 3 ≤ fuel' → depth' + d.nesting < depthLimit → Ends t →
        readAfter fuel' depth' c (s ++ t) = (d, some (rest ++ t)) := by
  -- The first character decides what is read, with more text after it as without.
  unfold readAfter at h ⊢
  by_cases hn : c = 'n'
  · simp only [if_pos hn] at h ⊢
    obtain ⟨hskip, hle, hmore⟩ := node_readWord rfl h
    exact ⟨hskip, hle, fun _ _ t _ _ ht => hmore t ht⟩
  by_cases ht : c = 't'
  · simp only [if_neg hn, if_pos ht] at h ⊢
    obtain ⟨hskip, hle, hmore⟩ := node_readWord rfl h
    exact ⟨hskip, hle, fun _ _ t _ _ ht => hmore t ht⟩
  by_cases hf : c = 'f'
  · simp only [if_neg hn, if_neg ht, if_pos hf] at h ⊢
    obtain ⟨hskip, hle, hmore⟩ := node_readWord rfl h
    exact ⟨hskip, hle, fun _ _ t _ _ ht => hmore t ht⟩
  simp only [if_neg hn, if_neg ht, if_neg hf] at h ⊢
  by_cases hminus : c = '-'
  · simp only [if_pos hminus] at h ⊢
    obtain ⟨hskip, hlt, hmore⟩ := node_readNumeral h
    exact ⟨hskip, Nat.le_of_lt hlt, fun _ _ t _ _ ht => hmore t ht⟩
  by_cases hdigit : c.isDigit = true
  · simp only [if_neg hminus, if_pos hdigit] at h ⊢
    obtain ⟨hskip, hlt, hmore⟩ := node_readNumeral h
    exact ⟨hskip, Nat.le_of_lt_succ hlt, fun _ _ t _ _ ht => hmore t ht⟩
  by_cases hquote : c = '"'
  · simp only [if_neg hminus, if_neg hdigit, if_pos hquote] at h ⊢
    obtain ⟨hskip, hlt, hmore⟩ := node_readString h
    exact ⟨hskip, Nat.le_of_lt hlt, fun _ _ t _ _ ht => hmore t ht⟩
  simp only [if_neg hminus, if_neg hdigit, if_neg hquote] at h ⊢
  by_cases hbracket : c = '['
  · simp only [if_pos hbracket, Prod.mk.injEq] at h ⊢
    obtain ⟨rfl, hrest⟩ := h
    rw [Document.nesting] at hd
    obtain ⟨hskip, hle, hmore⟩ := hitems.inside (Prod.ext rfl hrest) hd
    refine ⟨hskip, hle, fun fuel' depth' t hfuel hd' ht => ?_⟩
    rw [Document.nesting] at hd'
    obtain ⟨hread, hdeep⟩ := hmore fuel' depth' t hfuel hd' ht
    rw [hread, hdeep]
    exact ⟨rfl, rfl⟩
  by_cases hbrace : c = '\x7b'
  · simp only [if_neg hbracket, if_pos hbrace, Prod.mk.injEq] at h ⊢
    obtain ⟨rfl, hrest⟩ := h
    rw [Document.nesting] at hd
    obtain ⟨hskip, hle, hmore⟩ := hmembers.inside (Prod.ext rfl hrest) hd
    refine ⟨hskip, hle, fun fuel' depth' t hfuel hd' ht => ?_⟩
    rw [Document.nesting] at hd'
    obtain ⟨hread, hdeep⟩ := hmore fuel' depth' t hfuel hd' ht
    rw [hread, hdeep]
    exact ⟨rfl, rfl⟩
  · simp only [if_neg hbracket, if_neg hbrace] at h
    cases h

/-- If the inside of arrays and objects is read alike with more text behind it, so is a value. -/
theorem continues_readValue {fuel : Nat}
    (hitems : Continues (fun f d s => readItems f d true s) Items.nesting Items.skip 3 fuel)
    (hmembers :
      Continues (fun f d s => readMembers f d true s) Members.nesting Members.skip 3 fuel) :
    Continues readValue Document.nesting Document.skip 1 (fuel + 1) := by
  intro depth s d rest h hd
  obtain ⟨f, c, u, hf, hs, hafter⟩ := exists_skipBlanks_of_readValue h
  obtain rfl : fuel = f := by omega
  obtain ⟨hskip, hle, hmore⟩ := continues_readAfter hitems hmembers hafter hd
  have hlength := length_skipBlanks_le s
  rw [hs, List.length_cons] at hlength
  refine ⟨hskip, by omega, fun fuel' depth' t hfuel hd' ht => ?_⟩
  obtain ⟨f', rfl⟩ : ∃ f', fuel' = f' + 1 := ⟨fuel' - 1, by omega⟩
  rw [readValue_eq_readAfter f' depth' (skipBlanks_append hs t)]
  exact hmore f' depth' t (by omega) hd' ht

theorem continues_readItem {fuel : Nat}
    (hvalue : Continues readValue Document.nesting Document.skip 1 fuel)
    (hitems : Continues (fun f d s => readItems f d false s) Items.nesting Items.skip 3 fuel) :
    Continues readItem Items.nesting Items.skip 2 (fuel + 1) := by
  intro depth s is rest h hd
  cases hv : readValue fuel depth s with
  | mk value after =>
    cases after with
    | none => simp [readItem, hv] at h
    | some u =>
      simp only [readItem, hv, Prod.mk.injEq] at h
      obtain ⟨rfl, hrest⟩ := h
      rw [Items.nesting] at hd
      obtain ⟨hskip, hlt, hmore⟩ := hvalue depth s value u hv (by omega)
      obtain ⟨hskips, hlts, hmores⟩ := hitems depth u (readItems fuel depth false u).1 rest
        (Prod.ext rfl hrest) (by omega)
      refine ⟨by simp only [Items.skip, hskip, hskips], by omega, ?_⟩
      intro fuel' depth' t hfuel hd' ht
      rw [Items.nesting] at hd'
      obtain ⟨f', rfl⟩ : ∃ f', fuel' = f' + 1 := ⟨fuel' - 1, by omega⟩
      have hv' := hmore f' depth' t (by omega) (by omega) ht
      have his := hmores f' depth' t (by omega) (by omega) ht
      dsimp only at his
      simp only [readItem, hv', his]

/-- How the elements between two brackets are read: the bracket ends them, the first one begins
where the blanks end, and any other one after its comma. -/
structure Separated {α : Type} (read : Nat → Nat → Bool → Source → Node α)
    (element : Nat → Nat → Source → Node α) (bracket : Char) (closed stray : α)
    (between : Source → Source) : Prop where
  empty {s : Source} (fuel depth : Nat) (first : Bool) (hs : skipBlanks s = []) :
    (read (fuel + 1) depth first s).2 = none
  close {s u : Source} (fuel depth : Nat) (first : Bool) (hs : skipBlanks s = some bracket :: u) :
    read (fuel + 1) depth first s = (closed, some u)
  next {s u : Source} {c : Option Char} (fuel depth : Nat) (first : Bool)
    (hs : skipBlanks s = c :: u) (hc : c ≠ some bracket) :
    read (fuel + 1) depth first s =
      if first then element fuel depth (c :: u)
      else if c = some ',' then element fuel depth (between u) else (stray, none)
  between_length (u : Source) : (between u).length ≤ u.length
  between_append {fuel depth : Nat} {u rest : Source} {a : α}
    (h : element fuel depth (between u) = (a, some rest)) (t : Source) :
    between (u ++ t) = between u ++ t

/-- The step for what stands between brackets: what holds for one element and those after it holds
from the blanks in front of them on. -/
theorem Separated.continues {α : Type} {read : Nat → Nat → Bool → Source → Node α}
    {element : Nat → Nat → Source → Node α} {bracket : Char} {closed stray : α}
    {between : Source → Source} {nesting : α → Nat} {skip : α → Reading Unit} {fuel : Nat}
    (hread : Separated read element bracket closed stray between) (hclosed : skip closed = .ok ())
    (helement : Continues element nesting skip 2 fuel) (first : Bool) :
    Continues (fun f d s => read f d first s) nesting skip 3 (fuel + 1) := by
  intro depth s a rest h hd
  dsimp only at h
  cases hs : skipBlanks s with
  | nil =>
    have hnone := hread.empty fuel depth first hs
    rw [h] at hnone
    cases hnone
  | cons c u =>
    have hlength := length_skipBlanks_le s
    rw [hs, List.length_cons] at hlength
    have happend := skipBlanks_append hs
    by_cases hclose : c = some bracket
    · subst hclose
      rw [hread.close fuel depth first hs, Prod.mk.injEq, Option.some.injEq] at h
      obtain ⟨rfl, rfl⟩ := h
      refine ⟨hclosed, by omega, fun fuel' depth' t hfuel hd' ht => ?_⟩
      obtain ⟨f', rfl⟩ : ∃ f', fuel' = f' + 1 := ⟨fuel' - 1, by omega⟩
      exact hread.close f' depth' first (happend t)
    · rw [hread.next fuel depth first hs hclose] at h
      cases first with
      | true =>
        obtain ⟨hskip, hlt, hmore⟩ := helement depth (c :: u) a rest h hd
        rw [List.length_cons] at hlt hmore
        refine ⟨hskip, by omega, fun fuel' depth' t hfuel hd' ht => ?_⟩
        obtain ⟨f', rfl⟩ : ∃ f', fuel' = f' + 1 := ⟨fuel' - 1, by omega⟩
        dsimp only
        rw [hread.next f' depth' true (happend t) hclose]
        exact hmore f' depth' t (by omega) hd' ht
      | false =>
        simp only [Bool.false_eq_true, if_false] at h
        split at h
        · rename_i hcomma
          obtain ⟨hskip, hlt, hmore⟩ := helement depth (between u) a rest h hd
          have hbetween := hread.between_length u
          refine ⟨hskip, by omega, fun fuel' depth' t hfuel hd' ht => ?_⟩
          obtain ⟨f', rfl⟩ : ∃ f', fuel' = f' + 1 := ⟨fuel' - 1, by omega⟩
          dsimp only
          rw [hread.next f' depth' false (happend t) hclose, if_pos hcomma,
            hread.between_append h t]
          exact hmore f' depth' t (by omega) hd' ht
        · cases h

/-- Items are read between brackets. -/
theorem separated_readItems :
    Separated readItems readItem ']' (.closed none) (.broken (.same .malformed)) id where
  empty fuel depth first hs := by simp [readItems, hs]
  close fuel depth first hs := by simp only [readItems, hs]
  next fuel depth first hs hc := by simp [readItems, hs]
  between_length _ := Nat.le_refl _
  between_append _ _ := rfl

theorem readMember_of_key (fuel depth : Nat) {s u v : Source} {key : Reading String}
    (hkey : readString {} s = .done key u) (hcolon : skipBlanks u = some ':' :: v) :
    readMember (fuel + 1) depth (some '"' :: s) =
      match readValue fuel depth v with
      | (value, none) => (.member key value (.broken (.same .malformed)), none)
      | (value, some rest) =>
        (.member key value (readMembers fuel depth false rest).1,
          (readMembers fuel depth false rest).2) := by
  rcases hvalue : readValue fuel depth v with ⟨value, _ | rest⟩
  · simp only [readMember, if_true, hkey, hcolon, hvalue]
  · simp only [readMember, if_true, hkey, hcolon, hvalue]

/-- A member that was read is a key, a colon, a value and the members after it. -/
theorem exists_of_readMember {fuel depth : Nat} {s rest : Source} {ms : Members}
    (h : readMember fuel depth s = (ms, some rest)) :
    ∃ f s' key u v value w, fuel = f + 1 ∧ s = some '"' :: s' ∧ readString {} s' = .done key u ∧
      skipBlanks u = some ':' :: v ∧ readValue f depth v = (value, some w) ∧
      ms = .member key value (readMembers f depth false w).1 ∧
      (readMembers f depth false w).2 = some rest := by
  cases fuel with
  | zero => simp [readMember] at h
  | succ f =>
    cases s with
    | nil => simp [readMember] at h
    | cons c s' =>
      by_cases hc : c = some '"'
      · subst hc
        cases hkey : readString {} s' with
        | broken b => simp [readMember, hkey] at h
        | done key u =>
          cases hcolon : skipBlanks u with
          | nil => simp [readMember, hkey, hcolon] at h
          | cons x v =>
            by_cases hx : x = some ':'
            · subst hx
              rw [readMember_of_key f depth hkey hcolon] at h
              cases hv : readValue f depth v with
              | mk value after =>
                cases after with
                | none => simp [hv] at h
                | some w =>
                  simp only [hv, Prod.mk.injEq] at h
                  exact ⟨f, s', key, u, v, value, w, rfl, rfl, hkey, hcolon, hv, h.1.symm, h.2⟩
            · simp [readMember, hkey, hcolon, hx] at h
      · simp [readMember, hc] at h

theorem continues_readMember {fuel : Nat}
    (hvalue : Continues readValue Document.nesting Document.skip 1 fuel)
    (hmembers :
      Continues (fun f d s => readMembers f d false s) Members.nesting Members.skip 3 fuel) :
    Continues readMember Members.nesting Members.skip 2 (fuel + 1) := by
  intro depth s ms rest h hd
  obtain ⟨f, s', key, u, v, value, w, hf, rfl, hkey, hcolon, hv, rfl, hrest⟩ :=
    exists_of_readMember h
  obtain rfl : fuel = f := by omega
  rw [Members.nesting] at hd
  have hstring := length_readString hkey
  have hblanks := length_skipBlanks_le u
  rw [hcolon, List.length_cons] at hblanks
  obtain ⟨hskip, hlt, hmore⟩ := hvalue depth v value w hv (by omega)
  obtain ⟨hskips, hlts, hmores⟩ := hmembers depth w (readMembers fuel depth false w).1 rest
    (Prod.ext rfl hrest) (by omega)
  rw [List.length_cons]
  refine ⟨by simp only [Members.skip, hskip, hskips], by omega, ?_⟩
  intro fuel' depth' t hfuel hd' ht
  rw [Members.nesting] at hd'
  obtain ⟨f', rfl⟩ : ∃ f', fuel' = f' + 1 := ⟨fuel' - 1, by omega⟩
  have hv' := hmore f' depth' t (by omega) (by omega) ht
  have hms := hmores f' depth' t (by omega) (by omega) ht
  dsimp only at hms
  rw [List.cons_append, readMember_of_key f' depth' (readString_append hkey t)
    (skipBlanks_append hcolon t)]
  rw [hv']
  dsimp only
  rw [hms]

/-- Members are read between braces, with blanks behind a comma passed over. -/
theorem separated_readMembers : Separated readMembers readMember '\x7d' .closed
    (.broken (.same .malformed)) skipBlanks where
  empty fuel depth first hs := by simp [readMembers, hs]
  close fuel depth first hs := by simp only [readMembers, hs]
  next fuel depth first hs hc := by simp [readMembers, hs]
  between_length := length_skipBlanks_le
  between_append := by
    -- A member begins with its quote, so the blanks in front of it end in the same place.
    intro fuel depth u rest ms h t
    obtain ⟨_, s', _, _, _, _, _, _, hquote, _⟩ := exists_of_readMember h
    rw [skipBlanks_append hquote t, hquote, List.cons_append]

/-- The five readers of values and their parts continue, at every fuel. -/
theorem continues_all (fuel : Nat) :
    Continues readValue Document.nesting Document.skip 1 fuel ∧
    (∀ first, Continues (fun f d s => readItems f d first s) Items.nesting Items.skip 3 fuel) ∧
    Continues readItem Items.nesting Items.skip 2 fuel ∧
    (∀ first,
      Continues (fun f d s => readMembers f d first s) Members.nesting Members.skip 3 fuel) ∧
    Continues readMember Members.nesting Members.skip 2 fuel := by
  induction fuel with
  | zero =>
    refine ⟨?_, ?_, ?_, ?_, ?_⟩
    · intro depth s a rest h
      simp [readValue] at h
    · intro first depth s a rest h
      simp [readItems] at h
    · intro depth s a rest h
      simp [readItem] at h
    · intro first depth s a rest h
      simp [readMembers] at h
    · intro depth s a rest h
      simp [readMember] at h
  | succ fuel ih =>
    obtain ⟨hvalue, hitems, hitem, hmembers, hmember⟩ := ih
    exact ⟨continues_readValue (hitems true) (hmembers true),
      separated_readItems.continues rfl hitem,
      continues_readItem hvalue (hitems false),
      separated_readMembers.continues rfl hmember,
      continues_readMember hvalue (hmembers false)⟩

end ContentTypes.Json
