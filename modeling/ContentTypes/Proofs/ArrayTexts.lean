import ContentTypes.Proofs.TypeGrammar
import ContentTypes.Proofs.Unions

/-! Brackets behind a text. They apply to all that the text shows where it shows one alternative, or
where parentheses are put around it. Whether they are is decided by the number of members at the
node alone, and this is the number of alternatives except where a union of one member hides those of
the member. The constructors make no such union. -/

namespace ContentTypes

namespace TypeExpr

/-! ### Parentheses -/

def openAfter (s : List Char) : Int := s.count '(' - s.count ')'

theorem openAfter_append (s t : List Char) : openAfter (s ++ t) = openAfter s + openAfter t := by
  unfold openAfter
  rw [List.count_append, List.count_append]
  omega

theorem openAfter_open (s : List Char) : openAfter ('(' :: s) = 1 + openAfter s :=
  openAfter_append ['('] s

/-- A text closes no more parentheses than it has characters. -/
theorem neg_length_le_openAfter (s : List Char) : -(s.length : Int) ≤ openAfter s := by
  have hclose : s.count ')' ≤ s.length := List.count_le_length
  unfold openAfter
  omega

structure Balanced (s : List Char) : Prop where
  total : openAfter s = 0
  front : ∀ x, x <+: s → 0 ≤ openAfter x

/-- A text without parentheses is balanced. -/
theorem balanced_of_not_mem {s : List Char} (hopen : '(' ∉ s) (hclose : ')' ∉ s) : Balanced s := by
  have hzero : ∀ x, x <+: s → openAfter x = 0 := by
    intro x hx
    have hcount : x.count '(' = 0 := List.count_eq_zero.mpr fun h => hopen (hx.subset h)
    have hcount' : x.count ')' = 0 := List.count_eq_zero.mpr fun h => hclose (hx.subset h)
    rw [openAfter, hcount, hcount']
    rfl
  exact ⟨hzero s List.prefix_rfl, fun x hx => Int.le_of_eq (hzero x hx).symm⟩

/-- The beginning of a text of two parts lies in the first part or goes beyond it. -/
theorem prefix_append_cases {x s t : List Char} (h : x <+: s ++ t) :
    x <+: s ∨ ∃ y, y <+: t ∧ x = s ++ y := by
  rcases List.prefix_or_prefix_of_prefix h (List.prefix_append s t) with hx | ⟨y, rfl⟩
  · exact Or.inl hx
  · exact Or.inr ⟨y, (List.prefix_append_right_inj s).mp h, rfl⟩

theorem Balanced.append {s t : List Char} (hs : Balanced s) (ht : Balanced t) :
    Balanced (s ++ t) where
  total := by
    have hs := hs.total
    have ht := ht.total
    rw [openAfter_append]
    omega
  front := by
    intro x hx
    rcases prefix_append_cases hx with hx | ⟨y, hy, rfl⟩
    · exact hs.front x hx
    · have hs := hs.total
      have hy := ht.front y hy
      rw [openAfter_append]
      omega

theorem Balanced.group {s : List Char} (hs : Balanced s) : Balanced ('(' :: (s ++ [')'])) where
  total := by
    have hclose : openAfter [')'] = -1 := by decide
    rw [openAfter_open, openAfter_append, hs.total, hclose]
    rfl
  front := by
    intro x hx
    rcases List.prefix_cons_iff.mp hx with rfl | ⟨z, rfl, hz⟩
    · decide
    rw [openAfter_open]
    rcases prefix_append_cases hz with hz | ⟨y, hy, rfl⟩
    · have hz := hs.front z hz
      omega
    · -- One parenthesis is open, and at most one is closed.
      have hlength : y.length ≤ 1 := hy.length_le
      have hy := neg_length_le_openAfter y
      rw [openAfter_append, hs.total]
      omega

/-- Balanced texts with bars between them are balanced. -/
theorem balanced_intercalate {parts : List (List Char)} (h : ∀ p ∈ parts, Balanced p) :
    Balanced (" | ".toList.intercalate parts) := by
  have hbar : Balanced " | ".toList := balanced_of_not_mem (by decide) (by decide)
  induction parts with
  | nil => exact balanced_of_not_mem (by simp) (by simp)
  | cons p rest ih =>
    have hp := h p List.mem_cons_self
    have hrest := ih fun q hq => h q (List.mem_cons_of_mem p hq)
    cases rest with
    | nil =>
      rw [List.intercalate_singleton]
      exact hp
    | cons q rest =>
      rw [List.intercalate_cons_cons]
      exact (hp.append hbar).append hrest

/-! ### Alternatives in a text -/

/-- The text shows several alternatives: a bar stands between two of them, outside of all
parentheses. -/
def ShowsSeveral (s : List Char) : Prop :=
  ∃ front back, s = front ++ " | ".toList ++ back ∧ openAfter front = 0

theorem not_showsSeveral_of_not_mem {s : List Char} (h : '|' ∉ s) : ¬ShowsSeveral s := by
  rintro ⟨front, back, rfl, -⟩
  exact h (by simp)

/-- A bar outside of all parentheses stays outside when a text is put behind. -/
theorem ShowsSeveral.append {s : List Char} (h : ShowsSeveral s) (t : List Char) :
    ShowsSeveral (s ++ t) := by
  obtain ⟨front, back, rfl, hfront⟩ := h
  exact ⟨front, back ++ t, by rw [List.append_assoc, List.append_assoc], hfront⟩

/-- A bar ends with a space, so a text without spaces adds no alternatives to the one in front. -/
theorem ShowsSeveral.of_append {s t : List Char} (h : ShowsSeveral (s ++ t)) (hspace : ' ' ∉ t) :
    ShowsSeveral s := by
  obtain ⟨front, back, heq, hfront⟩ := h
  rcases List.append_eq_append_iff.mp heq with ⟨rest, hbars, hrest⟩ | ⟨rest, hs, -⟩
  · -- Either the bar ends with the first text, or its last space lies in the second.
    rcases List.eq_nil_or_concat rest with rfl | ⟨begin, c, rfl⟩
    · exact ⟨front, [], by rw [hbars, List.append_nil, List.append_nil], hfront⟩
    · rw [List.concat_eq_append, ← List.append_assoc] at hbars
      have hc : c = ' ' := by
        have hlast := congrArg List.getLast? hbars
        simpa using hlast.symm
      rw [hrest, hc] at hspace
      exact absurd (by simp) hspace
  · exact ⟨front, rest, hs, hfront⟩

/-- Parentheses around a text hide its alternatives. -/
theorem Balanced.not_showsSeveral {s : List Char} (hs : Balanced s) {t : List Char}
    (ht : '|' ∉ t) : ¬ShowsSeveral ('(' :: (s ++ t)) := by
  rintro ⟨front, back, heq, hfront⟩
  cases front with
  | nil => simp at heq
  | cons c front =>
    rw [List.cons_append, List.cons_append, List.append_assoc] at heq
    obtain ⟨rfl, htail⟩ := List.cons.inj heq
    rw [openAfter_open] at hfront
    rcases List.append_eq_append_iff.mp htail with ⟨rest, rfl, hrest⟩ | ⟨rest, rfl, -⟩
    · apply ht
      rw [hrest]
      simp
    · -- The bar stands inside, where the first parenthesis is still open.
      have hinside := hs.front front (List.prefix_append front rest)
      omega

/-- Two or more texts with bars between them show several alternatives. -/
theorem showsSeveral_intercalate {p : List Char} (hp : Balanced p) {parts : List (List Char)}
    (hne : parts ≠ []) : ShowsSeveral (" | ".toList.intercalate (p :: parts)) := by
  refine ⟨p, " | ".toList.intercalate parts, ?_, hp.total⟩
  have hsplit := intercalate_bar_cons p hne []
  rw [List.append_nil, List.append_nil] at hsplit
  rw [hsplit, List.append_assoc]
  rfl

/-! ### Texts of expressions -/

def IsFree (s : String) : Prop := ∀ c ∈ s.toList, c ∉ ['|', '(', ')']

structure Free (t : TypeExpr) : Prop where
  names : ∀ name, Part (.named name) t → IsFree name
  literals : ∀ values, Part (.literals values) t → ∀ value ∈ values, IsFree value

theorem IsFree.balanced {s : String} (h : IsFree s) : Balanced s.toList :=
  balanced_of_not_mem (fun hc => h _ hc (by decide)) (fun hc => h _ hc (by decide))

theorem IsFree.bar_not_mem {s : String} (h : IsFree s) : '|' ∉ s.toList :=
  fun hc => h _ hc (by decide)

theorem IsFree.literalText {s : String} (h : IsFree s) : IsFree (literalText s) := by
  intro c hc
  rw [toList_literalText, List.cons_append, List.mem_cons, List.mem_append] at hc
  rcases hc with rfl | hc | hc
  · decide
  · exact h c hc
  · obtain rfl := List.mem_singleton.mp hc
    decide

section

variable {t : TypeExpr} {ts : List TypeExpr}

theorem free_named {name : String} (h : IsFree name) : (named name).Free where
  names _ hpart := by
    cases hpart
    exact h
  literals _ hpart := nomatch hpart

theorem free_literals {values : List String} (h : ∀ value ∈ values, IsFree value) :
    (TypeExpr.literals values).Free where
  names _ hpart := nomatch hpart
  literals _ hpart := by
    cases hpart
    exact h

theorem Free.array (h : t.Free) : (TypeExpr.array t).Free where
  names name hpart := by
    cases hpart with
    | element hpart => exact h.names name hpart
  literals values hpart := by
    cases hpart with
    | element hpart => exact h.literals values hpart

theorem free_union (h : ∀ t ∈ ts, t.Free) : (union ts).Free where
  names name hpart := by
    cases hpart with
    | member ht hpart => exact (h _ ht).names name hpart
  literals values hpart := by
    cases hpart with
    | member ht hpart => exact (h _ ht).literals values hpart

theorem Free.element (h : (TypeExpr.array t).Free) : t.Free where
  names name hpart := h.names name (.element hpart)
  literals values hpart := h.literals values (.element hpart)

theorem Free.member (h : (union ts).Free) (ht : t ∈ ts) : t.Free where
  names name hpart := h.names name (.member ht hpart)
  literals values hpart := h.literals values (.member ht hpart)

theorem text_array_enclosed (h : t.needsParentheses = true) :
    (array t).text = "(" ++ t.text ++ ")[]" := by
  rw [text, if_pos h]

theorem text_array_bare (h : t.needsParentheses = false) : (array t).text = t.text ++ "[]" := by
  rw [text, h]
  rfl

theorem toList_text_array (h : t.needsParentheses = true) :
    (array t).text.toList = '(' :: (t.text.toList ++ [')']) ++ ['[', ']'] := by
  rw [text_array_enclosed h]
  simp

theorem toList_text_array_bare (h : t.needsParentheses = false) :
    (array t).text.toList = t.text.toList ++ ['[', ']'] := by
  rw [text_array_bare h]
  simp

theorem toList_text_union (ts : List TypeExpr) :
    (union ts).text.toList = " | ".toList.intercalate (ts.map fun t => t.text.toList) := by
  rw [text, texts_eq_map, String.toList_intercalate, List.map_map]
  rfl

theorem text_union_singleton (t : TypeExpr) : (union [t]).text = t.text := by
  rw [text, texts_eq_map]
  exact String.intercalate_singleton

/-- The text of an expression closes every parenthesis that it opens. -/
theorem Free.balanced (h : t.Free) : Balanced t.text.toList := by
  induction t using induction_on_parts with
  | named name => exact (h.names name .whole).balanced
  | array t ih =>
    have hbrackets : Balanced ['[', ']'] := balanced_of_not_mem (by decide) (by decide)
    cases hneeds : t.needsParentheses with
    | true =>
      rw [toList_text_array hneeds]
      exact (ih h.element).group.append hbrackets
    | false =>
      rw [toList_text_array_bare hneeds]
      exact (ih h.element).append hbrackets
  | union ts ih =>
    rw [toList_text_union]
    apply balanced_intercalate
    intro p hp
    obtain ⟨t, ht, rfl⟩ := List.mem_map.mp hp
    exact ih t ht (h.member ht)
  | literals values =>
    rw [toList_text_literals_eq_intercalate]
    apply balanced_intercalate
    intro p hp
    obtain ⟨value, hvalue, rfl⟩ := List.mem_map.mp hp
    exact (h.literals values .whole value hvalue).literalText.balanced

/-- The alternatives that a text shows are those of a member at the end of a chain of unions of one
member, with or without brackets in between. -/
inductive HidesAlternatives : TypeExpr → Prop
  | wrapped {t : TypeExpr} (h : t.needsParentheses = true) : HidesAlternatives (.union [t])
  | member {t : TypeExpr} (h : HidesAlternatives t) : HidesAlternatives (.union [t])
  | element {t : TypeExpr} (h : HidesAlternatives t) : HidesAlternatives (.array t)

/-- No parentheses are put around a union of one member, whatever this one shows. -/
theorem HidesAlternatives.needsParentheses_eq_false (h : t.HidesAlternatives) :
    t.needsParentheses = false := by
  cases h <;> rfl

/-- Parentheses are put only around a text that shows several alternatives. -/
theorem showsSeveral_of_needsParentheses (h : t.Free) (hneeds : t.needsParentheses = true) :
    ShowsSeveral t.text.toList := by
  cases t with
  | named name | array t => cases hneeds
  | union ts =>
    rw [toList_text_union]
    rcases ts with _ | ⟨t, _ | ⟨u, rest⟩⟩
    · cases hneeds
    · cases hneeds
    · exact showsSeveral_intercalate (h.member List.mem_cons_self).balanced (List.cons_ne_nil _ _)
  | literals values =>
    rw [toList_text_literals_eq_intercalate]
    rcases values with _ | ⟨value, _ | ⟨other, rest⟩⟩
    · cases hneeds
    · cases hneeds
    · have hvalue := h.literals _ .whole value List.mem_cons_self
      exact showsSeveral_intercalate hvalue.literalText.balanced (List.cons_ne_nil _ _)

/-- Alternatives behind unions of one member are shown all the same. -/
theorem HidesAlternatives.showsSeveral (hhides : t.HidesAlternatives) (h : t.Free) :
    ShowsSeveral t.text.toList := by
  induction hhides with
  | wrapped hneeds =>
    rw [text_union_singleton]
    exact showsSeveral_of_needsParentheses (h.member List.mem_cons_self) hneeds
  | member _ ih =>
    rw [text_union_singleton]
    exact ih (h.member List.mem_cons_self)
  | element hhides ih =>
    rw [toList_text_array_bare hhides.needsParentheses_eq_false]
    exact (ih h.element).append _

/-- A text shows several alternatives because its node has several members, or because the
expression hides them. -/
theorem Free.needsParentheses_or_hides (h : t.Free) (hseveral : ShowsSeveral t.text.toList) :
    t.needsParentheses = true ∨ t.HidesAlternatives := by
  induction t using induction_on_parts with
  | named name =>
    have hbar := (h.names name .whole).bar_not_mem
    exact absurd hseveral (not_showsSeveral_of_not_mem hbar)
  | array t ih =>
    refine Or.inr ?_
    cases hneeds : t.needsParentheses with
    | true =>
      rw [toList_text_array hneeds, List.cons_append, List.append_assoc] at hseveral
      exact absurd hseveral (h.element.balanced.not_showsSeveral (by decide))
    | false =>
      -- Brackets alone add no alternatives, so the element shows as many without saying so.
      rw [toList_text_array_bare hneeds] at hseveral
      rcases ih h.element (hseveral.of_append (by decide)) with hmember | hhides
      · rw [hneeds] at hmember
        cases hmember
      · exact .element hhides
  | union ts ih =>
    -- With one member the text is that of the member, and the node does not say what it shows.
    rcases ts with _ | ⟨t, _ | ⟨u, rest⟩⟩
    · exact absurd hseveral (not_showsSeveral_of_not_mem (by decide))
    · rw [text_union_singleton] at hseveral
      refine Or.inr ?_
      rcases ih t List.mem_cons_self (h.member List.mem_cons_self) hseveral with hneeds | hhides
      · exact .wrapped hneeds
      · exact .member hhides
    · exact Or.inl (by simp [needsParentheses])
  | literals values =>
    rcases values with _ | ⟨value, _ | ⟨other, rest⟩⟩
    · exact absurd hseveral (not_showsSeveral_of_not_mem (by decide))
    · have hbar := (h.literals _ .whole value List.mem_cons_self).literalText.bar_not_mem
      rw [text_literal] at hseveral
      exact absurd hseveral (not_showsSeveral_of_not_mem hbar)
    · exact Or.inl (by simp [needsParentheses])

/-- Somewhere in the expression stands the union of one member. -/
theorem HidesAlternatives.exists_part (h : t.HidesAlternatives) :
    ∃ u, u.needsParentheses = true ∧ Part (.union [u]) t := by
  induction h with
  | @wrapped t hneeds => exact ⟨t, hneeds, .whole⟩
  | member _ ih =>
    obtain ⟨u, hu, hpart⟩ := ih
    exact ⟨u, hu, .member List.mem_cons_self hpart⟩
  | element _ ih =>
    obtain ⟨u, hu, hpart⟩ := ih
    exact ⟨u, hu, .element hpart⟩

/-- The constructors make no union of one member, so they hide nothing. -/
theorem Built.not_hidesAlternatives (h : t.Built) : ¬t.HidesAlternatives := by
  intro hhides
  obtain ⟨u, -, hpart⟩ := hhides.exists_part
  exact absurd rfl (h.flat [u] hpart).1

end

/-- Parentheses are put around a text of several alternatives, and then the brackets, just where the
expression does not hide them. Where it does, the brackets stand behind the last alternative alone,
and a union of one member that has several itself is part of the expression. The constructors make
none, so what they make is always enclosed. A text of one alternative needs no parentheses and gets
none. -/
theorem array_encloses_iff (t : TypeExpr) (h : t.Free) :
    (ShowsSeveral t.text.toList →
      ((array t).text = "(" ++ t.text ++ ")[]" ↔ ¬t.HidesAlternatives)) ∧
    (t.HidesAlternatives → ShowsSeveral t.text.toList ∧ (array t).text = t.text ++ "[]" ∧
      ∃ u, u.needsParentheses = true ∧ Part (.union [u]) t) ∧
    (t.Built → ShowsSeveral t.text.toList → (array t).text = "(" ++ t.text ++ ")[]") ∧
    (¬ShowsSeveral t.text.toList → (array t).text = t.text ++ "[]") := by
  have henclosed : ShowsSeveral t.text.toList → ¬t.HidesAlternatives →
      (array t).text = "(" ++ t.text ++ ")[]" := by
    intro hseveral hhides
    exact text_array_enclosed ((h.needsParentheses_or_hides hseveral).resolve_right hhides)
  have hbare : t.HidesAlternatives → (array t).text = t.text ++ "[]" :=
    fun hhides => text_array_bare hhides.needsParentheses_eq_false
  refine ⟨fun hseveral => ⟨fun heq hhides => ?_, henclosed hseveral⟩,
    fun hhides => ⟨hhides.showsSeveral h, hbare hhides, hhides.exists_part⟩,
    fun hbuilt hseveral => henclosed hseveral hbuilt.not_hidesAlternatives, fun hone => ?_⟩
  · -- With parentheses the text is longer than without.
    have hlength := congrArg String.length ((hbare hhides).symm.trans heq)
    have hbrackets : "[]".length = 2 ∧ "(".length = 1 ∧ ")[]".length = 3 := by decide
    rw [String.length_append, String.length_append, String.length_append] at hlength
    omega
  · have hnone : t.needsParentheses ≠ true := mt (showsSeveral_of_needsParentheses h) hone
    exact text_array_bare (Bool.eq_false_iff.mpr hnone)

def statesOrParts : TypeExpr :=
  union [literals ["draft", "live"], array (union [named "Hero", named "Quote"])]

theorem free_statesOrParts : statesOrParts.Free := by
  have hfree : ∀ s ∈ ["draft", "live", "Hero", "Quote"], IsFree s := by simp [IsFree]
  have hstates : (literals ["draft", "live"]).Free := free_literals (by simp [hfree])
  have hparts : (union [named "Hero", named "Quote"]).Free :=
    free_union (by simp [free_named, hfree])
  exact free_union (by simp [hstates, hparts.array])

theorem built_statesOrParts : statesOrParts.Built := by
  have hparts : (unionOf [named "Hero", named "Quote"]).Built :=
    .unionOf (by simp [Built.named])
  have hall : (unionOf [literals ["draft", "live"],
      array (unionOf [named "Hero", named "Quote"])]).Built :=
    .unionOf (by simp [Built.literals, hparts.array])
  exact hall

/-- A union of literals and of an array is enclosed in parentheses before brackets follow it. -/
theorem array_encloses_iff_states :
    statesOrParts.Free ∧ ShowsSeveral statesOrParts.text.toList ∧ statesOrParts.Built ∧
    ¬statesOrParts.HidesAlternatives ∧
    (array statesOrParts).text = "('draft' | 'live' | (Hero | Quote)[])[]" := by
  have hseveral : ShowsSeveral statesOrParts.text.toList :=
    ⟨"'draft'".toList, "'live' | (Hero | Quote)[]".toList, by decide +kernel, by decide +kernel⟩
  obtain ⟨hiff, -, hbuilt, -⟩ := array_encloses_iff statesOrParts free_statesOrParts
  have henclosed := hbuilt built_statesOrParts hseveral
  refine ⟨free_statesOrParts, hseveral, built_statesOrParts, (hiff hseveral).mp henclosed, ?_⟩
  have htext : statesOrParts.text = "'draft' | 'live' | (Hero | Quote)[]" := by decide +kernel
  rw [henclosed, htext]
  decide +kernel

/-- A union of one member has the text of the member, and none of the parentheses around it. The
brackets then belong to the last alternative. -/
theorem brackets_behind_one_member :
    (union [union [named "A", named "B"]]).Free ∧
    ShowsSeveral (union [union [named "A", named "B"]]).text.toList ∧
    (array (union [union [named "A", named "B"]])).text = "A | B[]" ∧
    (array (union [union [named "A", named "B"]])).text ≠
      "(" ++ (union [union [named "A", named "B"]]).text ++ ")[]" ∧
    ofText? "A | B[]" = some (union [named "A", array (named "B")]) := by
  have hfree : ∀ s ∈ ["A", "B"], IsFree s := by simp [IsFree]
  have hinner : (union [named "A", named "B"]).Free := free_union (by simp [free_named, hfree])
  refine ⟨free_union (by simp [hinner]), ?_, ?_, ?_, ?_⟩
  · exact ⟨['A'], ['B'], by decide +kernel, by decide⟩
  · decide +kernel
  · decide +kernel
  · rfl

end TypeExpr

end ContentTypes
