import ContentTypes.Proofs.TypeGrammar
import ContentTypes.Proofs.Unions

/-! The text of an expression reads back to the expression, with every literal a type of its own.
The grammar cannot tell a set of literals from the literals as alternatives, and that is all it
cannot tell. Parentheses are put around what shows several alternatives and around nothing else.
Whether an expression does is decided by the number of its members alone, which is right because no
union has exactly one member and each member shows something. -/

namespace ContentTypes

namespace TypeExpr

/-! ### Literals apart -/

mutual

def choices : TypeExpr → List TypeExpr
  | .named name => [.named name]
  | .array t => [.array (oneOf t.choices)]
  | .union ts => choicesOf ts
  | .literals values => values.map fun value => .literals [value]

def choicesOf : List TypeExpr → List TypeExpr
  | [] => []
  | t :: rest => t.choices ++ choicesOf rest

end

theorem choicesOf_eq_flatMap (ts : List TypeExpr) : choicesOf ts = ts.flatMap choices := by
  induction ts with
  | nil => rfl
  | cons t rest ih => rw [choicesOf, ih, List.flatMap_cons]

def separate (t : TypeExpr) : TypeExpr := oneOf t.choices

/-- A name or a literal keeps to its part of the text, and a union or a set of literals has
something to show. -/
def Clear : TypeExpr → Prop
  | .named name => IsName name.toList
  | .array _ => True
  | .union ts => ts ≠ []
  | .literals values => values ≠ [] ∧ ∀ value ∈ values, '\'' ∉ value.toList

def Legible (t : TypeExpr) : Prop := ∀ u, Part u t → u.Clear

section

variable {t u : TypeExpr} {ts : List TypeExpr}

theorem legible_named {name : String} (h : IsName name.toList) : (named name).Legible := by
  intro u hpart
  cases hpart
  exact h

theorem legible_literals {values : List String} (hne : values ≠ [])
    (h : ∀ value ∈ values, '\'' ∉ value.toList) : (literals values).Legible := by
  intro u hpart
  cases hpart
  exact ⟨hne, h⟩

theorem Legible.array (h : t.Legible) : (TypeExpr.array t).Legible := by
  intro u hpart
  cases hpart with
  | whole => exact trivial
  | element hpart => exact h u hpart

theorem legible_union (hne : ts ≠ []) (h : ∀ t ∈ ts, t.Legible) : (union ts).Legible := by
  intro u hpart
  cases hpart with
  | whole => exact hne
  | member ht hpart => exact h _ ht u hpart

theorem Legible.element (h : (TypeExpr.array t).Legible) : t.Legible :=
  fun u hpart => h u (.element hpart)

theorem Legible.member (h : (union ts).Legible) (ht : t ∈ ts) : t.Legible :=
  fun u hpart => h u (.member ht hpart)

theorem oneOf_eq_union (h : ts.length ≠ 1) : oneOf ts = union ts := by
  unfold oneOf
  split
  · exact absurd rfl h
  · rfl

/-- Alternatives are written with bars between them. -/
theorem text_oneOf (ts : List TypeExpr) : (oneOf ts).text = " | ".intercalate (ts.map text) := by
  unfold oneOf
  split
  · exact String.intercalate_singleton.symm
  · rw [text, texts_eq_map]

theorem Flat.oneOf_spread (h : t.Flat) : oneOf t.spread = t := by
  cases t with
  | union ts => exact oneOf_eq_union (h ts .whole).1
  | named _ | array _ | literals _ => rfl

/-- Where every set has one literal, there is nothing to take apart. -/
theorem Flat.choices_eq_spread (h : t.Flat)
    (hone : ∀ values, Part (.literals values) t → values.length = 1) : t.choices = t.spread := by
  induction t using induction_on_parts with
  | named name => rfl
  | array t ih =>
    have hchoices := ih h.element fun values hpart => hone values (.element hpart)
    rw [choices, hchoices, h.element.oneOf_spread]
    rfl
  | union ts ih =>
    rw [choices, choicesOf_eq_flatMap]
    apply flatMap_eq_self
    intro t ht
    rw [ih t ht (h.member ht) fun values hpart => hone values (.member ht hpart)]
    exact spread_of_isUnion_eq_false ((h ts .whole).2 t ht)
  | literals values =>
    obtain ⟨value, rfl⟩ := List.length_eq_one_iff.mp (hone values .whole)
    rfl

/-- A flat expression whose sets have one literal each has nothing to separate. -/
theorem Flat.separate_eq_self (h : t.Flat)
    (hone : ∀ values, Part (.literals values) t → values.length = 1) : t.separate = t := by
  rw [separate, h.choices_eq_spread hone, h.oneOf_spread]

/-! ### What a text shows -/

/-- The text shows the alternatives with bars between them, each of them spelled as the grammar asks
for. Parentheses are used where there are several. -/
structure Spelled (t : TypeExpr) : Prop where
  ne_nil : t.choices ≠ []
  shown : t.text = " | ".intercalate (t.choices.map text)
  parentheses : t.needsParentheses = true ↔ 2 ≤ t.choices.length
  alternative : ∀ a ∈ t.choices, a.needsParentheses = false ∧ Denotes .alternative a.text.toList a

theorem spelled_named {name : String} (h : IsName name.toList) : (named name).Spelled where
  ne_nil := List.cons_ne_nil _ _
  shown := String.intercalate_singleton.symm
  parentheses := by simp [needsParentheses, choices]
  alternative := by
    intro a ha
    obtain rfl := List.mem_singleton.mp ha
    have hname := Denotes.name h
    rw [String.ofList_toList] at hname
    exact ⟨rfl, .atom hname⟩

theorem spelled_literals {values : List String} (hne : values ≠ [])
    (h : ∀ value ∈ values, '\'' ∉ value.toList) : (literals values).Spelled where
  ne_nil := by
    rw [choices]
    exact mt List.map_eq_nil_iff.mp hne
  shown := by
    have htexts : (literals values).choices.map text = values.map literalText := by
      rw [choices, List.map_map]
      exact List.map_congr_left fun value _ => text_literal value
    rw [htexts, text]
  parentheses := by simp [needsParentheses, choices, Nat.succ_le_iff]
  alternative := by
    intro a ha
    obtain ⟨value, hvalue, rfl⟩ := List.mem_map.mp ha
    have hliteral := Denotes.literal (h value hvalue)
    rw [String.ofList_toList] at hliteral
    rw [text_literal, toList_literalText]
    exact ⟨rfl, .atom hliteral⟩

/-- The text does not show which literals stand in one set. -/
theorem Spelled.text_separate (h : t.Spelled) : t.separate.text = t.text := by
  rw [separate, text_oneOf, ← h.shown]

/-- Either there is one alternative and no need for parentheses, or there are several and a need. -/
theorem Spelled.one_or_several (h : t.Spelled) :
    (t.separate ∈ t.choices ∧ t.needsParentheses = false) ∨
      (t.separate.needsParentheses = true ∧ t.needsParentheses = true) := by
  rcases Nat.lt_or_ge t.choices.length 2 with hfew | hmany
  · have hpos := List.length_pos_iff.mpr h.ne_nil
    obtain ⟨a, ha⟩ := List.length_eq_one_iff.mp (Nat.le_antisymm (Nat.lt_succ_iff.mp hfew) hpos)
    have hnone : t.needsParentheses ≠ true := fun hp => absurd (h.parentheses.mp hp) (by omega)
    refine Or.inl ⟨?_, Bool.eq_false_iff.mpr hnone⟩
    rw [separate, ha]
    exact List.mem_singleton_self a
  · refine Or.inr ⟨?_, h.parentheses.mpr hmany⟩
    rw [separate, oneOf_eq_union (by omega), needsParentheses]
    exact decide_eq_true hmany

theorem Spelled.needsParentheses_separate (h : t.Spelled) :
    t.separate.needsParentheses = t.needsParentheses := by
  rcases h.one_or_several with ⟨hone, hnone⟩ | ⟨hseparate, hneeds⟩
  · rw [hnone]
    exact (h.alternative _ hone).1
  · rw [hseparate, hneeds]

/-- The expression that the text is read as. -/
theorem Spelled.denotes (h : t.Spelled) : Denotes .type t.text.toList t.separate := by
  have hparts : ∀ p ∈ t.choices.map fun a => (a.text.toList, a), Denotes .alternative p.1 p.2 := by
    intro p hp
    obtain ⟨a, ha, rfl⟩ := List.mem_map.mp hp
    exact (h.alternative a ha).2
  have hne : (t.choices.map fun a => (a.text.toList, a)) ≠ [] :=
    mt List.map_eq_nil_iff.mp h.ne_nil
  have htype := Denotes.type hne hparts
  have htexts : (t.choices.map fun a => (a.text.toList, a)).map (·.1) =
      (t.choices.map text).map String.toList := by
    rw [List.map_map, List.map_map]
    rfl
  have hchoices : (t.choices.map fun a => (a.text.toList, a)).map (·.2) = t.choices := by
    rw [List.map_map]
    exact List.map_id _
  rw [htexts, hchoices, ← String.toList_intercalate, ← h.shown] at htype
  exact htype

/-- The parentheses around an element are there when the grammar needs them. -/
theorem Spelled.denotes_array (h : t.Spelled) :
    Denotes .alternative (array t).text.toList (.array t.separate) := by
  rw [text]
  rcases h.one_or_several with ⟨hone, hnone⟩ | ⟨-, hneeds⟩
  · have halternative := (h.alternative _ hone).2
    rw [h.text_separate] at halternative
    rw [hnone, if_neg Bool.false_ne_true, String.toList_append]
    exact halternative.brackets
  · have hgroup := (Denotes.atom (.group h.denotes)).brackets
    rw [hneeds, if_pos rfl, String.toList_append, String.toList_append]
    simpa using hgroup

theorem choices_array (t : TypeExpr) : (array t).choices = [.array t.separate] := by
  rw [choices, separate]

theorem Spelled.text_array_separate (h : t.Spelled) :
    (array t.separate).text = (array t).text := by
  rw [text, text, h.text_separate, h.needsParentheses_separate]

theorem Spelled.array (h : t.Spelled) : (TypeExpr.array t).Spelled where
  ne_nil := List.cons_ne_nil _ _
  shown := by
    rw [choices_array, List.map_singleton, String.intercalate_singleton, h.text_array_separate]
  parentheses := by simp [needsParentheses, choices]
  alternative := by
    intro a ha
    rw [choices_array] at ha
    obtain rfl := List.mem_singleton.mp ha
    rw [h.text_array_separate]
    exact ⟨rfl, h.denotes_array⟩

theorem intercalate_flatMap (s : String) {f : TypeExpr → List String} (h : ∀ t ∈ ts, f t ≠ []) :
    s.intercalate (ts.flatMap f) = s.intercalate (ts.map fun t => s.intercalate (f t)) := by
  induction ts with
  | nil => rfl
  | cons t rest ih =>
    obtain ⟨ht, hrest⟩ := List.forall_mem_cons.mp h
    rw [List.flatMap_cons, List.map_cons]
    cases rest with
    | nil => simp
    | cons u more =>
      have hne : (u :: more).flatMap f ≠ [] := by
        rw [List.flatMap_cons]
        exact List.append_ne_nil_of_left_ne_nil (hrest u List.mem_cons_self) _
      rw [String.intercalate_append_of_ne_nil ht hne, ih hrest, List.map_cons,
        String.intercalate_cons_cons]

theorem length_le_length_flatMap {f : TypeExpr → List TypeExpr} (h : ∀ t ∈ ts, f t ≠ []) :
    ts.length ≤ (ts.flatMap f).length := by
  induction ts with
  | nil => exact Nat.le_refl _
  | cons t rest ih =>
    obtain ⟨ht, hrest⟩ := List.forall_mem_cons.mp h
    have hpos := List.length_pos_iff.mpr ht
    have hle := ih hrest
    rw [List.flatMap_cons, List.length_append, List.length_cons]
    omega

/-- A union shows what its members show. It has several of them, so it shows several
alternatives. -/
theorem spelled_union (htwo : 2 ≤ ts.length) (h : ∀ t ∈ ts, t.Spelled) : (union ts).Spelled := by
  have hchoices : (union ts).choices = ts.flatMap choices := by
    rw [choices, choicesOf_eq_flatMap]
  have hlength := length_le_length_flatMap fun t ht => (h t ht).ne_nil
  constructor
  case ne_nil =>
    rw [hchoices]
    apply List.ne_nil_of_length_pos
    omega
  case shown =>
    have htexts : ts.map text = ts.map fun t => " | ".intercalate (t.choices.map text) :=
      List.map_congr_left fun t ht => (h t ht).shown
    have hne : ∀ t ∈ ts, t.choices.map text ≠ [] :=
      fun t ht => mt List.map_eq_nil_iff.mp (h t ht).ne_nil
    rw [text, texts_eq_map, htexts, hchoices, List.map_flatMap, intercalate_flatMap " | " hne]
  case parentheses =>
    rw [needsParentheses, hchoices, decide_eq_true_iff]
    omega
  case alternative =>
    intro a ha
    rw [hchoices] at ha
    obtain ⟨t, ht, hat⟩ := List.mem_flatMap.mp ha
    exact (h t ht).alternative a hat

/-- The text of a legible flat expression is spelled as the grammar asks for. -/
theorem Flat.spelled (h : t.Flat) (hl : t.Legible) : t.Spelled := by
  induction t using induction_on_parts with
  | named name => exact spelled_named (hl _ .whole)
  | array t ih => exact (ih h.element hl.element).array
  | union ts ih =>
    -- A union that is not empty and has not one member has several.
    have hpos := List.length_pos_iff.mpr (hl _ .whole)
    have hone := (h ts .whole).1
    exact spelled_union (by omega) fun t ht => ih t ht (h.member ht) (hl.member ht)
  | literals values =>
    obtain ⟨hne, hquote⟩ := hl _ .whole
    exact spelled_literals hne hquote

/-! ### Reading back -/

/-- The text of a legible expression reads back to the expression with its literals apart, and to
nothing else. Expressions with the same text are therefore the same, up to literals that stand in
one set or apart. -/
theorem text_reads_back (t u : TypeExpr) (ht : t.Built) (hu : u.Built) (htl : t.Legible)
    (hul : u.Legible) :
    ofText? t.text = some t.separate ∧
    (∀ v, Denotes .type t.text.toList v ↔ v = t.separate) ∧
    t.separate.text = t.text ∧
    ((∀ values, Part (.literals values) t → values.length = 1) → t.separate = t) ∧
    (t.text = u.text ↔ t.separate = u.separate) := by
  have hts := ht.flat.spelled htl
  have hus := hu.flat.spelled hul
  have htread := ofText?_eq_some_iff.mpr hts.denotes
  have huread := ofText?_eq_some_iff.mpr hus.denotes
  refine ⟨htread, ?_, hts.text_separate, ht.flat.separate_eq_self, ?_⟩
  · intro v
    rw [← ofText?_eq_some_iff, htread]
    exact ⟨fun h => (Option.some.inj h).symm, fun h => congrArg some h.symm⟩
  · constructor
    · intro h
      rw [h, huread] at htread
      exact (Option.some.inj htread).symm
    · intro h
      rw [← hts.text_separate, h, hus.text_separate]

/-- A set of literals inside brackets, and the same literals one by one. -/
theorem text_reads_back_states :
    ofText? "('draft' | 'live' | null)[]" =
      some (array (union [literals ["draft"], literals ["live"], null])) ∧
    (array (union [literals ["draft", "live"], null])).text =
      (array (union [literals ["draft"], literals ["live"], null])).text := by
  have hnull : (named "null").Legible := legible_named ⟨by decide, by simp [marks]⟩
  have hset : ∀ values ∈ [["draft", "live"], ["draft"], ["live"]], (literals values).Legible := by
    intro values hvalues
    have hquote : ∀ values ∈ [["draft", "live"], ["draft"], ["live"]],
        values ≠ [] ∧ ∀ value ∈ values, '\'' ∉ value.toList := by decide
    exact legible_literals (hquote values hvalues).1 (hquote values hvalues).2
  have htb : (unionOf [literals ["draft", "live"], null]).Built :=
    .unionOf (by simp [Built.literals, Built.null])
  have hub : (unionOf [literals ["draft"], literals ["live"], null]).Built :=
    .unionOf (by simp [Built.literals, Built.null])
  have htl : (union [literals ["draft", "live"], null]).Legible :=
    legible_union (by simp) (by simp [hset, null, hnull])
  have hul : (union [literals ["draft"], literals ["live"], null]).Legible :=
    legible_union (by simp) (by simp [hset, null, hnull])
  obtain ⟨hread, -, -, -, htexts⟩ :=
    text_reads_back (array (union [literals ["draft", "live"], null]))
      (array (union [literals ["draft"], literals ["live"], null])) htb.array hub.array htl.array
      hul.array
  refine ⟨?_, htexts.mpr rfl⟩
  have htext : (array (union [literals ["draft", "live"], null])).text =
      "('draft' | 'live' | null)[]" := by decide +kernel
  rw [htext] at hread
  exact hread

end

end TypeExpr

end ContentTypes
