import ContentTypes.TypeExpr
import Mathlib.Data.List.Basic

/-! Unions are kept flat. The constructor spreads out one level of unions only, and that is enough
because what it is given is flat already: no union in an expression has a union for a member, and
none has exactly one member. So it does not matter how the members of a union are grouped. -/

namespace ContentTypes

namespace TypeExpr

/-! ### Alternatives -/

theorem flatMap_eq_self {f : TypeExpr → List TypeExpr} {ts : List TypeExpr}
    (h : ∀ t ∈ ts, f t = [t]) : ts.flatMap f = ts := by
  calc
    ts.flatMap f = ts.flatMap fun t => [t] := List.flatMap_congr h
    _ = ts := List.flatMap_singleton' ts

/-- A bar stands behind a part that others follow. -/
theorem intercalate_bar_cons (part : List Char) {parts : List (List Char)} (hne : parts ≠ [])
    (rest : List Char) : " | ".toList.intercalate (part :: parts) ++ rest =
      part ++ ' ' :: '|' :: ' ' :: (" | ".toList.intercalate parts ++ rest) := by
  obtain ⟨next, more, rfl⟩ := List.exists_cons_of_ne_nil hne
  rw [List.intercalate_cons_cons]
  simp

/-- A text holds each of the parts that bars separate in it, and no more of them than characters
and one. -/
theorem length_intercalate_bars (parts : List (List Char)) :
    (∀ p ∈ parts, p.length ≤ (" | ".toList.intercalate parts).length) ∧
      parts.length ≤ (" | ".toList.intercalate parts).length + 1 := by
  induction parts with
  | nil => simp
  | cons p rest ih =>
    cases rest with
    | nil => simp
    | cons q rest =>
      have hlength : (" | ".toList.intercalate (p :: q :: rest)).length =
          p.length + 3 + (" | ".toList.intercalate (q :: rest)).length := by
        rw [List.intercalate_cons_cons, List.length_append, List.length_append]
        rfl
      rw [hlength]
      refine ⟨?_, ?_⟩
      · intro r hr
        rcases List.mem_cons.mp hr with rfl | hr
        · omega
        · have hle := ih.1 r hr
          omega
      · have hle := ih.2
        rw [List.length_cons]
        omega

/-- The expression is one alternative, and the same one inside a union. -/
structure Single (t : TypeExpr) : Prop where
  spread : t.spread = [t]
  members : t.members = [t]

theorem single_named (name : String) : (named name).Single := ⟨rfl, rfl⟩

theorem single_array (t : TypeExpr) : (array t).Single := ⟨rfl, rfl⟩

theorem single_literal (value : String) : (literals [value]).Single := ⟨rfl, rfl⟩

theorem single_arrayIf {t : TypeExpr} (h : t.Single) (multiple : Bool) :
    (t.arrayIf multiple).Single := by
  unfold arrayIf
  split
  · exact single_array t
  · exact h

/-- A union of single alternatives has these alternatives, also when there is one or none. -/
theorem members_unionOf {ts : List TypeExpr} (h : ∀ t ∈ ts, t.Single) :
    (unionOf ts).members = ts := by
  have hspread : ts.flatMap spread = ts := flatMap_eq_self fun t ht => (h t ht).spread
  unfold unionOf
  rw [hspread]
  split
  · exact (h _ (List.mem_singleton_self _)).members
  · rfl

/-- A text is that of the members with bars between them. -/
theorem text_eq_intercalate_members (t : TypeExpr) :
    t.text = " | ".intercalate (t.members.map text) := by
  cases t with
  | named name => exact String.intercalate_singleton.symm
  | array t => exact String.intercalate_singleton.symm
  | union ts => rw [text, texts_eq_map, members]
  | literals values =>
    simp only [text, members, List.map_map, Function.comp_def, List.map_cons, List.map_nil,
      String.intercalate_singleton]

theorem text_array_ne_empty (t : TypeExpr) : (array t).text ≠ "" := by
  unfold text
  split
  · simp
  · simp

theorem text_literal (value : String) : (literals [value]).text = literalText value :=
  String.intercalate_singleton

theorem toList_literalText (value : String) :
    (literalText value).toList = '\'' :: value.toList ++ ['\''] := by
  rw [literalText, String.toList_append, String.toList_append]
  rfl

theorem toList_text_literals_eq_intercalate (values : List String) :
    (literals values).text.toList =
      " | ".toList.intercalate (values.map fun value => (literalText value).toList) := by
  rw [text, String.toList_intercalate, List.map_map]
  rfl

theorem text_literal_ne_empty (value : String) : (literals [value]).text ≠ "" := by
  rw [text_literal]
  unfold literalText
  simp

/-- Where every alternative has a text, only a type without alternatives has none. -/
theorem text_eq_empty_iff {t : TypeExpr} (h : ∀ a ∈ t.members, a.text ≠ "") :
    t.text = "" ↔ t.members = [] := by
  rw [text_eq_intercalate_members]
  constructor
  · intro htext
    cases hm : t.members with
    | nil => rfl
    | cons a rest =>
      have ha := h a (by rw [hm]; exact List.mem_cons_self)
      rw [hm, List.map_cons] at htext
      cases rest with
      | nil => exact absurd (by simpa using htext) ha
      | cons b rest => simp at htext
  · intro hm
    rw [hm]
    exact String.intercalate_nil

/-! ### Flat expressions -/

/-- What holds of names and literals, and of an expression when it holds of what the expression is
made of, holds of every expression. -/
theorem induction_on_parts {motive : TypeExpr → Prop} (named : ∀ name, motive (.named name))
    (array : ∀ t, motive t → motive (.array t))
    (union : ∀ ts, (∀ t ∈ ts, motive t) → motive (.union ts))
    (literals : ∀ values, motive (.literals values)) : ∀ t, motive t
  | .named name => named name
  | .array t => array t (induction_on_parts named array union literals t)
  | .union ts => union ts fun t _ => induction_on_parts named array union literals t
  | .literals values => literals values

/-- The expression `u` stands somewhere in another one, at any depth, or is all of it. -/
inductive Part (u : TypeExpr) : TypeExpr → Prop
  | whole : Part u u
  | element {t : TypeExpr} (h : Part u t) : Part u (.array t)
  | member {ts : List TypeExpr} {t : TypeExpr} (ht : t ∈ ts) (h : Part u t) : Part u (.union ts)

def isUnion : TypeExpr → Bool
  | .union _ => true
  | _ => false

/-- No union in the expression has exactly one member, or a union for a member. -/
def Flat (t : TypeExpr) : Prop :=
  ∀ ts, Part (.union ts) t → ts.length ≠ 1 ∧ ∀ u ∈ ts, u.isUnion = false

section

variable {t u : TypeExpr} {ts : List TypeExpr}

theorem flat_named (name : String) : (named name).Flat := by
  intro ts h
  cases h

theorem flat_literals (values : List String) : (literals values).Flat := by
  intro ts h
  cases h

theorem Flat.array (h : t.Flat) : (array t).Flat := by
  intro ts hpart
  cases hpart with
  | element hpart => exact h ts hpart

theorem Flat.element (h : (TypeExpr.array t).Flat) : t.Flat :=
  fun ts hpart => h ts (.element hpart)

theorem Flat.member (h : (union ts).Flat) (ht : t ∈ ts) : t.Flat :=
  fun us hpart => h us (.member ht hpart)

theorem flat_union (hlength : ts.length ≠ 1) (hunion : ∀ t ∈ ts, t.isUnion = false)
    (h : ∀ t ∈ ts, t.Flat) : (union ts).Flat := by
  intro us hpart
  cases hpart with
  | whole => exact ⟨hlength, hunion⟩
  | member ht hpart => exact h _ ht us hpart

theorem spread_of_isUnion_eq_false (h : t.isUnion = false) : t.spread = [t] := by
  cases t with
  | union ts => cases h
  | named _ | array _ | literals _ => rfl

theorem flatMap_spread_of_isUnion_eq_false (h : ∀ t ∈ ts, t.isUnion = false) :
    ts.flatMap spread = ts :=
  flatMap_eq_self fun t ht => spread_of_isUnion_eq_false (h t ht)

theorem Flat.of_mem_spread (h : t.Flat) (hu : u ∈ t.spread) : u.isUnion = false ∧ u.Flat := by
  cases ht : t.isUnion with
  | false =>
    rw [spread_of_isUnion_eq_false ht] at hu
    obtain rfl := List.mem_singleton.mp hu
    exact ⟨ht, h⟩
  | true =>
    cases t with
    | union ts => exact ⟨(h ts .whole).2 u hu, h.member hu⟩
    | named _ | array _ | literals _ => cases ht

theorem flat_of_mem_flatMap_spread (h : ∀ t ∈ ts, t.Flat) (hu : u ∈ ts.flatMap spread) :
    u.isUnion = false ∧ u.Flat := by
  obtain ⟨t, ht, hut⟩ := List.mem_flatMap.mp hu
  exact (h t ht).of_mem_spread hut

/-- A union of several members has what they spread out to. One that is alone stands for itself. -/
theorem unionOf_eq (ts : List TypeExpr) :
    (∃ t, ts.flatMap spread = [t] ∧ unionOf ts = t) ∨
      (ts.flatMap spread).length ≠ 1 ∧ unionOf ts = union (ts.flatMap spread) := by
  unfold unionOf
  split
  · rename_i t ht
    exact Or.inl ⟨t, ht, rfl⟩
  · rename_i hne
    refine Or.inr ⟨?_, rfl⟩
    intro hlength
    obtain ⟨t, ht⟩ := List.length_eq_one_iff.mp hlength
    exact hne t ht

/-- A union of flat expressions is flat. -/
theorem flat_unionOf (h : ∀ t ∈ ts, t.Flat) : (unionOf ts).Flat := by
  have hspread : ∀ u ∈ ts.flatMap spread, u.isUnion = false ∧ u.Flat :=
    fun u hu => flat_of_mem_flatMap_spread h hu
  rcases unionOf_eq ts with ⟨t, ht, heq⟩ | ⟨hlength, heq⟩
  · rw [heq]
    exact (hspread t (by rw [ht]; exact List.mem_singleton_self t)).2
  · rw [heq]
    exact flat_union hlength (fun u hu => (hspread u hu).1) fun u hu => (hspread u hu).2

/-- The union spreads out to what its members spread out to. -/
theorem spread_unionOf (h : ∀ t ∈ ts, t.Flat) : (unionOf ts).spread = ts.flatMap spread := by
  rcases unionOf_eq ts with ⟨t, ht, heq⟩ | ⟨-, heq⟩
  · have hmem : t ∈ ts.flatMap spread := by
      rw [ht]
      exact List.mem_singleton_self t
    rw [heq, ht]
    exact spread_of_isUnion_eq_false (flat_of_mem_flatMap_spread h hmem).1
  · rw [heq]
    rfl

/-- A flat expression is the union of itself alone. -/
theorem Flat.unionOf_singleton (h : t.Flat) : unionOf [t] = t := by
  have hspread : [t].flatMap spread = t.spread := List.flatMap_singleton spread t
  cases t with
  | union ts =>
    rcases unionOf_eq [union ts] with ⟨u, hu, -⟩ | ⟨-, heq⟩
    · -- The union itself would have one member.
      rw [hspread] at hu
      have hlength : ts.length = 1 := congrArg List.length hu
      exact absurd hlength (h ts .whole).1
    · rw [heq, hspread]
      rfl
  | named _ | array _ | literals _ => rfl

/-- A union inside another one can be opened. -/
theorem unionOf_append_unionOf (xs zs : List TypeExpr) {ys : List TypeExpr}
    (h : ∀ t ∈ ys, t.Flat) : unionOf (xs ++ [unionOf ys] ++ zs) = unionOf (xs ++ ys ++ zs) := by
  have hspread : (xs ++ [unionOf ys] ++ zs).flatMap spread =
      (xs ++ ys ++ zs).flatMap spread := by
    simp only [List.flatMap_append, List.flatMap_singleton, spread_unionOf h]
  unfold unionOf at hspread ⊢
  rw [hspread]

/-! ### Texts -/

theorem text_unionOf (ts : List TypeExpr) :
    (unionOf ts).text = " | ".intercalate ((ts.flatMap spread).map text) := by
  rcases unionOf_eq ts with ⟨t, ht, heq⟩ | ⟨-, heq⟩
  · rw [heq, ht]
    exact String.intercalate_singleton.symm
  · rw [heq, text, texts_eq_map]

mutual

/-- What is left of an expression when unions within unions are opened at every depth. -/
def leaves : TypeExpr → List TypeExpr
  | .union ts => leavesOf ts
  | .named name => [.named name]
  | .array t => [.array t]
  | .literals values => [.literals values]

def leavesOf : List TypeExpr → List TypeExpr
  | [] => []
  | t :: rest => t.leaves ++ leavesOf rest

end

theorem leavesOf_eq_flatMap (ts : List TypeExpr) : leavesOf ts = ts.flatMap leaves := by
  induction ts with
  | nil => rfl
  | cons t rest ih => rw [leavesOf, ih, List.flatMap_cons]

theorem leaves_of_isUnion_eq_false (h : t.isUnion = false) : t.leaves = [t] := by
  cases t with
  | union ts => cases h
  | named _ | array _ | literals _ => rfl

/-- In a flat expression one level is all there is to open. -/
theorem Flat.leaves_eq_spread (h : t.Flat) : t.leaves = t.spread := by
  cases ht : t.isUnion with
  | false => rw [leaves_of_isUnion_eq_false ht, spread_of_isUnion_eq_false ht]
  | true =>
    cases t with
    | union ts =>
      rw [leaves, leavesOf_eq_flatMap]
      exact flatMap_eq_self fun t ht => leaves_of_isUnion_eq_false ((h ts .whole).2 t ht)
    | named _ | array _ | literals _ => cases ht

theorem Flat.isUnion_of_mem_members (h : t.Flat) (hu : u ∈ t.members) : u.isUnion = false := by
  cases t with
  | union ts => exact (h ts .whole).2 u hu
  | named _ | array _ =>
    obtain rfl := List.mem_singleton.mp hu
    rfl
  | literals values =>
    obtain ⟨value, -, rfl⟩ := List.mem_map.mp hu
    rfl

/-- A union of the alternatives of an expression shows them as the expression does. -/
theorem Flat.text_unionOf_members (h : t.Flat) : (unionOf t.members).text = t.text := by
  have hmembers := flatMap_spread_of_isUnion_eq_false fun u hu => h.isUnion_of_mem_members hu
  rw [text_unionOf, hmembers, ← text_eq_intercalate_members]

end

/-! ### What can be built -/

inductive Built : TypeExpr → Prop
  | named (name : String) : Built (.named name)
  | null : Built .null
  | array {t : TypeExpr} (h : Built t) : Built (.array t)
  | arrayIf {t : TypeExpr} (h : Built t) (multiple : Bool) : Built (t.arrayIf multiple)
  | unionOf {ts : List TypeExpr} (h : ∀ t ∈ ts, Built t) : Built (unionOf ts)
  | literals (values : List String) : Built (.literals values)

/-- What the constructors make is flat. -/
theorem Built.flat {t : TypeExpr} (h : t.Built) : t.Flat := by
  induction h with
  | named name => exact flat_named name
  | null => exact flat_named "null"
  | array _ ih => exact ih.array
  | arrayIf _ multiple ih =>
    unfold TypeExpr.arrayIf
    split
    · exact ih.array
    · exact ih
  | unionOf _ ih => exact flat_unionOf ih
  | literals values => exact flat_literals values

/-- Just the flat expressions can be built. -/
theorem built_iff_flat (t : TypeExpr) : t.Built ↔ t.Flat := by
  refine ⟨Built.flat, ?_⟩
  induction t using induction_on_parts with
  | named name => exact fun _ => .named name
  | array t ih => exact fun h => .array (ih h.element)
  | union ts ih =>
    intro h
    have hbuilt : (unionOf ts).Built := .unionOf fun t ht => ih t ht (h.member ht)
    -- The constructor leaves flat members as they are.
    obtain ⟨hlength, hmembers⟩ := h ts .whole
    have hspread := flatMap_spread_of_isUnion_eq_false hmembers
    rcases unionOf_eq ts with ⟨t, ht, -⟩ | ⟨-, heq⟩
    · rw [hspread] at ht
      exact absurd (congrArg List.length ht) hlength
    · rw [heq, hspread] at hbuilt
      exact hbuilt
  | literals values => exact fun _ => .literals values

/-- The constructors build just the expressions in which no union has exactly one member or a union
for a member. A union of one of them is that one, and members may be grouped into unions in any way:
a union has the text of all that is left when unions within unions are opened. Taking an expression
apart into its alternatives and putting these together does not change its text. -/
theorem unionOf_flattens (t : TypeExpr) (ht : t.Built) (xs ys zs : List TypeExpr)
    (h : ∀ u ∈ xs ++ ys ++ zs, u.Built) :
    (∀ u : TypeExpr, u.Built ↔
      ∀ ts, Part (.union ts) u → ts.length ≠ 1 ∧ ∀ v ∈ ts, v.isUnion = false) ∧
    unionOf [t] = t ∧
    unionOf (xs ++ [unionOf ys] ++ zs) = unionOf (xs ++ ys ++ zs) ∧
    (unionOf xs).text = " | ".intercalate ((xs.flatMap leaves).map text) ∧
    (unionOf t.members).text = t.text := by
  have hys : ∀ u ∈ ys, u.Flat :=
    fun u hu => (h u (List.mem_append_left _ (List.mem_append_right _ hu))).flat
  have hxs : xs.flatMap leaves = xs.flatMap spread := by
    apply List.flatMap_congr
    intro u hu
    exact (h u (List.mem_append_left _ (List.mem_append_left _ hu))).flat.leaves_eq_spread
  refine ⟨built_iff_flat, ht.flat.unionOf_singleton, unionOf_append_unionOf xs zs hys, ?_,
    ht.flat.text_unionOf_members⟩
  rw [hxs]
  exact text_unionOf xs

/-- A set without literals, a group of two and a group of none among other members. -/
theorem unionOf_flattens_groups :
    (literals []).Built ∧
    (∀ u ∈ [literals ["draft"]] ++ [array (named "Pages"), null] ++ [union []], u.Built) ∧
    unionOf ([literals ["draft"]] ++ [unionOf [array (named "Pages"), null]] ++ [union []]) =
      union [literals ["draft"], array (named "Pages"), null] ∧
    (unionOf (literals []).members).text = "" := by
  have hset : (literals []).Built := .literals []
  have hall : ∀ u ∈ [literals ["draft"]] ++ [array (named "Pages"), null] ++ [union []],
      u.Built := by
    simp only [List.cons_append, List.nil_append, List.forall_mem_cons]
    have hnone : (unionOf []).Built := .unionOf (List.forall_mem_nil _)
    exact ⟨.literals _, .array (.named _), .null, hnone, List.forall_mem_nil _⟩
  obtain ⟨-, -, hgroup, -, htext⟩ := unionOf_flattens (literals []) hset [literals ["draft"]]
    [array (named "Pages"), null] [union []] hall
  exact ⟨hset, hall, hgroup, htext⟩

end TypeExpr

end ContentTypes
