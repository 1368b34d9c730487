import ContentTypes.Proofs.ImportedNames

/-! The order of an interface's member lines. The first primary key leads; the fields that are no
keys follow by name, those of one name in input order. There is just one such order, and the names
that an interface imports are met in it. -/

namespace ContentTypes

/-- The fields by name. Those of one name keep their order. -/
structure InNameOrder (fields order : List FieldDefinition) : Prop where
  perm : order.Perm fields
  sorted : order.Pairwise fun f g => f.name ≤ g.name
  stable : ∀ name, order.filter (·.name = name) = fields.filter (·.name = name)

/-- A sorted list is determined by what it holds of each name. -/
theorem eq_of_sorted_of_filter {l k : List FieldDefinition}
    (hl : l.Pairwise fun f g => f.name ≤ g.name) (hk : k.Pairwise fun f g => f.name ≤ g.name)
    (h : ∀ name, l.filter (·.name = name) = k.filter (·.name = name)) : l = k := by
  have hmem : ∀ f, f ∈ l ↔ f ∈ k := by
    intro f
    have hf : f ∈ l.filter (·.name = f.name) ↔ f ∈ k.filter (·.name = f.name) := by rw [h]
    simpa using hf
  induction l generalizing k with
  | nil =>
    symm
    apply List.eq_nil_iff_forall_not_mem.mpr
    intro f hf
    cases (hmem f).mpr hf
  | cons f rest ih =>
    cases k with
    | nil => cases (hmem f).mp List.mem_cons_self
    | cons g more =>
      obtain ⟨hf, hrest⟩ := List.pairwise_cons.mp hl
      obtain ⟨hg, hmore⟩ := List.pairwise_cons.mp hk
      -- Each head comes first by name, so their names are equal, and of that name each is first.
      have hle : f.name ≤ g.name := by
        rcases List.mem_cons.mp ((hmem g).mpr List.mem_cons_self) with rfl | hgr
        · exact String.le_refl _
        · exact hf g hgr
      have hge : g.name ≤ f.name := by
        rcases List.mem_cons.mp ((hmem f).mp List.mem_cons_self) with rfl | hfm
        · exact String.le_refl _
        · exact hg f hfm
      have hname : f.name = g.name := String.le_antisymm hle hge
      have hheads := h g.name
      simp only [List.filter_cons, hname, decide_true, if_true, List.cons.injEq] at hheads
      obtain ⟨rfl, -⟩ := hheads
      have htails : ∀ name, rest.filter (·.name = name) = more.filter (·.name = name) := by
        intro name
        have hn := h name
        simp only [List.filter_cons] at hn
        split at hn
        · exact (List.cons.inj hn).2
        · exact hn
      rw [ih hrest hmore htails ?_]
      intro e
      have he : e ∈ rest.filter (·.name = e.name) ↔ e ∈ more.filter (·.name = e.name) := by
        rw [htails]
      simpa using he

namespace CollectionDefinition

/-- The fields that follow the key are sorted by name, those of one name in input order. -/
theorem inNameOrder_plainFields (c : CollectionDefinition) :
    InNameOrder (c.fields.filter (!·.primaryKey)) c.plainFields where
  perm := c.plainFields_perm
  sorted := c.plainFields_sorted
  stable name := by
    apply filter_sortBy
    intro f g hf hg
    have heq : f.name = g.name := (of_decide_eq_true hf).trans (of_decide_eq_true hg).symm
    exact decide_eq_true (heq ▸ String.le_refl _)

/-- The fields that follow the key are the others in the order of their names, and no other order
is one. -/
theorem inNameOrder_iff (c : CollectionDefinition) (order : List FieldDefinition) :
    InNameOrder (c.fields.filter (!·.primaryKey)) order ↔ order = c.plainFields := by
  have hplain := c.inNameOrder_plainFields
  constructor
  · intro h
    apply eq_of_sorted_of_filter h.sorted hplain.sorted
    intro name
    rw [h.stable, hplain.stable]
  · rintro rfl
    exact hplain

/-- The key is the first field that is flagged as one. -/
theorem primaryKey?_of_split {c : CollectionDefinition} {before after : List FieldDefinition}
    {key : FieldDefinition} (hfields : c.fields = before ++ key :: after)
    (hkey : key.primaryKey = true) (hbefore : ∀ f ∈ before, f.primaryKey = false) :
    c.primaryKey? = some key := by
  unfold primaryKey?
  rw [hfields, List.find?_append]
  have hnone : before.find? (·.primaryKey) = none := by
    rw [List.find?_eq_none]
    intro f hf
    rw [hbefore f hf]
    exact Bool.false_ne_true
  rw [hnone, List.find?_cons_of_pos hkey, Option.none_or]

theorem primaryKey?_eq_none {c : CollectionDefinition}
    (h : ∀ f ∈ c.fields, f.primaryKey = false) : c.primaryKey? = none := by
  unfold primaryKey?
  rw [List.find?_eq_none]
  intro f hf
  rw [h f hf]
  exact Bool.false_ne_true

end CollectionDefinition

namespace Imports

/-- After any number of links the names are those from before and then the new ones, each where it
was first met. -/
theorem names_foldl_addLink_eq_append (i : Imports) (links : List Link) :
    (links.foldl addLink i).names =
      i.names ++ ((systemNames links).filter (· ∉ i.names)).eraseDups := by
  induction links generalizing i with
  | nil => exact (List.append_nil _).symm
  | cons link rest ih =>
    rw [List.foldl_cons, ih]
    unfold addLink systemNames
    cases hs : isSystem link.collection with
    | false => simp only [List.filter_cons, hs, Bool.false_eq_true, if_false]
    | true =>
      simp only [List.filter_cons, hs, if_true, List.map_cons]
      unfold add
      by_cases hmet : systemTypeName link.collection ∈ i.names
      · simp [hmet]
      · -- The name takes the last place, and is left out wherever it comes again.
        simp only [List.contains_eq_mem, hmet, decide_false, Bool.false_eq_true, if_false,
          not_false_eq_true, decide_true, if_true, List.eraseDups_cons, List.filter_filter,
          List.append_assoc, List.singleton_append, List.mem_append, List.mem_singleton]
        congr 4
        grind

end Imports

namespace Schema

/-- The first primary key of a collection leads its interface and shows its own type only. The other
lines are those of the fields that are no keys, by name and those of one name in input order, which
is one order and no other. In this order the interface meets the names it imports: after those from
before, each new one where a link first needs it. The file consists of such interfaces, and the line
with its imports lists the names in the order of their fields. -/
theorem interface_member_order (s : Schema) (options : RenderOptions) (identifier : String)
    (c : CollectionDefinition) (hc : s.get? identifier = some c) :
    (∀ order, InNameOrder (c.fields.filter (!·.primaryKey)) order ↔ order = c.plainFields) ∧
    (∀ before key after, c.fields = before ++ key :: after → key.primaryKey = true →
      (∀ f ∈ before, f.primaryKey = false) → ∀ imports,
        (s.interfaceLines options.indent.unit c imports).1 = ("interface " ++ c.name ++ " \x7b") ::
          memberLine options.indent.unit key.name key.type ::
          (c.plainFields.map fun f => memberLine options.indent.unit f.name (s.shownType f)) ++
          ["\x7d"]) ∧
    ((∀ f ∈ c.fields, f.primaryKey = false) → ∀ imports,
      (s.interfaceLines options.indent.unit c imports).1 = ("interface " ++ c.name ++ " \x7b") ::
        (c.plainFields.map fun f => memberLine options.indent.unit f.name (s.shownType f)) ++
        ["\x7d"]) ∧
    (∀ imports, (s.interfaceLines options.indent.unit c imports).2.names = imports.names ++
      ((systemNames (c.plainFields.flatMap (·.links))).filter (· ∉ imports.names)).eraseDups) ∧
    (∃ before after, s.render options = before ++
      String.join ((s.interfaceLines options.indent.unit c {}).1.map
        (blockLine options.indent.unit)) ++ after) ∧
    s.importedNames options = (systemNames (s.entries.flatMap fun e =>
      e.2.plainFields.flatMap (·.links))).eraseDups := by
  refine ⟨c.inNameOrder_iff, ?_, ?_, ?_, ?_, ?_⟩
  · intro before key after hfields hkey hbefore imports
    rw [interfaceLines_fst, interface, members_eq_append,
      CollectionDefinition.primaryKey?_of_split hfields hkey hbefore]
    rfl
  · intro hnone imports
    rw [interfaceLines_fst, interface, members_eq_append,
      CollectionDefinition.primaryKey?_eq_none hnone]
    rfl
  · intro imports
    rw [interfaceLines, memberLines_snd]
    exact Imports.names_foldl_addLink_eq_append imports _
  · rw [interfaceLines_fst]
    exact s.interface_in_render options hc
  · rw [importedNames_eq, names_importsAfter, List.flatMap_assoc]

def tickets : CollectionDefinition where
  name := "tickets"
  system := false
  singleton := false
  fields :=
    [⟨"watcher", .string, false, false, .manyToOne "directus_users"⟩,
      ⟨"id", .number, false, true, .none⟩,
      ⟨"attachment", .string, false, false, .manyToOne "directus_files"⟩,
      ⟨"watcher", .string, true, false, .none⟩,
      ⟨"code", .string, false, true, .none⟩]

def ticketSchema : Schema := empty.insert "tickets" tickets

/-- The second key has no line, the watchers keep their order, and the file is imported first. -/
theorem interface_member_order_tickets :
    ticketSchema.get? "tickets" = some tickets ∧
    (ticketSchema.interfaceLines "  " tickets {}).1 =
      ["interface tickets \x7b", "  id: number;",
        "  attachment: DirectusFiles<AllDirectusCollections> | string;",
        "  watcher: DirectusUsers<AllDirectusCollections> | string;",
        "  watcher: string | null;", "\x7d"] ∧
    (ticketSchema.interfaceLines "  " tickets {}).2.names =
      ["DirectusFiles", "DirectusUsers"] := by
  have hc : ticketSchema.get? "tickets" = some tickets := rfl
  obtain ⟨-, hlines, -, hnames, -⟩ :=
    interface_member_order ticketSchema { indent := { amount := 2 } } "tickets" tickets hc
  refine ⟨hc, ?_, ?_⟩
  · have h := hlines [tickets.fields[0]] tickets.fields[1] (tickets.fields.drop 2) rfl rfl
      (by decide) {}
    exact h.trans (by decide +kernel)
  · exact (hnames {}).trans (by decide +kernel)

end Schema

end ContentTypes
