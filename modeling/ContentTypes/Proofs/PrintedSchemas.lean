import ContentTypes.CommandLine
import ContentTypes.Proofs.FieldShapes
import ContentTypes.Proofs.Generation
import ContentTypes.Proofs.NestedJson
import ContentTypes.Proofs.References
import ContentTypes.Proofs.Unions

/-! A schema that is printed for inspection. Its lines are those of a JSON object with one member
for each collection, and nothing of the schema is lost in them: what has the same lines is the
same. -/

namespace ContentTypes

open Json (Plain Whole)
open Text (Source)

/-! ### Encodings tell values apart -/

theorem Json.tagged_inj {kind kind' key key' : String} {content content' : Json} :
    Json.tagged kind key content = Json.tagged kind' key' content' ↔
      kind = kind' ∧ key = key' ∧ content = content' := by
  simp [Json.tagged]

theorem Json.list_injective {α : Type} {encode : α → Json} (h : Function.Injective encode) :
    Function.Injective (Json.list encode) :=
  fun _ _ heq => List.map_injective_iff.mpr h (Json.array.inj heq)

theorem Json.strings_injective : Function.Injective Json.strings :=
  Json.list_injective fun _ _ => Json.string.inj

namespace TypeExpr

mutual

/-- Expressions of one kind are told apart by their content, and others by their kind. -/
theorem eq_of_encode_eq : ∀ {t u : TypeExpr}, t.encode = u.encode → t = u
  | .named _, .named _, h => by
    obtain ⟨-, -, hname⟩ := Json.tagged_inj.mp h
    rw [Json.string.inj hname]
  | .array _, .array _, h => by
    obtain ⟨-, -, helement⟩ := Json.tagged_inj.mp h
    rw [eq_of_encode_eq helement]
  | .union _, .union _, h => by
    obtain ⟨-, -, hmembers⟩ := Json.tagged_inj.mp h
    rw [eq_of_encodeAll_eq (Json.array.inj hmembers)]
  | .literals _, .literals _, h => by
    obtain ⟨-, -, hvalues⟩ := Json.tagged_inj.mp h
    rw [Json.strings_injective hvalues]
  | .named _, .array _, h | .named _, .union _, h | .named _, .literals _, h
  | .array _, .named _, h | .array _, .union _, h | .array _, .literals _, h
  | .union _, .named _, h | .union _, .array _, h | .union _, .literals _, h
  | .literals _, .named _, h | .literals _, .array _, h | .literals _, .union _, h => by
    obtain ⟨hkind, -⟩ := Json.tagged_inj.mp h
    exact absurd hkind (by decide)

theorem eq_of_encodeAll_eq : ∀ {ts us : List TypeExpr}, encodeAll ts = encodeAll us → ts = us
  | [], [], _ => rfl
  | _ :: _, _ :: _, h => by
    obtain ⟨hhead, htail⟩ := List.cons.inj h
    rw [eq_of_encode_eq hhead, eq_of_encodeAll_eq htail]

end

/-- Types are told apart by their JSON. -/
theorem encode_injective : Function.Injective encode := fun _ _ => eq_of_encode_eq

theorem encodeAll_eq_map (ts : List TypeExpr) : encodeAll ts = ts.map encode := by
  induction ts with
  | nil => rfl
  | cons t rest ih => rw [encodeAll, ih, List.map_cons]

end TypeExpr

/-- Relations are told apart by their JSON. -/
theorem RelationKind.encode_injective : Function.Injective RelationKind.encode
  | .none, .none, _ => rfl
  | .oneToMany _, .oneToMany _, h | .manyToOne _, .manyToOne _, h => by
    obtain ⟨-, -, htarget⟩ := Json.tagged_inj.mp h
    rw [Json.string.inj htarget]
  | .manyToAny _, .manyToAny _, h => by
    obtain ⟨-, -, htargets⟩ := Json.tagged_inj.mp h
    rw [Json.strings_injective htargets]
  | .oneToMany _, .manyToOne _, h | .oneToMany _, .manyToAny _, h
  | .manyToOne _, .oneToMany _, h | .manyToOne _, .manyToAny _, h
  | .manyToAny _, .oneToMany _, h | .manyToAny _, .manyToOne _, h => by
    obtain ⟨hkind, -⟩ := Json.tagged_inj.mp h
    exact absurd hkind (by decide)
  -- A field without a relation has no target, so its object is the shorter one.
  | .none, .oneToMany _, h | .none, .manyToOne _, h | .none, .manyToAny _, h
  | .oneToMany _, .none, h | .manyToOne _, .none, h | .manyToAny _, .none, h => by
    have hlength := congrArg List.length (Json.object.inj h)
    exact absurd hlength (by simp)

theorem FieldDefinition.encode_injective : Function.Injective FieldDefinition.encode := by
  rintro ⟨name, type, nullable, primaryKey, relation⟩
    ⟨name', type', nullable', primaryKey', relation'⟩ h
  simp only [FieldDefinition.encode, Json.object.injEq, List.cons.injEq, Prod.mk.injEq, true_and,
    and_true, Json.string.injEq, Json.bool.injEq] at h
  obtain ⟨rfl, htype, rfl, rfl, hrelation⟩ := h
  rw [TypeExpr.encode_injective htype, RelationKind.encode_injective hrelation]

theorem CollectionDefinition.encode_injective : Function.Injective CollectionDefinition.encode := by
  rintro ⟨name, system, singleton, fields⟩ ⟨name', system', singleton', fields'⟩ h
  simp only [CollectionDefinition.encode, Json.object.injEq, List.cons.injEq, Prod.mk.injEq,
    true_and, and_true, Json.string.injEq, Json.bool.injEq] at h
  obtain ⟨rfl, rfl, rfl, hfields⟩ := h
  rw [Json.list_injective FieldDefinition.encode_injective hfields]

/-- Schemas are told apart by their JSON. -/
theorem Schema.encode_injective : Function.Injective Schema.encode := by
  intro s t h
  have hentry : Function.Injective fun e : String × CollectionDefinition => (e.1, e.2.encode) := by
    rintro ⟨identifier, c⟩ ⟨identifier', c'⟩ heq
    obtain ⟨hidentifier, hc⟩ := Prod.mk.inj heq
    exact Prod.ext hidentifier (CollectionDefinition.encode_injective hc)
  exact Schema.ext (List.map_injective_iff.mpr hentry (Json.object.inj h))

/-! ### Encodings are plain -/

theorem Json.plain_tagged {levels : Nat} {content : Json} (h : Plain (levels + 1) content)
    (kind key : String) : Plain (levels + 2) (Json.tagged kind key content) := by
  apply Plain.object
  simp only [List.forall_mem_cons]
  exact ⟨.string kind, h, List.forall_mem_nil _⟩

theorem Json.plain_strings {levels : Nat} (ss : List String) :
    Plain (levels + 2) (Json.strings ss) := by
  apply Plain.array
  intro j hj
  obtain ⟨s, -, rfl⟩ := List.mem_map.mp hj
  exact .string s

/-- Every expression is nested less than some number of levels deep. -/
theorem TypeExpr.exists_plain_encode (t : TypeExpr) : ∃ levels, Plain levels t.encode := by
  induction t using induction_on_parts with
  | named name => exact ⟨2, Json.plain_tagged (.string name) _ _⟩
  | array t ih =>
    obtain ⟨levels, h⟩ := ih
    exact ⟨levels + 2, Json.plain_tagged (h.mono (Nat.le_succ levels)) _ _⟩
  | union ts ih =>
    have hmembers : ∀ j ∈ ts.map encode, ∃ levels, Plain levels j := by
      intro j hj
      obtain ⟨t, ht, rfl⟩ := List.mem_map.mp hj
      exact ih t ht
    obtain ⟨levels, h⟩ := Json.exists_plain_of_forall _ hmembers
    rw [← encodeAll_eq_map] at h
    have harray : Plain (levels + 2) (.array (encodeAll ts)) :=
      .array _ fun j hj => (h j hj).mono (Nat.le_succ levels)
    exact ⟨levels + 3, Json.plain_tagged harray _ _⟩
  | literals values => exact ⟨3, Json.plain_tagged (Json.plain_strings values) _ _⟩

theorem RelationKind.plain_encode {levels : Nat} (k : RelationKind) :
    Plain (levels + 3) k.encode := by
  cases k with
  | none => exact .object _ (List.forall_mem_singleton.mpr (.string _))
  | oneToMany target => exact Json.plain_tagged (.string target) _ _
  | manyToOne target => exact Json.plain_tagged (.string target) _ _
  | manyToAny targets => exact Json.plain_tagged (Json.plain_strings targets) _ _

section

variable {levels : Nat}

theorem FieldDefinition.plain_encode {d : FieldDefinition} (h : Plain (levels + 3) d.type.encode) :
    Plain (levels + 4) d.encode := by
  apply Plain.object
  simp only [List.forall_mem_cons]
  exact ⟨.string _, h, .bool _, .bool _, d.relation.plain_encode, List.forall_mem_nil _⟩

theorem CollectionDefinition.plain_encode {c : CollectionDefinition}
    (h : ∀ d ∈ c.fields, Plain (levels + 3) d.type.encode) : Plain (levels + 6) c.encode := by
  have hfields : Plain (levels + 5) (Json.list FieldDefinition.encode c.fields) := by
    apply Plain.array
    intro j hj
    obtain ⟨d, hd, rfl⟩ := List.mem_map.mp hj
    exact FieldDefinition.plain_encode (h d hd)
  apply Plain.object
  simp only [List.forall_mem_cons]
  exact ⟨.string _, .bool _, .bool _, hfields, List.forall_mem_nil _⟩

/-- A schema is nested four levels deeper than its types. -/
theorem Schema.plain_encode {s : Schema}
    (h : ∀ e ∈ s.entries, ∀ d ∈ e.2.fields, Plain (levels + 3) d.type.encode) :
    Plain (levels + 7) s.encode := by
  apply Plain.object
  intro m hm
  obtain ⟨e, he, rfl⟩ := List.mem_map.mp hm
  exact CollectionDefinition.plain_encode (h e he)

end

/-- The JSON of a schema has natural numbers only. -/
theorem Schema.exists_plain_encode (s : Schema) : ∃ levels, Plain levels s.encode := by
  have htypes : ∀ j ∈ s.entries.flatMap fun e => e.2.fields.map fun d => d.type.encode,
      ∃ levels, Plain levels j := by
    intro j hj
    obtain ⟨e, -, hj⟩ := List.mem_flatMap.mp hj
    obtain ⟨d, -, rfl⟩ := List.mem_map.mp hj
    exact d.type.exists_plain_encode
  obtain ⟨levels, h⟩ := Json.exists_plain_of_forall _ htypes
  refine ⟨levels + 7, Schema.plain_encode fun e he d hd => ?_⟩
  have htype := h d.type.encode (List.mem_flatMap.mpr ⟨e, he, List.mem_map_of_mem hd⟩)
  exact htype.mono (Nat.le_add_right levels 3)

/-- The types of a built schema are not nested beyond the element of an array. -/
theorem DataModel.plain_encode_build (m : DataModel) (naming : Naming) :
    Plain 7 (m.build naming).schema.encode := by
  apply Schema.plain_encode
  rintro ⟨identifier, c⟩ he d hd
  have hc := ((m.build naming).schema.get?_eq_some_iff_mem identifier c).mpr he
  rcases (m.regular_of_mem_fields hc hd).type_forms with
    ⟨name, -, ht⟩ | ⟨name, -, ht⟩ | ⟨values, ht⟩
  · rw [ht]
    exact Json.plain_tagged (.string name) _ _
  · rw [ht]
    exact Json.plain_tagged (Json.plain_tagged (.string name) _ _) _ _
  · rw [ht]
    exact Json.plain_tagged (Json.plain_strings values) _ _

/-! ### The lines of a schema -/

def Schema.printed (s : Schema) : String := s.encode.pretty ++ "\n"

section

variable {files : FileTree} {faults : Faults} {a : SchemaArguments}

/-- What a run prepares is built from a data model that loads. -/
theorem SchemaArguments.exists_of_prepare {change : Configuration → Configuration} {p : Prepared}
    (h : a.prepare files faults change = .ok p) :
    ∃ c m, a.configuration files faults = .ok c ∧
      (Snapshot.detect files a.input faults).load files faults = .ok m ∧
      p.schema = (m.build (change c).naming).schema := by
  unfold SchemaArguments.prepare SchemaArguments.dataModel at h
  cases hc : a.configuration files faults with
  | error message =>
    rw [hc] at h
    cases h
  | ok c =>
    cases hm : (Snapshot.detect files a.input faults).load files faults with
    | error e =>
      simp only [hc, hm] at h
      cases h
    | ok m =>
      simp only [hc, hm] at h
      obtain rfl := Except.ok.inj h
      exact ⟨c, m, rfl, rfl, rfl⟩

/-- A run that inspects a schema prints the one that is built of the records it loads. -/
theorem SchemaArguments.exists_run_inspect
    (h : ((Command.inspect a).run files faults).code = 0) :
    ∃ c m, a.configuration files faults = .ok c ∧
      (Snapshot.detect files a.input faults).load files faults = .ok m ∧
      ((Command.inspect a).run files faults).output = (m.build c.naming).schema.printed := by
  unfold Command.run at h ⊢
  dsimp only at h ⊢
  cases hprepare : a.prepare files faults id with
  | error message =>
    rw [hprepare] at h
    cases h
  | ok p =>
    obtain ⟨c, m, hc, hm, hschema⟩ := SchemaArguments.exists_of_prepare hprepare
    refine ⟨c, m, hc, hm, ?_⟩
    dsimp only
    rw [hschema]
    rfl

end

/-- What is printed of a schema says all of it: only equal schemas have the same text, and so it is
with types of any depth and with relations. The text is that of an object with the identifiers for
its keys, in ascending order. What a run prints of the records it loads is also read by those who
refuse a value that is nested too deep, and read as the encoded schema. -/
theorem Schema.printed_lossless (s t : Schema) :
    (s.printed = t.printed ↔ s = t) ∧
    (∃ members, (Whole.ofSource (Source.ofString s.printed)).content = .ok (.object members) ∧
      members.map (·.1) = s.identifiers) ∧
    s.identifiers.Pairwise (· < ·) ∧
    (∀ u v : TypeExpr, u.encode.pretty = v.encode.pretty ↔ u = v) ∧
    (∀ k l : RelationKind, k.encode.pretty = l.encode.pretty ↔ k = l) ∧
    (∀ files faults a, ((Command.inspect a).run files faults).code = 0 →
      ∃ c m, a.configuration files faults = .ok c ∧
        (Snapshot.detect files a.input faults).load files faults = .ok m ∧
        ((Command.inspect a).run files faults).output = (m.build c.naming).schema.printed ∧
        (Whole.ofSource (Source.ofString ((Command.inspect a).run files faults).output)).value =
          .ok (m.build c.naming).schema.encode) := by
  -- The types of any schema may be nested deeper than the limit, those of a built one are not.
  obtain ⟨levels, hs⟩ := s.exists_plain_encode
  obtain ⟨more, ht⟩ := t.exists_plain_encode
  refine ⟨⟨fun h => ?_, congrArg Schema.printed⟩, ?_, s.pairwise_identifiers, fun u v => ?_,
    fun k l => ?_, fun files faults a h => ?_⟩
  · have hpretty : s.encode.pretty = t.encode.pretty := (String.append_left_inj "\n").mp h
    exact Schema.encode_injective (Json.eq_of_pretty_eq hs ht hpretty)
  · refine ⟨_, Json.content_lines hs, ?_⟩
    rw [List.map_map]
    rfl
  · obtain ⟨_, hu⟩ := u.exists_plain_encode
    obtain ⟨_, hv⟩ := v.exists_plain_encode
    exact ⟨fun h => TypeExpr.encode_injective (Json.eq_of_pretty_eq hu hv h), fun h => by rw [h]⟩
  · have hplain : ∀ k : RelationKind, Plain 3 k.encode := fun k => k.plain_encode
    exact ⟨fun h => RelationKind.encode_injective (Json.eq_of_pretty_eq (hplain k) (hplain l) h),
      fun h => by rw [h]⟩
  · obtain ⟨c, m, hc, hm, houtput⟩ := SchemaArguments.exists_run_inspect h
    refine ⟨c, m, hc, hm, houtput, ?_⟩
    rw [houtput]
    exact Json.value_lines (m.plain_encode_build c.naming) (by decide)

/-- A run on a list of tasks prints the schema with the names of its options, which is not the one
with the names of the records. -/
theorem Schema.printed_lossless_tasks :
    (Tasks.options.inspect.run Tasks.files {}).code = 0 ∧
    (Tasks.options.inspect.run Tasks.files {}).output =
      (Tasks.model.build .pascalCase).schema.printed ∧
    (Whole.ofSource (Source.ofString (Tasks.options.inspect.run Tasks.files {}).output)).value =
      .ok (Tasks.model.build .pascalCase).schema.encode ∧
    (Tasks.model.build .pascalCase).schema.printed ≠
      (Tasks.model.build .database).schema.printed := by
  obtain ⟨events, hrun⟩ := Options.exists_run_inspect_eq Tasks.settingsFile Tasks.load_files
  have hcode : (Tasks.options.inspect.run Tasks.files {}).code = 0 := by rw [hrun]
  obtain ⟨heq, -, -, -, -, hinspect⟩ := Schema.printed_lossless
    (Tasks.model.build .pascalCase).schema (Tasks.model.build .database).schema
  obtain ⟨c, m, hc, hm, houtput, hvalue⟩ := hinspect Tasks.files {} Tasks.options.schema hcode
  obtain rfl := Except.ok.inj (hc.symm.trans Tasks.settingsFile.configuration)
  obtain rfl := Except.ok.inj (hm.symm.trans Tasks.load_files)
  refine ⟨hcode, houtput, hvalue, fun h => ?_⟩
  have hnames := congrArg (fun s : Schema => s.entries.map (·.2.name)) (heq.mp h)
  exact absurd hnames (by decide +kernel)

end ContentTypes
