import ContentTypes.Proofs.Delivery
import ContentTypes.Proofs.OptionOrder
import ContentTypes.Proofs.SettingsLayers

/-! What a run makes of its options and its settings file. Each setting is that of the options if it
is given there, else that of the file, else the default. The run builds and renders under these
settings, and the text goes to the place they name. -/

namespace ContentTypes

/-- What the settings file of a run gives. Without a file nothing is given. -/
inductive SettingsFile (files : FileTree) (faults : Faults) : Option String → Layer → Prop
  | absent : SettingsFile files faults none {}
  | present {path : String} {content : Text.Source} {l : Layer}
      (hfile : files.openFile path faults = .ok (.ok content)) (hset : l.SetBy content) :
      SettingsFile files faults (some path) l

section

variable {files : FileTree} {faults : Faults}

/-- A settings file is loaded exactly when it gives some settings, as these over the defaults. -/
theorem Configuration.load_eq_ok_iff {path : String} {c : Configuration} :
    Configuration.load files path faults = .ok c ↔
      ∃ l : Layer, SettingsFile files faults (some path) l ∧ c = l.applyTo {} := by
  unfold load
  constructor
  · intro h
    split at h
    · cases h
    · cases h
    · rename_i content hfile
      split at h
      · rename_i c' hread
        obtain rfl := Except.ok.inj h
        obtain ⟨l, hset, hc⟩ := ofYaml?_eq_some_iff.mp hread
        exact ⟨l, .present hfile hset, hc⟩
      · cases h
  · rintro ⟨l, h, rfl⟩
    cases h with
    | present hfile hset =>
      have hread := ofYaml?_eq_some_iff.mpr ⟨l, hset, rfl⟩
      rw [hfile]
      simp only [hread]

variable {a : SchemaArguments} {l : Layer} {m : DataModel}

/-- Before the other options count, the settings of a run are those of its file and the naming
option over the defaults. -/
theorem SettingsFile.configuration (h : SettingsFile files faults a.config l) :
    a.configuration files faults =
      .ok { l.applyTo {} with naming := a.naming.getD (l.naming.getD .database) } := by
  unfold SchemaArguments.configuration
  cases hconfig : a.config with
  | none =>
    rw [hconfig] at h
    cases h
    rfl
  | some path =>
    rw [hconfig] at h
    have hload := Configuration.load_eq_ok_iff.mpr ⟨l, h, rfl⟩
    simp only [hload]
    rfl

theorem exists_dataModel_eq
    (hm : (Snapshot.detect files a.input faults).load files faults = .ok m) :
    ∃ event, a.dataModel files faults = .ok (m, event) := by
  unfold SchemaArguments.dataModel
  simp only [hm]
  exact ⟨_, rfl⟩

/-- What a run is prepared with: its settings, and the schema that is built under them. -/
theorem exists_prepare_eq (hl : SettingsFile files faults a.config l)
    (hm : (Snapshot.detect files a.input faults).load files faults = .ok m)
    (change : Configuration → Configuration) {c : Configuration}
    (hc : change { l.applyTo {} with naming := a.naming.getD (l.naming.getD .database) } = c) :
    ∃ events, a.prepare files faults change = .ok ⟨c, (m.build c.naming).schema, events⟩ := by
  obtain ⟨event, hmodel⟩ := exists_dataModel_eq hm
  unfold SchemaArguments.prepare
  rw [hl.configuration, hmodel, ← hc]
  exact ⟨_, rfl⟩

end

namespace Options

def layer (o : Options) : Layer :=
  ⟨o.naming, o.rootName, o.moduleName, o.amount, o.character, o.output.map some⟩

/-- The settings of a run: those of its options over those of its file over the defaults. -/
def settings (o : Options) (l : Layer) : Configuration := o.layer.applyTo (l.applyTo {})

section

variable {files : FileTree} {faults : Faults} {o : Options} {l : Layer} {m : DataModel}

/-- The place for the output is looked for in the options first. The settings that the schema was
prepared with know that of the file only. -/
theorem output_settings (o : Options) (l : Layer) :
    (o.output <|> l.output.getD none) = (o.settings l).output := by
  unfold settings layer Layer.applyTo
  cases o.output with
  | none => rfl
  | some path => rfl

/-- A run with a snapshot that loads builds the schema under the layered settings. -/
theorem exists_prepare_generate (hl : SettingsFile files faults o.config l)
    (hm : (Snapshot.detect files o.input faults).load files faults = .ok m) :
    ∃ events, o.schema.prepare files faults
        (applyOptions o.rootName o.moduleName o.amount o.character) =
      .ok ⟨{ o.settings l with output := l.output.getD none },
        (m.build (o.settings l).naming).schema, events⟩ :=
  exists_prepare_eq (a := o.schema) hl hm _ rfl

/-- What a generating run does: it renders under its settings, and prints the text or writes it. -/
theorem exists_run_generate_eq (hl : SettingsFile files faults o.config l)
    (hm : (Snapshot.detect files o.input faults).load files faults = .ok m) :
    ∃ p : Prepared, p.schema = (m.build (o.settings l).naming).schema ∧
      o.generate.run files faults =
        match (o.settings l).output with
        | some path => deliver files faults path p (p.schema.render (o.settings l).renderOptions)
        | none =>
          { code := 0, output := p.schema.render (o.settings l).renderOptions,
            events := p.events.map .event, files } := by
  obtain ⟨events, hprepare⟩ := exists_prepare_generate hl hm
  refine ⟨⟨{ o.settings l with output := l.output.getD none },
    (m.build (o.settings l).naming).schema, events⟩, rfl, ?_⟩
  unfold generate Command.run
  dsimp only
  rw [hprepare, ← output_settings]
  rfl

/-- Inspection prints the schema under the same naming. -/
theorem exists_run_inspect_eq (hl : SettingsFile files faults o.config l)
    (hm : (Snapshot.detect files o.input faults).load files faults = .ok m) :
    ∃ events, o.inspect.run files faults =
      { code := 0, output := (m.build (o.settings l).naming).schema.encode.pretty ++ "\n",
        events, files } := by
  obtain ⟨events, hprepare⟩ := exists_prepare_eq (a := o.schema) hl hm id rfl
  unfold inspect Command.run
  dsimp only
  rw [hprepare]
  exact ⟨_, rfl⟩

end

/-- A run is the same for all orders of its options, and its settings are layered: each of them is
that of the options if it is given there, else that of the settings file, else the default. A
settings file is loaded exactly when it gives some of them. Under these settings the loaded data
model is built and rendered. The text is all that is printed where no place for it is named, and
otherwise nothing is printed; the text is at that place then, unless the place cannot receive a
file, and it can wherever there is a file or a free name in a directory. Under the same settings the
schema itself can be printed. -/
theorem generate_run_spec (files : FileTree) (faults : Faults) (o : Options) (l : Layer)
    (m : DataModel) (hm : (Snapshot.detect files o.input faults).load files faults = .ok m)
    (hl : SettingsFile files faults o.config l) :
    ∃ c : Configuration,
      c.naming = o.naming.getD (l.naming.getD .database) ∧
      c.rootName = o.rootName.getD (l.rootName.getD "DirectusSchema") ∧
      c.moduleName = o.moduleName.getD (l.moduleName.getD "#app") ∧
      c.indent.amount = o.amount.getD (l.amount.getD 4) ∧
      c.indent.character = o.character.getD (l.character.getD ' ') ∧
      c.output = (o.output.map some).getD (l.output.getD none) ∧
      (c.output = none →
        (o.generate.run files faults).code = 0 ∧ (o.generate.run files faults).files = files ∧
        (o.generate.run files faults).output =
          (m.build c.naming).schema.render ⟨c.indent, c.rootName, c.moduleName⟩) ∧
      (∀ path text, c.output = some path →
        text = (m.build c.naming).schema.render ⟨c.indent, c.rootName, c.moduleName⟩ →
        (o.generate.run files faults).output = "" ∧
        ((o.generate.run files faults).code = 0 ∧ files.Receives path text faults ∧
            (o.generate.run files faults).files.lookup path faults =
              .ok (.file (Text.Source.ofString text)) ∧
            (o.generate.run files faults).notices = ["Generated types for " ++
              toString (m.build c.naming).schema.size ++ " collection(s) into '" ++ path ++ "'."] ∨
          (o.generate.run files faults).code = 1 ∧ ¬files.Receives path text faults)) ∧
      (o.inspect.run files faults).code = 0 ∧ (o.inspect.run files faults).files = files ∧
      (o.inspect.run files faults).output = (m.build c.naming).schema.encode.pretty ++ "\n" ∧
      (∀ path text, files.Accepts path text faults → files.Receives path text faults) ∧
      (∀ path c', Configuration.load files path faults = .ok c' ↔
        ∃ l' : Layer, SettingsFile files faults (some path) l' ∧ c' = l'.applyTo {}) ∧
      (o.PathsNamed → ∀ options : List (String × String),
        (options.Perm (Arguments.given o.slots) →
          runArguments files ("generate" :: options.map Arguments.attached) faults =
            { o.generate.run files faults with events := [] }) ∧
        (options.Perm (Arguments.given (o.slots.take 3)) →
          runArguments files ("inspect" :: options.map Arguments.attached) faults =
            { o.inspect.run files faults with events := [] })) := by
  obtain ⟨p, hp, hgenerate⟩ := exists_run_generate_eq hl hm
  obtain ⟨events, hinspect⟩ := exists_run_inspect_eq hl hm
  -- Layered settings are so by their definition; the rest is what the two runs come to.
  refine ⟨o.settings l, rfl, rfl, rfl, rfl, rfl, rfl, ?_, ?_, ?_, ?_, ?_, ?_, ?_, ?_⟩
  · intro hnone
    rw [hgenerate, hnone, hp]
    exact ⟨rfl, rfl, rfl⟩
  · rintro path text hsome rfl
    rw [hgenerate, hsome, ← hp]
    exact deliver_spec files faults path p _
  · rw [hinspect]
  · rw [hinspect]
  · rw [hinspect]
  · exact fun path text h => FileTree.receives_of_accepts h
  · exact fun path c' => Configuration.load_eq_ok_iff
  · intro hpaths options
    constructor
    · intro hperm
      unfold runArguments
      rw [Arguments.read_generate hpaths hperm]
      rfl
    · intro hperm
      unfold runArguments
      rw [Arguments.read_inspect hpaths hperm]
      rfl

end Options

/-! ### A run on a list of tasks -/

namespace Tasks

def settingsText : String := "root_name: Tasks\nindent:\n  amount: 2\noutput: tasks.d.ts\n"

def files : FileTree where
  home := ["work"]
  entries := [(["work"], .directory),
    (["work", "tasks.json"], .file (Text.Source.ofString
      ("\x7b\"collections\":[\x7b\"collection\":\"tasks\"\x7d],\"fields\":[\x7b\"collection\":" ++
        "\"tasks\",\"field\":\"id\",\"type\":\"integer\"\x7d],\"relations\":[]\x7d"))),
    (["work", "typegen.yaml"], .file (Text.Source.ofString settingsText))]

def model : DataModel where
  collections := [{ collection := "tasks" }]
  fields := [{ collection := "tasks", field := "id", kind := "integer" }]
  relations := []

def layer : Layer where
  rootName := some "Tasks"
  amount := some 2
  output := some (some "tasks.d.ts")

def options : Options where
  input := "tasks.json"
  config := some "typegen.yaml"
  naming := some .pascalCase
  moduleName := some "#tasks"
  amount := some 1

def tokens : List Yaml.Token :=
  [.blockMappingStart, .key, .scalar "root_name".toList .plain, .value,
    .scalar "Tasks".toList .plain, .key, .scalar "indent".toList .plain, .value,
    .blockMappingStart, .key, .scalar "amount".toList .plain, .value, .scalar "2".toList .plain,
    .blockEnd, .key, .scalar "output".toList .plain, .value, .scalar "tasks.d.ts".toList .plain,
    .blockEnd]

def indentEntries : List (Yaml.Node × Yaml.Node) :=
  [(.scalar "amount" .plain none, .scalar "2" .plain none)]

def entries : List (Yaml.Node × Yaml.Node) :=
  [(.scalar "root_name" .plain none, .scalar "Tasks" .plain none),
    (.scalar "indent" .plain none, .mapping indentEntries),
    (.scalar "output" .plain none, .scalar "tasks.d.ts" .plain none)]

theorem readFrom_entries : layer.ReadFrom {} entries where
  naming := .absent rfl
  rootName := .present rfl rfl
  moduleName := .absent rfl
  indent := by
    have hholds : Yaml.Holds {} (.mapping indentEntries) indentEntries :=
      .mapping rfl (List.forall_mem_singleton.mpr ⟨"amount", rfl⟩)
    exact .present rfl hholds (.present rfl rfl) (.absent rfl)
  output := .present rfl rfl

theorem settingsFile : SettingsFile files {} options.config layer := by
  have hfile : files.lookup "typegen.yaml" = .ok (.file (Text.Source.ofString settingsText)) := by
    decide +kernel
  have hchars : (Text.Source.ofString settingsText).chars? = some settingsText.toList := by
    decide +kernel
  have htokens : Yaml.tokens? settingsText.toList = some tokens := by
    decide +kernel
  have hdocument : Yaml.document? tokens = some (.mapping entries, {}) := rfl
  have hkeys : ∀ e ∈ entries, ∃ key, Yaml.text? {} e.1 = some key := by
    simp only [entries, List.forall_mem_cons]
    exact ⟨⟨_, rfl⟩, ⟨_, rfl⟩, ⟨_, rfl⟩, by simp⟩
  exact .present (FileTree.openFile_of_lookup hfile)
    ⟨_, _, _, _, _, hchars, htokens, hdocument, .mapping rfl hkeys, readFrom_entries⟩

/-- The snapshot of the run loads. -/
theorem load_files : (Snapshot.detect files options.input).load files = .ok model := by
  decide +kernel

/-- The output path of the run takes any text. -/
theorem accepts_output (text : String) : files.Accepts "tasks.d.ts" text {} :=
  ⟨["work", "tasks.d.ts"], ⟨by decide, ⟨_, rfl, .vacant⟩, rfl⟩, fun limit hlimit => nomatch hlimit⟩

/-- The name of the root and the place come from the file, the naming, the module and the amount
from the options, and the character is the default. -/
theorem generate_run_spec_tasks :
    (Snapshot.detect files options.input).load files = .ok model ∧
    SettingsFile files {} options.config layer ∧
    (options.generate.run files {}).code = 0 ∧ (options.generate.run files {}).output = "" ∧
    (options.generate.run files {}).files.lookup "tasks.d.ts" = .ok (.file (Text.Source.ofString
      ((model.build .pascalCase).schema.render ⟨⟨1, ' '⟩, "Tasks", "#tasks"⟩))) := by
  refine ⟨load_files, settingsFile, ?_⟩
  obtain ⟨⟨naming, rootName, moduleName, ⟨amount, character⟩, output⟩, rfl, rfl, rfl, rfl, rfl, rfl,
    -, hpath, -, -, -, hreceives, -⟩ :=
    Options.generate_run_spec files {} options layer model load_files settingsFile
  obtain ⟨hsilent, ⟨hcode, -, hfile, -⟩ | ⟨-, hrefused⟩⟩ := hpath "tasks.d.ts" _ rfl rfl
  · exact ⟨hcode, hsilent, hfile⟩
  · exact absurd (hreceives "tasks.d.ts" _ (accepts_output _)) hrefused

end Tasks

end ContentTypes
