import ContentTypes.Snapshot
import Mathlib.Data.List.Basic

/-! What a settings file sets. Its entries are read one by one, but a key shows in its own setting
only and stands there once. So a file sets some of the settings, whatever the order of its entries
and whatever else it holds, and leaves the others at their defaults. -/

namespace ContentTypes

namespace Yaml

def valuesOf (anchors : Anchors) (entries : List (Node × Node)) (key : String) : List Node :=
  (entries.filter fun e => text? anchors e.1 = some key).map (·.2)

/-- What entries give for a key: nothing, or what is read of the one value under it. -/
inductive Gives {β : Type} (anchors : Anchors) (entries : List (Node × Node)) (key : String)
    (read : Anchors → Node → Option β) : Option β → Prop
  | absent (h : valuesOf anchors entries key = []) : Gives anchors entries key read none
  | present {v : Node} {b : β} (h : valuesOf anchors entries key = [v])
      (hread : read anchors v = some b) : Gives anchors entries key read (some b)

/-- The entries of a node from which settings are read. Every key is a scalar. -/
inductive Holds (anchors : Anchors) (n : Node) : List (Node × Node) → Prop
  | mapping {entries : List (Node × Node)} (h : anchors.resolve? n = some (.mapping entries))
      (hkeys : ∀ e ∈ entries, ∃ key, text? anchors e.1 = some key) : Holds anchors n entries
  | nothing {tag : Option String} (h : anchors.resolve? n = some (.scalar "" .plain tag)) :
      Holds anchors n []

/-- Entries give one value for a key. -/
theorem Gives.unique {β : Type} {anchors : Anchors} {entries : List (Node × Node)} {key : String}
    {read : Anchors → Node → Option β} {o o' : Option β} (h : Gives anchors entries key read o)
    (h' : Gives anchors entries key read o') : o = o' := by
  cases h with
  | absent hnone =>
    cases h' with
    | absent _ => rfl
    | present hone _ =>
      rw [hnone] at hone
      cases hone
  | present hone hread =>
    cases h' with
    | absent hnone =>
      rw [hnone] at hone
      cases hone
    | present hone' hread' =>
      rw [hone] at hone'
      cases hone'
      rw [← hread, hread']

/-- The setting of a key shows as one part of the settings, and the others leave that part alone. -/
structure Shows {α β : Type} (settings : List (Setting α)) (key : String)
    (read : Anchors → Node → Option β) (get : α → β) : Prop where
  found : ∃ set : α → β → α, settings.find? (·.key == key) = some (.of key read set) ∧
    ∀ a b, get (set a b) = b
  others : ∀ s ∈ settings, s.key ≠ key → ∀ anchors a v a', s.put anchors a v = some a' →
    get a' = get a

def Setting.Takes {α : Type} (s : Setting α) (anchors : Anchors) (entries : List (Node × Node)) :
    Prop :=
  valuesOf anchors entries s.key = [] ∨
    ∃ v, valuesOf anchors entries s.key = [v] ∧ ∀ a, ∃ a', s.put anchors a v = some a'

section

variable {anchors : Anchors} {entries : List (Node × Node)} {k v : Node} {key : String}

theorem valuesOf_cons_of_eq (hk : text? anchors k = some key) (v : Node)
    (entries : List (Node × Node)) :
    valuesOf anchors ((k, v) :: entries) key = v :: valuesOf anchors entries key := by
  unfold valuesOf
  rw [List.filter_cons_of_pos (by simpa using hk), List.map_cons]

theorem valuesOf_cons_of_ne (hk : text? anchors k ≠ some key) (v : Node)
    (entries : List (Node × Node)) :
    valuesOf anchors ((k, v) :: entries) key = valuesOf anchors entries key := by
  unfold valuesOf
  rw [List.filter_cons_of_neg (by simpa using hk)]

variable {α β : Type} {settings : List (Setting α)} {seen : List String} {a a' : α}

theorem Gives.of_valuesOf_eq {entries' : List (Node × Node)} {read : Anchors → Node → Option β}
    {o : Option β} (h : Gives anchors entries key read o)
    (heq : valuesOf anchors entries' key = valuesOf anchors entries key) :
    Gives anchors entries' key read o := by
  cases h with
  | absent hv => exact .absent (heq.trans hv)
  | present hv hread => exact .present (heq.trans hv) hread

theorem find?_key {s : Setting α} (h : settings.find? (·.key == key) = some s) :
    s ∈ settings ∧ s.key = key :=
  ⟨List.mem_of_find?_eq_some h, by simpa using List.find?_some h⟩

/-- What one entry does: its key is a scalar, and it is passed over or read into the setting of this
key, which no entry before it has. -/
theorem readEntries_cons_eq_some_iff :
    readEntries anchors settings ((k, v) :: entries) a seen = some a' ↔
      ∃ key, text? anchors k = some key ∧
        ((settings.find? (·.key == key) = none ∧
            readEntries anchors settings entries a seen = some a') ∨
          ∃ s a₁, settings.find? (·.key == key) = some s ∧ key ∉ seen ∧
            s.put anchors a v = some a₁ ∧
            readEntries anchors settings entries a₁ (key :: seen) = some a') := by
  rw [readEntries]
  cases htext : text? anchors k with
  | none => simp only [reduceCtorEq, false_and, exists_false]
  | some key =>
    simp only [Option.some.injEq, exists_eq_left']
    cases hfind : settings.find? (·.key == key) with
    | none => simp only [true_and, reduceCtorEq, false_and, exists_false, or_false]
    | some s =>
      by_cases hseen : key ∈ seen
      · simp [hseen]
      · cases hput : s.put anchors a v with
        | none => simp [hseen, hput]
        | some a₁ => simp [hseen, hput]

theorem keys_of_readEntries (h : readEntries anchors settings entries a seen = some a') :
    ∀ e ∈ entries, ∃ key, text? anchors e.1 = some key := by
  induction entries generalizing a seen with
  | nil =>
    intro e he
    cases he
  | cons entry rest ih =>
    obtain ⟨key, htext, hrest⟩ := readEntries_cons_eq_some_iff.mp h
    intro e he
    rcases List.mem_cons.mp he with rfl | he
    · exact ⟨key, htext⟩
    · rcases hrest with ⟨-, hrest⟩ | ⟨s, a₁, -, -, -, hrest⟩
      · exact ih hrest e he
      · exact ih hrest e he

/-- A part of the settings ends as what the entries give for its key, and as it began where they
give nothing. -/
theorem Shows.gives {read : Anchors → Node → Option β} {get : α → β}
    (hshows : Shows settings key read get)
    (h : readEntries anchors settings entries a seen = some a') :
    ∃ o, Gives anchors entries key read o ∧ get a' = o.getD (get a) ∧ (key ∈ seen → o = none) := by
  obtain ⟨set, hfound, hset⟩ := hshows.found
  -- The entries that are left know what came before them only as settings and used keys. A used key
  -- cannot come again, so what one entry gives is all that is given for its key.
  induction entries generalizing a seen with
  | nil =>
    rw [readEntries] at h
    rw [Option.some.inj h]
    exact ⟨none, .absent rfl, rfl, fun _ => rfl⟩
  | cons entry rest ih =>
    obtain ⟨key', htext, ⟨hfind, hrest⟩ | ⟨s, a₁, hfind, hseen, hput, hrest⟩⟩ :=
      readEntries_cons_eq_some_iff.mp h
    · -- A key that is not known is another one.
      have hne : text? anchors entry.1 ≠ some key := by
        rw [htext]
        rintro hkey
        rw [Option.some.inj hkey, hfound] at hfind
        cases hfind
      obtain ⟨o, hgives, hget, hnone⟩ := ih hrest
      exact ⟨o, hgives.of_valuesOf_eq (valuesOf_cons_of_ne hne entry.2 rest), hget, hnone⟩
    · obtain ⟨o, hgives, hget, hnone⟩ := ih hrest
      by_cases hkey : key' = key
      · -- The setting itself. No later entry has its key.
        subst hkey
        obtain rfl := hnone List.mem_cons_self
        rw [hfound] at hfind
        obtain rfl := Option.some.inj hfind
        obtain ⟨b, hread, rfl⟩ := Option.map_eq_some_iff.mp hput
        refine ⟨some b, ?_, ?_, ?_⟩
        · cases hgives with
          | absent hv =>
            apply Gives.present _ hread
            rw [valuesOf_cons_of_eq htext, hv]
        · rw [hget]
          exact hset a b
        · intro hmem
          exact absurd hmem hseen
      · have hne : text? anchors entry.1 ≠ some key := by
          rw [htext]
          exact fun heq => hkey (Option.some.inj heq)
        have hvalues := valuesOf_cons_of_ne hne entry.2 rest
        obtain ⟨hmem, hskey⟩ := find?_key hfind
        have hkeep := hshows.others s hmem (hskey ▸ hkey) anchors a entry.2 a₁ hput
        refine ⟨o, hgives.of_valuesOf_eq hvalues, ?_, fun hm => hnone (List.mem_cons_of_mem _ hm)⟩
        rw [hget, hkeep]

/-- Entries are read if each known key stands there at most once, with a value that its setting can
take. -/
theorem exists_readEntries (hkeys : ∀ e ∈ entries, ∃ key, text? anchors e.1 = some key)
    (h : ∀ s ∈ settings, s.Takes anchors entries)
    (hseen : ∀ key ∈ seen, valuesOf anchors entries key = []) :
    ∃ a', readEntries anchors settings entries a seen = some a' := by
  induction entries generalizing a seen with
  | nil => exact ⟨a, rfl⟩
  | cons entry rest ih =>
    obtain ⟨key, htext⟩ := hkeys entry List.mem_cons_self
    have hrest : ∀ e ∈ rest, ∃ key, text? anchors e.1 = some key :=
      fun e he => hkeys e (List.mem_cons_of_mem entry he)
    have hvalues := valuesOf_cons_of_eq htext entry.2 rest
    have hother : ∀ key', key' ≠ key →
        valuesOf anchors (entry :: rest) key' = valuesOf anchors rest key' := by
      intro key' hne
      apply valuesOf_cons_of_ne
      rw [htext]
      exact fun heq => hne (Option.some.inj heq).symm
    -- The key of this entry has a value, so it is none of those that are used up.
    have hfresh : key ∉ seen := by
      intro hmem
      have hnone := hseen key hmem
      rw [hvalues] at hnone
      cases hnone
    have hseen' : ∀ key' ∈ seen, valuesOf anchors rest key' = [] := by
      intro key' hmem
      rw [← hother key' (fun heq => hfresh (heq ▸ hmem))]
      exact hseen key' hmem
    cases hfind : settings.find? (·.key == key) with
    | none =>
      have hunknown : ∀ s ∈ settings, s.key ≠ key := by
        simpa using hfind
      have htakes : ∀ s ∈ settings, s.Takes anchors rest := by
        intro s hs
        unfold Setting.Takes
        rw [← hother s.key (hunknown s hs)]
        exact h s hs
      obtain ⟨a', ha'⟩ := ih (a := a) hrest htakes hseen'
      exact ⟨a', readEntries_cons_eq_some_iff.mpr ⟨key, htext, Or.inl ⟨hfind, ha'⟩⟩⟩
    | some s =>
      obtain ⟨hmem, hkey⟩ := find?_key hfind
      rcases h s hmem with hnone | ⟨v, hone, hput⟩
      · rw [hkey, hvalues] at hnone
        cases hnone
      · rw [hkey, hvalues] at hone
        obtain ⟨rfl, hlast⟩ := List.cons.inj hone
        have htakes : ∀ t ∈ settings, t.Takes anchors rest := by
          intro t ht
          by_cases htkey : t.key = key
          · left
            rw [htkey]
            exact hlast
          · unfold Setting.Takes
            rw [← hother t.key htkey]
            exact h t ht
        obtain ⟨a₁, ha₁⟩ := hput a
        obtain ⟨a', ha'⟩ := ih (a := a₁) hrest htakes (List.forall_mem_cons.mpr ⟨hlast, hseen'⟩)
        exact ⟨a', readEntries_cons_eq_some_iff.mpr
          ⟨key, htext, Or.inr ⟨s, a₁, hfind, hfresh, ha₁, ha'⟩⟩⟩

theorem Gives.takes {read : Anchors → Node → Option β} {o : Option β}
    (h : Gives anchors entries key read o) (set : α → β → α) :
    (Setting.of key read set).Takes anchors entries := by
  cases h with
  | absent hnone => exact Or.inl hnone
  | present hone hread =>
    refine Or.inr ⟨_, hone, ?_⟩
    intro a
    exact ⟨_, congrArg (Option.map (set a)) hread⟩

/-- Settings are read from the entries that a node holds. -/
theorem readSettings_eq_some_iff {initial : α} {n : Node} :
    readSettings settings initial anchors n = some a ↔
      ∃ entries, Holds anchors n entries ∧
        readEntries anchors settings entries initial [] = some a := by
  constructor
  · intro h
    unfold readSettings at h
    split at h
    · rename_i entries hn
      exact ⟨entries, .mapping hn (keys_of_readEntries h), h⟩
    · rename_i text tag hn
      split at h
      · rename_i hempty
        rw [String.isEmpty_iff.mp hempty] at hn
        exact ⟨[], .nothing hn, h⟩
      · cases h
    · cases h
  · rintro ⟨entries, hholds, hread⟩
    unfold readSettings
    cases hholds with
    | mapping hn _ =>
      rw [hn]
      exact hread
    | nothing hn =>
      rw [hn]
      exact hread

end

/-! ### The settings of a run -/

theorem shows_amount : Shows indentSettings "amount" amount? Indent.amount :=
  ⟨⟨_, rfl, fun _ _ => rfl⟩, by simp [indentSettings, Setting.of]⟩

theorem shows_char : Shows indentSettings "char" char? Indent.character :=
  ⟨⟨_, rfl, fun _ _ => rfl⟩, by simp [indentSettings, Setting.of]⟩

theorem shows_naming : Shows configurationSettings "naming" naming? Configuration.naming :=
  ⟨⟨_, rfl, fun _ _ => rfl⟩, by simp [configurationSettings, Setting.of]⟩

theorem shows_rootName : Shows configurationSettings "root_name" text? Configuration.rootName :=
  ⟨⟨_, rfl, fun _ _ => rfl⟩, by simp [configurationSettings, Setting.of]⟩

theorem shows_moduleName :
    Shows configurationSettings "module_name" text? Configuration.moduleName :=
  ⟨⟨_, rfl, fun _ _ => rfl⟩, by simp [configurationSettings, Setting.of]⟩

theorem shows_indent :
    Shows configurationSettings "indent" (readSettings indentSettings {}) Configuration.indent :=
  ⟨⟨_, rfl, fun _ _ => rfl⟩, by simp [configurationSettings, Setting.of]⟩

theorem shows_output : Shows configurationSettings "output" path? Configuration.output :=
  ⟨⟨_, rfl, fun _ _ => rfl⟩, by simp [configurationSettings, Setting.of]⟩

section

variable {anchors : Anchors} {entries : List (Node × Node)} {n : Node}

theorem Holds.keys (h : Holds anchors n entries) :
    ∀ e ∈ entries, ∃ key, text? anchors e.1 = some key := by
  cases h with
  | mapping _ hkeys => exact hkeys
  | nothing _ =>
    intro e he
    cases he

theorem Holds.unique {entries' : List (Node × Node)} (h : Holds anchors n entries)
    (h' : Holds anchors n entries') : entries = entries' := by
  cases h with
  | mapping hn _ =>
    cases h' with
    | mapping hn' _ =>
      rw [hn] at hn'
      cases hn'
      rfl
    | nothing hn' =>
      rw [hn] at hn'
      cases hn'
  | nothing hn =>
    cases h' with
    | mapping hn' _ =>
      rw [hn] at hn'
      cases hn'
    | nothing _ => rfl

/-- The two halves of an indentation come from their own keys. -/
theorem gives_of_readEntries_indent {i : Indent}
    (h : readEntries anchors indentSettings entries {} [] = some i) :
    ∃ amount character, Gives anchors entries "amount" amount? amount ∧
      Gives anchors entries "char" char? character ∧
      i = ⟨amount.getD 4, character.getD ' '⟩ := by
  obtain ⟨amount, hamount, hget, -⟩ := shows_amount.gives h
  obtain ⟨character, hchar, hget', -⟩ := shows_char.gives h
  refine ⟨amount, character, hamount, hchar, ?_⟩
  calc
    i = ⟨i.amount, i.character⟩ := rfl
    _ = ⟨amount.getD 4, character.getD ' '⟩ := by rw [hget, hget']

/-- An indentation is read exactly from a mapping that gives its halves or leaves them out. -/
theorem readSettings_indent_iff {i : Indent} :
    readSettings indentSettings {} anchors n = some i ↔
      ∃ entries amount character, Holds anchors n entries ∧
        Gives anchors entries "amount" amount? amount ∧
        Gives anchors entries "char" char? character ∧
        i = ⟨amount.getD 4, character.getD ' '⟩ := by
  rw [readSettings_eq_some_iff]
  constructor
  · rintro ⟨entries, hholds, hread⟩
    obtain ⟨amount, character, hamount, hchar, hi⟩ := gives_of_readEntries_indent hread
    exact ⟨entries, amount, character, hholds, hamount, hchar, hi⟩
  · rintro ⟨entries, amount, character, hholds, hamount, hchar, hi⟩
    have hreadable : ∃ i', readEntries anchors indentSettings entries {} [] = some i' := by
      apply exists_readEntries hholds.keys
      · unfold indentSettings
        simp only [List.forall_mem_cons]
        exact ⟨hamount.takes _, hchar.takes _, by simp⟩
      · simp
    -- The entries are read as something, and this is what they give, since they give one thing.
    obtain ⟨i', hread⟩ := hreadable
    obtain ⟨amount', character', hamount', hchar', hi'⟩ := gives_of_readEntries_indent hread
    rw [hamount'.unique hamount, hchar'.unique hchar, ← hi] at hi'
    exact ⟨entries, hholds, hi' ▸ hread⟩

/-- What entries give for the two halves of the indentation: nothing, or what the one mapping under
its key gives for each of them. -/
inductive GivesIndent (anchors : Anchors) (entries : List (Node × Node)) :
    Option UInt64 → Option Char → Prop
  | absent (h : valuesOf anchors entries "indent" = []) : GivesIndent anchors entries none none
  | present {v : Node} {inner : List (Node × Node)} {amount : Option UInt64}
      {character : Option Char} (h : valuesOf anchors entries "indent" = [v])
      (hholds : Holds anchors v inner) (hamount : Gives anchors inner "amount" amount? amount)
      (hchar : Gives anchors inner "char" char? character) :
      GivesIndent anchors entries amount character

theorem GivesIndent.unique {amount amount' : Option UInt64} {character character' : Option Char}
    (h : GivesIndent anchors entries amount character)
    (h' : GivesIndent anchors entries amount' character') :
    amount = amount' ∧ character = character' := by
  cases h with
  | absent hnone =>
    cases h' with
    | absent _ => exact ⟨rfl, rfl⟩
    | present hone _ _ _ =>
      rw [hnone] at hone
      cases hone
  | present hone hholds hamount hchar =>
    cases h' with
    | absent hnone =>
      rw [hnone] at hone
      cases hone
    | present hone' hholds' hamount' hchar' =>
      rw [hone] at hone'
      cases hone'
      cases hholds.unique hholds'
      exact ⟨hamount.unique hamount', hchar.unique hchar'⟩

theorem givesIndent_iff {i : Indent} :
    (∃ o, Gives anchors entries "indent" (readSettings indentSettings {}) o ∧ i = o.getD {}) ↔
      ∃ amount character, GivesIndent anchors entries amount character ∧
        i = ⟨amount.getD 4, character.getD ' '⟩ := by
  constructor
  · rintro ⟨o, hgives, rfl⟩
    cases hgives with
    | absent h => exact ⟨none, none, .absent h, rfl⟩
    | present h hread =>
      obtain ⟨inner, amount, character, hholds, hamount, hchar, hi⟩ :=
        readSettings_indent_iff.mp hread
      exact ⟨amount, character, .present h hholds hamount hchar, hi⟩
  · rintro ⟨amount, character, hgives, rfl⟩
    cases hgives with
    | absent h => exact ⟨none, .absent h, rfl⟩
    | present h hholds hamount hchar =>
      have hread := readSettings_indent_iff.mpr
        ⟨_, amount, character, hholds, hamount, hchar, rfl⟩
      exact ⟨_, .present h hread, rfl⟩

end

end Yaml

/-- Settings that are given somewhere. Each of them is given or not, whatever the others are. -/
structure Layer where
  naming : Option Naming := none
  rootName : Option String := none
  moduleName : Option String := none
  amount : Option UInt64 := none
  character : Option Char := none
  /-- A place for the output, or that there is none. -/
  output : Option (Option String) := none

namespace Layer

def applyTo (l : Layer) (c : Configuration) : Configuration where
  naming := l.naming.getD c.naming
  rootName := l.rootName.getD c.rootName
  moduleName := l.moduleName.getD c.moduleName
  indent := ⟨l.amount.getD c.indent.amount, l.character.getD c.indent.character⟩
  output := l.output.getD c.output

/-- The entries of a file give these settings under their keys, and no others. -/
structure ReadFrom (anchors : Yaml.Anchors) (entries : List (Yaml.Node × Yaml.Node)) (l : Layer) :
    Prop where
  naming : Yaml.Gives anchors entries "naming" Yaml.naming? l.naming
  rootName : Yaml.Gives anchors entries "root_name" Yaml.text? l.rootName
  moduleName : Yaml.Gives anchors entries "module_name" Yaml.text? l.moduleName
  indent : Yaml.GivesIndent anchors entries l.amount l.character
  output : Yaml.Gives anchors entries "output" Yaml.path? l.output

def SetBy (content : Text.Source) (l : Layer) : Prop :=
  ∃ chars tokens node anchors entries, content.chars? = some chars ∧
    Yaml.tokens? chars = some tokens ∧ Yaml.document? tokens = some (node, anchors) ∧
    Yaml.Holds anchors node entries ∧ l.ReadFrom anchors entries

section

variable {anchors : Yaml.Anchors} {entries : List (Yaml.Node × Yaml.Node)} {l l' : Layer}

/-- The entries of a file give one layer of settings. -/
theorem ReadFrom.unique (h : l.ReadFrom anchors entries) (h' : l'.ReadFrom anchors entries) :
    l = l' := by
  obtain ⟨naming, rootName, moduleName, amount, character, output⟩ := l
  obtain ⟨hamount, hcharacter⟩ := h.indent.unique h'.indent
  obtain rfl := h.naming.unique h'.naming
  obtain rfl := h.rootName.unique h'.rootName
  obtain rfl := h.moduleName.unique h'.moduleName
  obtain rfl := hamount
  obtain rfl := hcharacter
  obtain rfl := h.output.unique h'.output
  rfl

/-- Settings that were read are those of some keys over the defaults. -/
theorem exists_readFrom {c : Configuration}
    (h : Yaml.readEntries anchors Yaml.configurationSettings entries {} [] = some c) :
    ∃ l : Layer, l.ReadFrom anchors entries ∧ c = l.applyTo {} := by
  obtain ⟨naming, hnaming, hget₁, -⟩ := Yaml.shows_naming.gives h
  obtain ⟨rootName, hroot, hget₂, -⟩ := Yaml.shows_rootName.gives h
  obtain ⟨moduleName, hmodule, hget₃, -⟩ := Yaml.shows_moduleName.gives h
  obtain ⟨indent, hindent, hget₄, -⟩ := Yaml.shows_indent.gives h
  obtain ⟨output, houtput, hget₅, -⟩ := Yaml.shows_output.gives h
  obtain ⟨amount, character, hgives, hi⟩ := Yaml.givesIndent_iff.mp ⟨indent, hindent, rfl⟩
  refine ⟨⟨naming, rootName, moduleName, amount, character, output⟩,
    ⟨hnaming, hroot, hmodule, hgives, houtput⟩, ?_⟩
  calc
    c = ⟨c.naming, c.rootName, c.moduleName, c.indent, c.output⟩ := rfl
    _ = ⟨naming.getD .database, rootName.getD "DirectusSchema", moduleName.getD "#app",
        indent.getD {}, output.getD none⟩ := by rw [hget₁, hget₂, hget₃, hget₄, hget₅]
    _ = ⟨naming.getD .database, rootName.getD "DirectusSchema", moduleName.getD "#app",
        ⟨amount.getD 4, character.getD ' '⟩, output.getD none⟩ := by rw [hi]

/-- Entries that give settings are read as these over the defaults. -/
theorem ReadFrom.readEntries (hl : l.ReadFrom anchors entries)
    (hkeys : ∀ e ∈ entries, ∃ key, Yaml.text? anchors e.1 = some key) :
    Yaml.readEntries anchors Yaml.configurationSettings entries {} [] = some (l.applyTo {}) := by
  obtain ⟨indent, hindent, -⟩ := Yaml.givesIndent_iff.mpr ⟨l.amount, l.character, hl.indent, rfl⟩
  have hreadable : ∃ c,
      Yaml.readEntries anchors Yaml.configurationSettings entries {} [] = some c := by
    apply Yaml.exists_readEntries hkeys
    · unfold Yaml.configurationSettings
      simp only [List.forall_mem_cons]
      exact ⟨hl.naming.takes _, hl.rootName.takes _, hl.moduleName.takes _, hindent.takes _,
        hl.output.takes _, by simp⟩
    · simp
  obtain ⟨c, hread⟩ := hreadable
  obtain ⟨l', hl', hc⟩ := exists_readFrom hread
  rw [hl'.unique hl] at hc
  rw [hread, hc]

end

end Layer

namespace Configuration

/-- A file is read exactly when it gives some settings, as these over the defaults. -/
theorem ofYaml?_eq_some_iff {content : Text.Source} {c : Configuration} :
    ofYaml? content = some c ↔ ∃ l : Layer, l.SetBy content ∧ c = l.applyTo {} := by
  unfold ofYaml?
  simp only [Option.bind_eq_bind, Option.bind_eq_some_iff, Yaml.readSettings_eq_some_iff,
    Prod.exists]
  constructor
  · rintro ⟨chars, hchars, tokens, htokens, node, anchors, hnode, entries, hholds, hread⟩
    obtain ⟨l, hl, hc⟩ := Layer.exists_readFrom hread
    exact ⟨l, ⟨chars, tokens, node, anchors, entries, hchars, htokens, hnode, hholds, hl⟩, hc⟩
  · rintro ⟨l, ⟨chars, tokens, node, anchors, entries, hchars, htokens, hnode, hholds, hl⟩, rfl⟩
    have hread := hl.readEntries hholds.keys
    exact ⟨chars, hchars, tokens, htokens, node, anchors, hnode, entries, hholds, hread⟩

end Configuration

end ContentTypes
