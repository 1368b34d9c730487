import ContentTypes.Arguments
import ContentTypes.Proofs.PrintedJson
import Mathlib.Data.List.Nodup

/-! Options with their values attached are understood in any order. Each option has its own name, so
what stands under a name does not hang on the options around it. -/

namespace ContentTypes

namespace Arguments

def attached (o : String × String) : String := "--" ++ o.1 ++ "=" ++ o.2

/-- A name without an equals sign is split off at the first one. -/
theorem splitAttached_append {name : List Char} (hname : '=' ∉ name) (value : List Char) :
    splitAttached (name ++ '=' :: value) = (String.ofList name, some (String.ofList value)) := by
  have hall : ∀ c ∈ name, decide (c ≠ '=') = true := by
    intro c hc
    apply decide_eq_true
    rintro rfl
    exact hname hc
  unfold splitAttached
  rw [List.takeWhile_append_of_pos hall, List.dropWhile_append_of_pos hall]
  simp

theorem of_attached {o : String × String} (hname : '=' ∉ o.1.toList) :
    Argument.of (attached o) = .long o.1 (some o.2) := by
  have hchars : (attached o).toList = '-' :: '-' :: (o.1.toList ++ '=' :: o.2.toList) := by
    unfold attached
    simp [String.toList_append]
  have hsplit := splitAttached_append hname o.2.toList
  rw [String.ofList_toList, String.ofList_toList] at hsplit
  obtain ⟨x, rest, hrest⟩ := List.exists_cons_of_ne_nil
    (show o.1.toList ++ '=' :: o.2.toList ≠ [] by simp)
  unfold Argument.of
  rw [hchars, hrest]
  show Argument.long (splitAttached (x :: rest)).1 (splitAttached (x :: rest)).2 = _
  rw [← hrest, hsplit]

/-- Options that are attached to their values are all taken in, the last one in front. -/
theorem readSide_attached (form : CommandForm) (options : List (String × String))
    (hoptions : ∀ o ∈ options, o.1 ∈ form.options ∧ '=' ∉ o.1.toList)
    (hnodup : (options.map (·.1)).Nodup) (r : Reading)
    (hfresh : ∀ o ∈ options, r.value? o.1 = none) :
    readSide form r (options.map attached) =
      .done { r with values := options.reverse ++ r.values } := by
  -- No option that is still to come has a value yet: names come once.
  induction options generalizing r with
  | nil => rfl
  | cons o rest ih =>
    obtain ⟨hname, hsign⟩ := hoptions o List.mem_cons_self
    obtain ⟨hnew, hrest⟩ := List.nodup_cons.mp hnodup
    have hadd : r.addValue o.1 o.2 = some { r with values := o :: r.values } := by
      have hfree : r.values.lookup o.1 = none := hfresh o List.mem_cons_self
      unfold Reading.addValue
      rw [hfree]
      rfl
    have hstill : ∀ o' ∈ rest,
        ({ r with values := o :: r.values } : Reading).value? o'.1 = none := by
      intro o' ho'
      have hne : o'.1 ≠ o.1 := by
        intro heq
        exact hnew (List.mem_map.mpr ⟨o', ho', heq⟩)
      have hfree : r.values.lookup o'.1 = none := hfresh o' (List.mem_cons_of_mem o ho')
      show (o :: r.values).lookup o'.1 = none
      rw [List.lookup_cons, beq_false_of_ne hne]
      exact hfree
    have hmore := ih (fun o' ho' => hoptions o' (List.mem_cons_of_mem o ho')) hrest _ hstill
    rw [List.map_cons, readSide, of_attached hsign]
    simp only [List.contains_eq_mem, hname, decide_true, if_true, hadd]
    rw [hmore, List.reverse_cons, List.append_assoc, List.singleton_append]

/-- The arguments of a command whose options are attached to their values. -/
theorem read_attached {form : CommandForm} (hform : form ∈ commandForms)
    {options : List (String × String)}
    (hoptions : ∀ o ∈ options, o.1 ∈ form.options ∧ '=' ∉ o.1.toList)
    (hnodup : (options.map (·.1)).Nodup) {c : Command}
    (hc : command? form.name { values := options.reverse } = some c) :
    read (form.name :: options.map attached) = .run {} c := by
  have hword : Argument.of form.name = .word form.name ∧ form.name ≠ "help" ∧
      commandForms.find? (·.name = form.name) = some form := by
    simp only [commandForms, List.mem_cons, List.not_mem_nil, or_false] at hform
    rcases hform with rfl | rfl | rfl
    · exact ⟨rfl, by decide, rfl⟩
    · exact ⟨rfl, by decide, rfl⟩
    · exact ⟨rfl, by decide, rfl⟩
  obtain ⟨hname, hhelp, hfind⟩ := hword
  have hside := readSide_attached form options hoptions hnodup {} fun _ _ => rfl
  unfold read
  rw [readSide, hname]
  simp only [hhelp, if_false, hfind, hside, List.append_nil, hc]
  rfl

/-! ### The options of a generating run -/

def given (slots : List (String × Option String)) : List (String × String) :=
  slots.filterMap fun s => s.2.map fun value => (s.1, value)

theorem mem_given_iff {slots : List (String × Option String)} {o : String × String} :
    o ∈ given slots ↔ (o.1, some o.2) ∈ slots := by
  obtain ⟨name, value⟩ := o
  unfold given
  rw [List.mem_filterMap]
  constructor
  · rintro ⟨⟨name', value'⟩, hs, hvalue⟩
    obtain ⟨_, hsome, heq⟩ := Option.map_eq_some_iff.mp hvalue
    cases heq
    rwa [show value' = some value from hsome] at hs
  · intro hs
    exact ⟨_, hs, rfl⟩

theorem nodup_given {slots : List (String × Option String)} (h : (slots.map (·.1)).Nodup) :
    ((given slots).map (·.1)).Nodup := by
  apply List.pairwise_map.mpr
  apply (List.pairwise_map.mp h).filterMap
  intro s s' hne o ho o' ho'
  obtain ⟨_, -, rfl⟩ := Option.map_eq_some_iff.mp ho
  obtain ⟨_, -, rfl⟩ := Option.map_eq_some_iff.mp ho'
  exact hne

/-- Where no name comes twice, what is found under a name is what stands under it. -/
theorem lookup_eq_some_iff_mem {α : Type} {l : List (String × α)} (h : (l.map (·.1)).Nodup)
    {name : String} {a : α} : l.lookup name = some a ↔ (name, a) ∈ l := by
  induction l with
  | nil => simp
  | cons entry rest ih =>
    obtain ⟨key, value⟩ := entry
    obtain ⟨hnew, hrest⟩ := List.nodup_cons.mp h
    rw [List.lookup_cons, List.mem_cons]
    by_cases hkey : name = key
    · subst hkey
      have habsent : (name, a) ∉ rest := fun hmem => hnew (List.mem_map.mpr ⟨_, hmem, rfl⟩)
      simp [habsent, eq_comm]
    · simp [beq_false_of_ne hkey, hkey, ih hrest]

/-- Among the options that are given every one is found by its name. -/
theorem lookup_given {slots : List (String × Option String)} (h : (slots.map (·.1)).Nodup)
    (name : String) : (given slots).lookup name = (slots.lookup name).join := by
  apply Option.ext
  intro value
  rw [lookup_eq_some_iff_mem (nodup_given h), mem_given_iff, Option.join_eq_some_iff,
    lookup_eq_some_iff_mem h]

/-- Options of different names are found in any order. -/
theorem lookup_eq_of_perm {options options' : List (String × String)}
    (hperm : options.Perm options') (h : (options.map (·.1)).Nodup) (name : String) :
    options.lookup name = options'.lookup name := by
  have h' := (hperm.map (·.1)).nodup_iff.mp h
  apply Option.ext
  intro value
  rw [lookup_eq_some_iff_mem h, lookup_eq_some_iff_mem h', hperm.mem_iff]

end Arguments

/-- The options of a run that makes declarations. Each of them is given or not, whatever the others
are. -/
structure Options where
  input : String
  config : Option String := none
  naming : Option Naming := none
  output : Option String := none
  rootName : Option String := none
  moduleName : Option String := none
  amount : Option UInt64 := none
  character : Option Char := none

namespace Options

def schema (o : Options) : SchemaArguments := ⟨o.input, o.config, o.naming⟩

def generate (o : Options) : Command :=
  .generate o.schema o.output o.rootName o.moduleName o.amount o.character

def inspect (o : Options) : Command := .inspect o.schema

def slots (o : Options) : List (String × Option String) :=
  [("input", some o.input), ("config", o.config), ("naming", o.naming.map Naming.selector),
    ("output", o.output), ("root-name", o.rootName), ("module-name", o.moduleName),
    ("indent-amount", o.amount.map fun n => String.ofList (Nat.toDigits 10 n.toNat)),
    ("indent-char", o.character.map fun c => String.ofList [c])]

structure PathsNamed (o : Options) : Prop where
  input : o.input ≠ ""
  config : o.config ≠ some ""
  output : o.output ≠ some ""

end Options

namespace Arguments

theorem optional?_map {α : Type} {read : String → Option α} {write : α → String}
    (h : ∀ a, read (write a) = some a) (o : Option α) : optional? read (o.map write) = some o := by
  cases o with
  | none => rfl
  | some a =>
    show (read (write a)).map some = _
    rw [h]
    rfl

theorem optional?_path {o : Option String} (h : o ≠ some "") : optional? path? o = some o := by
  cases o with
  | none => rfl
  | some s =>
    have hs : s.isEmpty = false := by
      simpa using h
    simp [optional?, path?, hs]

theorem naming?_selector (naming : Naming) : naming? naming.selector = some naming := by
  unfold naming?
  rw [Naming.ofSelector_selector]
  rfl

theorem character?_singleton (c : Char) : character? (String.ofList [c]) = some c := by
  unfold character?
  rw [String.toList_ofList]

/-- An amount is read from its decimal digits. -/
theorem amount?_toDigits (n : UInt64) :
    amount? (String.ofList (Nat.toDigits 10 n.toNat)) = some n := by
  have hdigits : ∀ x ∈ Nat.toDigits 10 n.toNat, x.isDigit = true :=
    fun x hx => Json.isDigit_of_mem_toDigits hx
  have hvalue : (Nat.toDigits 10 n.toNat).foldl (fun m c => 10 * m + (c.toNat - 0x30)) 0 =
      n.toNat := Nat.ofDigitChars_ten_toDigits
  have hlimit : n.toNat < Nat.pow 2 64 := n.toNat_lt
  have hplus : ∀ digits, Nat.toDigits 10 n.toNat ≠ '+' :: digits := by
    intro digits hsign
    have hx := hdigits '+' (by rw [hsign]; exact List.mem_cons_self)
    exact absurd hx (by decide)
  have hall : (Nat.toDigits 10 n.toNat).all Char.isDigit = true := List.all_eq_true.mpr hdigits
  have hsome : (Nat.toDigits 10 n.toNat).isEmpty = false := by simp [Nat.toDigits_ne_nil]
  unfold amount?
  rw [String.toList_ofList]
  dsimp only
  -- A sign may stand before the digits, but none is written.
  split
  · rename_i digits hsign
    exact absurd hsign (hplus digits)
  · rw [hsome, hall, hvalue, if_neg (by decide), if_pos hlimit]
    exact congrArg some UInt64.ofNat_toNat

theorem schemaArguments?_eq {o : Options} (h : o.PathsNamed) {r : Reading}
    (hinput : r.value? "input" = some o.input) (hconfig : r.value? "config" = o.config)
    (hnaming : r.value? "naming" = o.naming.map Naming.selector) :
    schemaArguments? r = some o.schema := by
  have hpath : path? o.input = some o.input := by
    unfold path?
    rw [if_neg (by simpa using h.input)]
  unfold schemaArguments?
  rw [hinput, hconfig, hnaming, optional?_path h.config, optional?_map naming?_selector]
  simp only [Option.bind_eq_bind, Option.bind_some, hpath]
  rfl

theorem generate?_eq {o : Options} (h : o.PathsNamed) {r : Reading}
    (hr : ∀ name, r.value? name = (o.slots.lookup name).join) :
    generate? r = some o.generate := by
  have hschema : schemaArguments? r = some o.schema :=
    schemaArguments?_eq h (hr "input") (hr "config") (hr "naming")
  have houtput : r.value? "output" = o.output := hr "output"
  have hroot : r.value? "root-name" = o.rootName := hr "root-name"
  have hmodule : r.value? "module-name" = o.moduleName := hr "module-name"
  have hamount : r.value? "indent-amount" =
    o.amount.map fun n => String.ofList (Nat.toDigits 10 n.toNat) := hr "indent-amount"
  have hcharacter : r.value? "indent-char" = o.character.map fun c => String.ofList [c] :=
    hr "indent-char"
  unfold generate?
  rw [hschema, houtput, hroot, hmodule, hamount, hcharacter, optional?_path h.output,
    optional?_map amount?_toDigits, optional?_map character?_singleton]
  rfl

/-- What a command makes of its options it makes of them in any order. -/
theorem read_of_perm {form : CommandForm} (hform : form ∈ commandForms)
    {slots : List (String × Option String)}
    (hnames : ∀ name ∈ slots.map (·.1), name ∈ form.options ∧ '=' ∉ name.toList)
    (hslots : (slots.map (·.1)).Nodup) {c : Command}
    (hc : ∀ r : Reading, (∀ name, r.value? name = (slots.lookup name).join) →
      command? form.name r = some c)
    {options : List (String × String)} (hperm : options.Perm (given slots)) :
    read (form.name :: options.map attached) = .run {} c := by
  have hnodup : ∀ {l : List (String × String)}, l.Perm (given slots) → (l.map (·.1)).Nodup :=
    fun hl => (hl.map (·.1)).nodup_iff.mpr (nodup_given hslots)
  -- The reading has the options from the last to the first, which is one more order of them.
  have hreverse : options.reverse.Perm (given slots) := options.reverse_perm.trans hperm
  apply read_attached hform
  · intro option hoption
    have hslot := mem_given_iff.mp (hperm.mem_iff.mp hoption)
    exact hnames option.1 (List.mem_map.mpr ⟨_, hslot, rfl⟩)
  · exact hnodup hperm
  · apply hc
    intro name
    show options.reverse.lookup name = _
    rw [lookup_eq_of_perm hreverse (hnodup hreverse), lookup_given hslots]

/-- The options of a run are read in any order. -/
theorem read_generate {o : Options} (h : o.PathsNamed) {options : List (String × String)}
    (hperm : options.Perm (given o.slots)) :
    read ("generate" :: options.map attached) = .run {} o.generate := by
  have hslots : o.slots.map (·.1) = generateForm.options := rfl
  have hform : generateForm ∈ commandForms := List.mem_cons_self
  refine read_of_perm hform ?_ ?_ (fun r hr => generate?_eq h hr) hperm
  · rw [hslots]
    decide
  · rw [hslots]
    decide

/-- The options of an inspection are read in any order. -/
theorem read_inspect {o : Options} (h : o.PathsNamed) {options : List (String × String)}
    (hperm : options.Perm (given (o.slots.take 3))) :
    read ("inspect" :: options.map attached) = .run {} o.inspect := by
  have hslots : (o.slots.take 3).map (·.1) = inspectForm.options := rfl
  have hform : inspectForm ∈ commandForms := List.mem_cons_of_mem _ List.mem_cons_self
  have hinspect : ∀ r : Reading, (∀ name, r.value? name = ((o.slots.take 3).lookup name).join) →
      command? inspectForm.name r = some o.inspect := by
    intro r hr
    show (schemaArguments? r).map Command.inspect = _
    rw [schemaArguments?_eq h (hr "input") (hr "config") (hr "naming")]
    rfl
  refine read_of_perm hform ?_ ?_ hinspect hperm
  · rw [hslots]
    decide
  · rw [hslots]
    decide

end Arguments

end ContentTypes
