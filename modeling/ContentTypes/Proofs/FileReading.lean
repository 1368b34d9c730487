import ContentTypes.Proofs.FileLines
import ContentTypes.Proofs.References
import ContentTypes.Proofs.ShownTypes

/-! Reading a declaration file back. As long as no name or literal breaks a line, every line of the
file is known: two blocks hold one body, and the body is cut into the interfaces it was made of. A
member line is never taken for the end of an interface, because it ends with a semicolon. So the
file determines its interfaces. -/

namespace ContentTypes

theorem memberLine_eq (unit name : String) (type : TypeExpr) :
    memberLine unit name type = unit ++ memberLine "" name type := by
  unfold memberLine
  simp only [String.append_assoc, String.empty_append]

/-- No member line closes an interface. -/
theorem memberLine_ne_closing (indent name : String) (type : TypeExpr) :
    memberLine indent name type ≠ "\x7d" := by
  intro h
  -- The indentation can be closing braces, so the ends of the lines have to differ.
  have hlast : (memberLine indent name type).toList.getLast? = some ';' := by
    unfold memberLine
    rw [String.toList_append]
    exact List.getLast?_concat
  rw [h] at hlast
  exact absurd hlast (by decide)

def declaredRoot (name : String) (entries : List (String × CollectionDefinition)) : Declared :=
  ⟨true, name, entries.map fun e => rootEntry "" e.1 e.2⟩

theorem rootLines_eq_lines (unit name : String) (entries : List (String × CollectionDefinition)) :
    rootLines unit name entries = (declaredRoot name entries).lines unit := by
  have hentries : entries.map (fun e => rootEntry unit e.1 e.2) =
      (entries.map fun e => rootEntry "" e.1 e.2).map (unit ++ ·) := by
    rw [List.map_map]
    exact List.map_congr_left fun e _ => memberLine_eq unit e.1 _
  unfold rootLines
  rw [hentries]
  rfl

namespace Schema

def declared (s : Schema) (c : CollectionDefinition) : Declared :=
  ⟨false, c.name, s.members "" c⟩

/-- All interfaces of a body: those of the collections in the order of their identifiers, the root
of the collections users own, and the root of all collections. -/
def declarations (s : Schema) (rootName : String) : List Declared :=
  s.entries.map (fun e => s.declared e.2) ++
    [declaredRoot rootName s.userEntries, declaredRoot allCollectionsRoot s.entries]

section

variable (s : Schema)

theorem members_eq_map (unit : String) (c : CollectionDefinition) :
    s.members unit c = (s.members "" c).map (unit ++ ·) := by
  rw [members_eq_append, members_eq_append, List.map_append, List.map_map, List.map_map]
  congr 1
  · exact List.map_congr_left fun f _ => memberLine_eq unit f.name f.type
  · exact List.map_congr_left fun f _ => memberLine_eq unit f.name (s.shownType f)

theorem interface_eq_lines (unit : String) (c : CollectionDefinition) :
    s.interface unit c = (s.declared c).lines unit := by
  unfold interface Declared.lines Declared.opening
  rw [members_eq_map]
  rfl

/-- The body of a file is its interfaces with blank lines between them. -/
theorem bodyLines_eq_spaced (unit rootName : String) :
    (s.bodyLines unit rootName).1 = Declared.spaced unit (s.declarations rootName) := by
  have hroots : Declared.spaced unit
      [declaredRoot rootName s.userEntries, declaredRoot allCollectionsRoot s.entries] =
        rootLines unit rootName s.userEntries ++ "" ::
          rootLines unit allCollectionsRoot s.entries := by
    rw [Declared.spaced_cons_cons, Declared.spaced_singleton, rootLines_eq_lines,
      rootLines_eq_lines]
  unfold declarations
  rw [← Declared.flatMap_append_spaced, hroots, List.flatMap_map, bodyLines_fst]
  simp only [interface_eq_lines, List.append_assoc, List.singleton_append]

/-- Every member of an interface is the line of a field or of a collection. -/
theorem exists_memberLine_of_mem_declarations {rootName : String} {d : Declared}
    (hd : d ∈ s.declarations rootName) {line : String} (hl : line ∈ d.members) :
    ∃ name type, line = memberLine "" name type := by
  unfold declarations at hd
  rcases List.mem_append.mp hd with hd | hd
  · obtain ⟨e, -, rfl⟩ := List.mem_map.mp hd
    have hmember : line ∈ s.members "" e.2 := hl
    rw [members_eq_append] at hmember
    rcases List.mem_append.mp hmember with hl | hl
    · obtain ⟨f, -, rfl⟩ := List.mem_map.mp hl
      exact ⟨f.name, f.type, rfl⟩
    · obtain ⟨f, -, rfl⟩ := List.mem_map.mp hl
      exact ⟨f.name, s.shownType f, rfl⟩
  · have hroot : ∃ name entries, d = declaredRoot name entries := by
      rcases List.mem_cons.mp hd with rfl | hd
      · exact ⟨_, _, rfl⟩
      · exact ⟨_, _, List.mem_singleton.mp hd⟩
    obtain ⟨name, entries, rfl⟩ := hroot
    obtain ⟨e, -, rfl⟩ := List.mem_map.mp hl
    exact ⟨e.1, _, rfl⟩

/-- The body is cut into the interfaces it was made of. -/
theorem cut_bodyLines (unit rootName : String) :
    Declared.cut unit none (s.bodyLines unit rootName).1 = some (s.declarations rootName) := by
  rw [bodyLines_eq_spaced]
  apply Declared.cut_spaced
  intro d hd line hl
  obtain ⟨name, type, rfl⟩ := s.exists_memberLine_of_mem_declarations hd hl
  rw [← memberLine_eq]
  exact memberLine_ne_closing unit name type

/-- A file has an interface for each collection and two root interfaces. -/
theorem length_declarations (rootName : String) :
    (s.declarations rootName).length = s.size + 2 := by
  unfold declarations size
  rw [List.length_append, List.length_map]
  rfl

/-- No identifier, name or literal that the file shows breaks a line, and no indentation. -/
structure OnOneLine (options : RenderOptions) : Prop where
  identifiers : ∀ e ∈ s.entries, IsLine e.1
  displayNames : ∀ e ∈ s.entries, IsLine e.2.name
  fields : ∀ e ∈ s.entries, ∀ d ∈ e.2.fields, IsLine d.name
  targets : ∀ e ∈ s.entries, ∀ d ∈ e.2.fields, ∀ link ∈ d.links,
    IsLine link.collection ∧ IsLine (systemTypeName link.collection)
  literals : ∀ e ∈ s.entries, ∀ d ∈ e.2.fields, ∀ values, d.type = .literals values →
    ∀ value ∈ values, IsLine value
  rootName : IsLine options.rootName
  moduleName : IsLine options.moduleName
  indent : options.indent.character ≠ '\n'

end

end Schema

theorem Indent.isLine_unit {i : Indent} (h : i.character ≠ '\n') : IsLine i.unit := by
  unfold IsLine unit
  rw [String.toList_ofList]
  intro hmem
  exact h (List.eq_of_mem_replicate hmem).symm

/-- The text of a type has no line break if those of its alternatives have none. -/
theorem TypeExpr.isLine_text {t : TypeExpr} (h : ∀ a ∈ t.members, IsLine a.text) :
    IsLine t.text := by
  rw [text_eq_intercalate_members]
  apply isLine_intercalate
  · decide
  · intro line hl
    obtain ⟨a, ha, rfl⟩ := List.mem_map.mp hl
    exact h a ha

theorem TypeExpr.isLine_text_array_named {name : String} (h : IsLine name) :
    IsLine (array (named name)).text := by
  have htext : (array (named name)).text = name ++ "[]" := rfl
  rw [htext]
  exact h.append (by decide)

theorem isLine_memberLine {name : String} {type : TypeExpr} (hname : IsLine name)
    (htype : IsLine type.text) : IsLine (memberLine "" name type) := by
  have hempty : IsLine "" := by decide
  have hcolon : IsLine ": " := by decide
  have hend : IsLine ";" := by decide
  exact (((hempty.append hname).append hcolon).append htype).append hend

structure Declared.OnOneLine (d : Declared) : Prop where
  name : IsLine d.name
  members : ∀ line ∈ d.members, IsLine line

theorem Declared.OnOneLine.isLine_of_mem_lines {d : Declared} (h : d.OnOneLine) {unit : String}
    (hunit : IsLine unit) {line : String} (hl : line ∈ d.lines unit) : IsLine line := by
  unfold lines at hl
  rcases List.mem_append.mp hl with hl | hl
  · rcases List.mem_cons.mp hl with rfl | hl
    · have hkeyword : IsLine (if d.exported then "export interface " else "interface ") := by
        split
        · decide
        · decide
      exact (hkeyword.append h.name).append (by decide)
    · obtain ⟨line, hmem, rfl⟩ := List.mem_map.mp hl
      exact hunit.append (h.members line hmem)
  · rw [List.mem_singleton.mp hl]
    decide

theorem onOneLine_declaredRoot {name : String} {entries : List (String × CollectionDefinition)}
    (hname : IsLine name) (h : ∀ e ∈ entries, IsLine e.1 ∧ IsLine e.2.name) :
    (declaredRoot name entries).OnOneLine := by
  refine ⟨hname, ?_⟩
  intro line hl
  obtain ⟨e, he, rfl⟩ := List.mem_map.mp hl
  obtain ⟨hid, hdisplay⟩ := h e he
  apply isLine_memberLine hid
  unfold TypeExpr.arrayIf
  split
  · exact TypeExpr.isLine_text_array_named hdisplay
  · exact hdisplay

namespace Schema

section

variable {s : Schema} {options : RenderOptions}

theorem OnOneLine.linkType (h : s.OnOneLine options) {link : Link}
    (hsystem : IsLine (systemTypeName link.collection)) : IsLine (s.linkType link).text := by
  have htarget : ∃ name, s.linkTarget link.collection = .named name ∧ IsLine name := by
    unfold linkTarget
    split
    · have hangle : IsLine "<" := by decide
      have hroot : IsLine allCollectionsRoot := by decide
      have hclose : IsLine ">" := by decide
      exact ⟨_, rfl, ((hsystem.append hangle).append hroot).append hclose⟩
    · cases hd : s.get? link.collection with
      | none => exact ⟨"", rfl, by decide⟩
      | some d => exact ⟨d.name, rfl, h.displayNames _ ((s.get?_eq_some_iff_mem _ d).mp hd)⟩
  obtain ⟨name, htype, hname⟩ := htarget
  unfold Schema.linkType TypeExpr.arrayIf
  rw [htype]
  split
  · exact TypeExpr.isLine_text_array_named hname
  · exact hname

/-- The alternatives of a field's own type are on one line. -/
theorem OnOneLine.members (h : s.OnOneLine options) {e : String × CollectionDefinition}
    (he : e ∈ s.entries) {d : FieldDefinition} (hd : d ∈ e.2.fields) (hr : d.Regular) :
    ∀ a ∈ d.type.members, IsLine a.text := by
  have hnames : ∀ name ∈ ["number", "boolean", "string", "unknown"], IsLine name := by decide
  have helements : ∀ name ∈ ["string", "unknown"], IsLine name := by decide
  intro a ha
  rcases hr.member_cases ha with ⟨name, hname, rfl⟩ | ⟨name, hname, rfl⟩ |
    ⟨values, ht, value, hvalue, rfl⟩
  · exact hnames name hname
  · exact TypeExpr.isLine_text_array_named (helements name hname)
  · have hquote : IsLine "'" := by decide
    have hliteral := h.literals e he d hd values ht value hvalue
    have htext : (TypeExpr.literals [value]).text = TypeExpr.literalText value :=
      String.intercalate_singleton
    rw [htext]
    exact (hquote.append hliteral).append hquote

/-- A shown type stands on one line if all names, identifiers and literals do. -/
theorem OnOneLine.shownType (h : s.OnOneLine options) {e : String × CollectionDefinition}
    (he : e ∈ s.entries) {d : FieldDefinition} (hd : d ∈ e.2.fields) (hr : d.Regular) :
    IsLine (s.shownType d).text := by
  apply TypeExpr.isLine_text
  rw [s.members_shownType hr]
  intro a ha
  rcases s.alternatives_cases ha with ⟨link, hl, rfl⟩ | ha | rfl
  · exact h.linkType (h.targets e he d hd link hl).2
  · exact h.members he hd hr a ha
  · decide

theorem OnOneLine.declared (h : s.OnOneLine options) {e : String × CollectionDefinition}
    (he : e ∈ s.entries) (hr : ∀ d ∈ e.2.fields, d.Regular) : (s.declared e.2).OnOneLine := by
  refine ⟨h.displayNames e he, ?_⟩
  intro line hl
  have hmember : line ∈ s.members "" e.2 := hl
  rw [members_eq_append] at hmember
  rcases List.mem_append.mp hmember with hl | hl
  · obtain ⟨d, hkey, rfl⟩ := List.mem_map.mp hl
    have hd := List.mem_of_find?_eq_some (Option.mem_toList.mp hkey)
    exact isLine_memberLine (h.fields e he d hd)
      (TypeExpr.isLine_text (h.members he hd (hr d hd)))
  · obtain ⟨d, hplain, rfl⟩ := List.mem_map.mp hl
    have hd := ((CollectionDefinition.mem_plainFields_iff _ d).mp hplain).1
    exact isLine_memberLine (h.fields e he d hd) (h.shownType he hd (hr d hd))

/-- Every interface of the body is on one line at a time. -/
theorem OnOneLine.declarations (h : s.OnOneLine options)
    (hr : ∀ e ∈ s.entries, ∀ d ∈ e.2.fields, d.Regular) :
    ∀ d ∈ s.declarations options.rootName, d.OnOneLine := by
  have hentries : ∀ e ∈ s.entries, IsLine e.1 ∧ IsLine e.2.name :=
    fun e he => ⟨h.identifiers e he, h.displayNames e he⟩
  intro d hd
  rcases List.mem_append.mp hd with hd | hd
  · obtain ⟨e, he, rfl⟩ := List.mem_map.mp hd
    exact h.declared he (hr e he)
  · rcases List.mem_cons.mp hd with rfl | hd
    · exact onOneLine_declaredRoot h.rootName fun e he => hentries e (List.mem_of_mem_filter he)
    · rw [List.mem_singleton.mp hd]
      exact onOneLine_declaredRoot (by decide) hentries

/-- The lines of a body have no line breaks in them. -/
theorem OnOneLine.bodyLines (h : s.OnOneLine options)
    (hr : ∀ e ∈ s.entries, ∀ d ∈ e.2.fields, d.Regular) :
    ∀ line ∈ (s.bodyLines options.indent.unit options.rootName).1, IsLine line := by
  intro line hl
  rw [bodyLines_eq_spaced] at hl
  rcases Declared.mem_spaced hl with rfl | ⟨d, hd, hl⟩
  · decide
  · exact (h.declarations hr d hd).isLine_of_mem_lines (Indent.isLine_unit h.indent) hl

theorem OnOneLine.importedNames (h : s.OnOneLine options) :
    ∀ name ∈ s.importedNames options, IsLine name := by
  intro name hname
  obtain ⟨_, ⟨identifier, c, d, link, hc, hd, -, hl, rfl⟩, -, rfl⟩ :=
    (s.mem_importedNames_iff options name).mp hname
  exact (h.targets _ ((s.get?_eq_some_iff_mem identifier c).mp hc) d hd link hl).2

end

def importLines (s : Schema) (options : RenderOptions) : List String :=
  if s.importedNames options = [] then []
  else
    ["import \x7b " ++ ", ".intercalate (s.importedNames options) ++
      " \x7d from '@directus/sdk';", ""]

def fileLines (s : Schema) (options : RenderOptions) (body : List String) : List String :=
  s.importLines options ++
    blockLines ("declare module '" ++ options.moduleName ++ "'") body options.indent.unit ++ [""] ++
    blockLines "declare global" body options.indent.unit ++ ["", "export \x7b\x7d;"]

section

variable (s : Schema) (options : RenderOptions)

/-- A file is written line by line. -/
theorem render_eq_brokenLines : s.render options =
    brokenLines (s.fileLines options (s.bodyLines options.indent.unit options.rootName).1) := by
  have himports : brokenLines (s.importLines options) =
      if s.importedNames options = [] then ""
      else "import \x7b " ++ ", ".intercalate (s.importedNames options) ++
        " \x7d from '@directus/sdk';\n\n" := by
    unfold importLines
    split
    · rfl
    · simp only [brokenLines, List.map_cons, List.map_nil, String.join_cons, String.join_nil,
        String.append_assoc]
      rfl
  have hblank : brokenLines [""] = "\n" := rfl
  have hend : brokenLines ["", "export \x7b\x7d;"] = "\n" ++ "export \x7b\x7d;\n" := rfl
  rw [render_eq_blocks, ← himports, declareBlock_eq, declareBlock_eq]
  unfold fileLines
  simp only [brokenLines_append, hblank, hend, String.append_assoc]

variable {s options}

/-- The lines of a file have no line breaks in them. -/
theorem OnOneLine.fileLines (h : s.OnOneLine options) {body : List String}
    (hbody : ∀ line ∈ body, IsLine line) : ∀ line ∈ s.fileLines options body, IsLine line := by
  have hunit := Indent.isLine_unit h.indent
  have hblock : ∀ header, IsLine header →
      ∀ line ∈ blockLines header body options.indent.unit, IsLine line := by
    intro header hheader line hl
    rcases List.mem_append.mp hl with hl | hl
    · rcases List.mem_cons.mp hl with rfl | hl
      · exact hheader.append (by decide)
      · obtain ⟨line, hmem, rfl⟩ := List.mem_map.mp hl
        exact hunit.indentLine (hbody line hmem)
    · rw [List.mem_singleton.mp hl]
      decide
  have himports : ∀ line ∈ s.importLines options, IsLine line := by
    intro line hl
    unfold importLines at hl
    split at hl
    · cases hl
    · rcases List.mem_cons.mp hl with rfl | hl
      · have hopen : IsLine "import \x7b " := by decide
        have hcomma : IsLine ", " := by decide
        exact (hopen.append (isLine_intercalate hcomma h.importedNames)).append (by decide)
      · rw [List.mem_singleton.mp hl]
        decide
  have hmodule : IsLine ("declare module '" ++ options.moduleName ++ "'") := by
    have hopen : IsLine "declare module '" := by decide
    exact (hopen.append h.moduleName).append (by decide)
  have hends : ∀ line ∈ ["", "export \x7b\x7d;"], IsLine line := by decide
  intro line hl
  rcases List.mem_append.mp hl with hl | hl
  · rcases List.mem_append.mp hl with hl | hl
    · rcases List.mem_append.mp hl with hl | hl
      · rcases List.mem_append.mp hl with hl | hl
        · exact himports line hl
        · exact hblock _ hmodule line hl
      · rw [List.mem_singleton.mp hl]
        decide
    · exact hblock _ (by decide) line hl
  · exact hends line hl

end

end Schema

def skipImport : List String → List String
  | [] => []
  | first :: rest =>
    if "import ".toList.isPrefixOf first.toList then rest.drop 1 else first :: rest

/-- What the first of two blocks of one size holds. Besides their bodies the two have eight
lines. -/
def firstBody (blocks : List String) : List String :=
  (blocks.drop 1).take ((blocks.length - 8) / 2)

def Declared.ofFile (unit text : String) : Option (List Declared) :=
  cut unit none ((firstBody (skipImport (linesOf text))).map (outdentLine unit))

theorem map_outdentLine_indentLine (unit : String) (body : List String) :
    (body.map (indentLine unit)).map (outdentLine unit) = body := by
  rw [List.map_map]
  exact List.map_id'' (outdentLine_indentLine unit) body

theorem firstBody_blockLines (header other unit : String) (body : List String) :
    firstBody (blockLines header body unit ++
      ("" :: blockLines other body unit ++ ["", "export \x7b\x7d;", ""])) =
        body.map (indentLine unit) := by
  have hlength : (blockLines header body unit ++
      ("" :: blockLines other body unit ++ ["", "export \x7b\x7d;", ""])).length =
        2 * (body.map (indentLine unit)).length + 8 := by
    simp only [blockLines, List.length_append, List.length_cons, List.length_map, List.length_nil]
    omega
  -- Whatever the body holds, also lines that look like the end of the block, it is half of the
  -- rest.
  have hhalf : (2 * (body.map (indentLine unit)).length + 8 - 8) / 2 =
      (body.map (indentLine unit)).length := by
    omega
  unfold firstBody
  rw [hlength, hhalf]
  unfold blockLines
  rw [List.append_assoc, List.cons_append, List.drop_succ_cons, List.drop_zero, List.take_left]

namespace Schema

section

variable (s : Schema) (options : RenderOptions)

/-- The line that opens a block is no import. -/
theorem skipImport_importLines (name : String) (rest : List String) :
    skipImport (s.importLines options ++ ("declare module '" ++ name ++ "'" ++ " \x7b") :: rest) =
      ("declare module '" ++ name ++ "'" ++ " \x7b") :: rest := by
  have hblock : "import ".toList.isPrefixOf
      ("declare module '" ++ name ++ "'" ++ " \x7b").toList = false := by
    simp only [String.toList_append]
    rfl
  have himport : "import ".toList.isPrefixOf ("import \x7b " ++
      ", ".intercalate (s.importedNames options) ++
        " \x7d from '@directus/sdk';").toList = true := by
    simp only [String.toList_append]
    rfl
  unfold importLines
  split
  · rw [List.nil_append, skipImport, hblock]
    rfl
  · rw [List.cons_append, skipImport, himport]
    rfl

/-- The body is found again in the first of the two blocks. -/
theorem firstBody_fileLines (body : List String) :
    firstBody (skipImport (s.fileLines options body ++ [""])) =
      body.map (indentLine options.indent.unit) := by
  have hlines : s.fileLines options body ++ [""] = s.importLines options ++
      (blockLines ("declare module '" ++ options.moduleName ++ "'") body options.indent.unit ++
        ("" :: blockLines "declare global" body options.indent.unit ++
          ["", "export \x7b\x7d;", ""])) := by
    unfold fileLines
    simp only [List.append_assoc, List.cons_append, List.nil_append]
  have hskip := s.skipImport_importLines options options.moduleName
    (body.map (indentLine options.indent.unit) ++ ["\x7d"] ++
      ("" :: blockLines "declare global" body options.indent.unit ++ ["", "export \x7b\x7d;", ""]))
  have hfirst := firstBody_blockLines ("declare module '" ++ options.moduleName ++ "'")
    "declare global" options.indent.unit body
  rw [hlines]
  unfold blockLines at hskip hfirst ⊢
  rw [List.cons_append, List.cons_append, hskip]
  exact hfirst

variable {s options}

/-- A file falls into the lines that it was written from. -/
theorem linesOf_render (h : s.OnOneLine options)
    (hr : ∀ e ∈ s.entries, ∀ d ∈ e.2.fields, d.Regular) :
    linesOf (s.render options) =
      s.fileLines options (s.bodyLines options.indent.unit options.rootName).1 ++ [""] := by
  rw [render_eq_brokenLines]
  exact linesOf_brokenLines (h.fileLines (h.bodyLines hr))

/-- The file is read back as the interfaces of the schema. -/
theorem ofFile_render (h : s.OnOneLine options)
    (hr : ∀ e ∈ s.entries, ∀ d ∈ e.2.fields, d.Regular) :
    Declared.ofFile options.indent.unit (s.render options) =
      some (s.declarations options.rootName) := by
  unfold Declared.ofFile
  rw [linesOf_render h hr, firstBody_fileLines, map_outdentLine_indentLine]
  exact s.cut_bodyLines options.indent.unit options.rootName

end

end Schema

namespace DataModel

/-- A declaration file can be read back. Its lines are an import line with a blank line behind it,
if any name is imported, and two blocks with one body; without one unit of indentation each block
has the lines of this body again. The body is cut into one interface for each collection, in
ascending order of the identifiers and with the member lines of its key and its other fields, and
into the two root interfaces with their entries. So schemas with the same file have the same
interfaces. -/
theorem file_read_back (m : DataModel) (naming : Naming) (options : RenderOptions)
    (h : (m.build naming).schema.OnOneLine options) :
    (∃ body : List String,
      linesOf ((m.build naming).schema.render options) =
        (if (m.build naming).schema.importedNames options = [] then []
          else ["import \x7b " ++
            ", ".intercalate ((m.build naming).schema.importedNames options) ++
            " \x7d from '@directus/sdk';", ""]) ++
        ("declare module '" ++ options.moduleName ++ "' \x7b") ::
          body.map (indentLine options.indent.unit) ++ ["\x7d", ""] ++
        "declare global \x7b" :: body.map (indentLine options.indent.unit) ++
        ["\x7d", "", "export \x7b\x7d;", ""] ∧
      (body.map (indentLine options.indent.unit)).map (outdentLine options.indent.unit) = body ∧
      body = Declared.spaced options.indent.unit
        ((m.build naming).schema.declarations options.rootName) ∧
      Declared.cut options.indent.unit none body =
        some ((m.build naming).schema.declarations options.rootName)) ∧
    (m.build naming).schema.declarations options.rootName =
      ((m.build naming).schema.entries.map fun e => ⟨false, e.2.name,
        e.2.primaryKey?.toList.map (fun d => memberLine "" d.name d.type) ++
        e.2.plainFields.map fun d => memberLine "" d.name
          ((m.build naming).schema.shownType d)⟩) ++
      [⟨true, options.rootName, ((m.build naming).schema.entries.filter fun e =>
          !isSystem e.1).map fun e => rootEntry "" e.1 e.2⟩,
        ⟨true, "AllDirectusCollections",
          (m.build naming).schema.entries.map fun e => rootEntry "" e.1 e.2⟩] ∧
    ((m.build naming).schema.declarations options.rootName).length =
      (m.build naming).schema.size + 2 ∧
    (m.build naming).schema.identifiers.Pairwise (· < ·) ∧
    Declared.ofFile options.indent.unit ((m.build naming).schema.render options) =
      some ((m.build naming).schema.declarations options.rootName) ∧
    ∀ (m' : DataModel) (naming' : Naming), (m'.build naming').schema.OnOneLine options →
      (m'.build naming').schema.render options = (m.build naming).schema.render options →
        (m'.build naming').schema.declarations options.rootName =
          (m.build naming).schema.declarations options.rootName := by
  have hregular : ∀ (m : DataModel) (naming : Naming), ∀ e ∈ (m.build naming).schema.entries,
      ∀ d ∈ e.2.fields, d.Regular := by
    intro m naming e he d hd
    exact m.regular_of_mem_fields ((Schema.get?_eq_some_iff_mem _ e.1 e.2).mpr he) hd
  have hread := Schema.ofFile_render h (hregular m naming)
  refine ⟨⟨_, ?_, map_outdentLine_indentLine _ _, Schema.bodyLines_eq_spaced _ _ _,
    Schema.cut_bodyLines _ _ _⟩, ?_, Schema.length_declarations _ _,
    Schema.pairwise_identifiers _, hread, ?_⟩
  · rw [Schema.linesOf_render h (hregular m naming)]
    unfold Schema.fileLines Schema.importLines blockLines
    have hopen : "declare module '" ++ options.moduleName ++ "'" ++ " \x7b" =
        "declare module '" ++ options.moduleName ++ "' \x7b" := by
      exact String.append_assoc
    rw [hopen]
    simp only [List.append_assoc, List.cons_append, List.nil_append]
    rfl
  · unfold Schema.declarations
    congr 1
    apply List.map_congr_left
    intro e _
    unfold Schema.declared
    rw [Schema.members_eq_append]
  · intro m' naming' h' htext
    have hread' := Schema.ofFile_render h' (hregular m' naming')
    rw [htext, hread] at hread'
    exact (Option.some.inj hread').symm

def pageBlocksSchema : Schema where
  entries := [("blocks", blocksDefinition), ("pages", pagesDefinition)]
  ascending := by decide

theorem schema_build_pageBlocks : (pageBlocks.build .pascalCase).schema = pageBlocksSchema :=
  Schema.ext rfl

def braces : RenderOptions where
  indent := ⟨1, '\x7d'⟩

theorem onOneLine_pageBlocksSchema : pageBlocksSchema.OnOneLine braces where
  identifiers := by decide
  displayNames := by decide
  fields := by decide
  targets := by decide +kernel
  literals := by
    intro e he d hd values ht
    rcases List.mem_cons.mp he with rfl | he
    · rcases List.mem_cons.mp hd with rfl | hd
      · obtain rfl := TypeExpr.literals.inj ht
        decide
      · rw [List.mem_singleton.mp hd] at ht
        cases ht
    · rw [List.mem_singleton.mp he] at hd
      rcases List.mem_cons.mp hd with rfl | hd
      · cases ht
      · rw [List.mem_singleton.mp hd] at ht
        cases ht
  rootName := by decide
  moduleName := by decide
  indent := by decide

/-- A unit of indentation that looks like the end of an interface does no harm. -/
theorem file_read_back_pageBlocks :
    (pageBlocks.build .pascalCase).schema.OnOneLine braces ∧
    Declared.ofFile "\x7d" ((pageBlocks.build .pascalCase).schema.render braces) =
      some [⟨false, "Blocks", ["collection: 'pages' | 'directus_files';",
          "item: DirectusFiles<AllDirectusCollections> | Pages | string | null;"]⟩,
        ⟨false, "Pages", ["blocks: unknown[];", "keywords: string[];"]⟩,
        ⟨true, "DirectusSchema", ["blocks: Blocks[];", "pages: Pages[];"]⟩,
        ⟨true, "AllDirectusCollections", ["blocks: Blocks[];", "pages: Pages[];"]⟩] := by
  have hlines : (pageBlocks.build .pascalCase).schema.OnOneLine braces := by
    rw [schema_build_pageBlocks]
    exact onOneLine_pageBlocksSchema
  have hunit : braces.indent.unit = "\x7d" := by decide
  have hread := (file_read_back pageBlocks .pascalCase braces hlines).2.2.2.2.1
  refine ⟨hlines, ?_⟩
  rw [← hunit, hread, schema_build_pageBlocks]
  decide +kernel

end DataModel

end ContentTypes
