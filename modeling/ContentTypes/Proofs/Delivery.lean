import ContentTypes.CommandLine
import ContentTypes.Proofs.SavedConfiguration

/-! Writing declarations to a path. The directories around the path are made first, and nothing is
made where they are there. A run that ends well leaves the whole text at the path, and no run prints
it besides. -/

namespace ContentTypes

/-! ### The directory around a path -/

namespace Text

section

variable {separator : Char}

theorem intercalate_prefix {parts : List (List Char)} (hne : parts ≠ [])
    (more : List (List Char)) :
    [separator].intercalate parts <+: [separator].intercalate (parts ++ more) := by
  induction parts with
  | nil => exact absurd rfl hne
  | cons part rest ih =>
    cases rest with
    | nil =>
      rw [List.intercalate_singleton]
      cases more with
      | nil => exact ⟨[], by simp⟩
      | cons next more =>
        rw [List.singleton_append, List.intercalate_cons_cons, List.append_assoc]
        exact List.prefix_append _ _
    | cons next rest =>
      have hrest := ih (List.cons_ne_nil _ _)
      rw [List.cons_append, List.cons_append, List.intercalate_cons_cons,
        List.intercalate_cons_cons]
      exact (List.prefix_append_right_inj _).mpr hrest

end

end Text

namespace Path

/-- The parent of a path is the root, or is made of its first parts. At least one of the others is
a name. -/
theorem parent?_cases {path parent : String} (h : parent? path = some parent) (hne : parent ≠ "") :
    parent = "/" ∨ ∃ parts more, parts ≠ [] ∧ segments path = parts ++ more ∧
      parent = joinSegments parts ∧ more.all (·.isEmpty) = false := by
  unfold parent? at h
  cases hsegments : segments path with
  | nil =>
    rw [hsegments] at h
    cases h
  | cons first rest =>
    rw [hsegments] at h
    dsimp only at h
    cases hlast : rest.reverse.dropWhile isIdle with
    | nil =>
      rw [hlast] at h
      dsimp only at h
      split at h
      · cases h
      · exact absurd (Option.some.inj h).symm hne
    | cons last before =>
      have hname : isIdle last = false := by
        have hhead := List.head?_dropWhile_not isIdle rest.reverse
        rw [hlast] at hhead
        simpa using hhead
      have hrest : rest = before.reverse ++ (last :: (rest.reverse.takeWhile isIdle).reverse) := by
        have hsplit := List.takeWhile_append_dropWhile (p := isIdle) (l := rest.reverse)
        rw [hlast] at hsplit
        have hreverse := congrArg List.reverse hsplit
        simpa using hreverse.symm
      have hbefore : before.reverse =
          (before.dropWhile isIdle).reverse ++ (before.takeWhile isIdle).reverse := by
        rw [← List.reverse_append, List.takeWhile_append_dropWhile]
      -- The parts behind the parent hold the last name.
      have hmore : ((before.takeWhile isIdle).reverse ++
          last :: (rest.reverse.takeWhile isIdle).reverse).all (·.isEmpty) = false := by
        have hlast : last.isEmpty = false := by
          cases last with
          | nil => cases hname
          | cons _ _ => rfl
        simp [hlast]
      have hparts : first :: rest = (first :: (before.dropWhile isIdle).reverse) ++
          ((before.takeWhile isIdle).reverse ++
            last :: (rest.reverse.takeWhile isIdle).reverse) := by
        conv_lhs => rw [hrest, hbefore]
        simp only [List.append_assoc, List.cons_append]
      rw [hlast] at h
      dsimp only at h
      cases hstart : before.dropWhile isIdle with
      | nil =>
        rw [hstart] at h hparts
        by_cases hroot : first = []
        · rw [if_pos hroot] at h
          exact Or.inl (Option.some.inj h).symm
        · rw [if_neg hroot] at h
          refine Or.inr ⟨[first], _, List.cons_ne_nil _ _, hparts, ?_, hmore⟩
          unfold joinSegments
          rw [List.intercalate_singleton]
          exact (Option.some.inj h).symm
      | cons next start =>
        rw [hstart] at h hparts
        exact Or.inr ⟨_, _, List.cons_ne_nil _ _, hparts, (Option.some.inj h).symm, hmore⟩

section

variable {path : String} {parts more : List (List Char)}

theorem toList_joinSegments (parts : List (List Char)) :
    (joinSegments parts).toList = ['/'].intercalate parts := by
  unfold joinSegments
  rw [String.toList_ofList]

/-- The first parts of a path, put together, are the beginning of the path. -/
theorem joinSegments_prefix (hparts : parts ≠ []) (h : segments path = parts ++ more) :
    (joinSegments parts).toList <+: path.toList := by
  rw [toList_joinSegments, ← Text.intercalate_splitAt '/' path.toList]
  show _ <+: ['/'].intercalate (segments path)
  rw [h]
  exact Text.intercalate_prefix hparts more

/-- Parts put together to a path are found again. -/
theorem segments_joinSegments (hparts : parts ≠ []) (h : segments path = parts ++ more) :
    segments (joinSegments parts) = parts := by
  unfold segments
  rw [toList_joinSegments]
  apply Text.splitAt_intercalate hparts
  intro part hpart
  apply Text.not_mem_of_mem_splitAt (s := path.toList)
  show part ∈ segments path
  rw [h]
  exact List.mem_append_left more hpart

theorem isAbsolute_joinSegments (hparts : parts ≠ []) (h : segments path = parts ++ more)
    (hne : joinSegments parts ≠ "") : isAbsolute (joinSegments parts) = isAbsolute path := by
  obtain ⟨rest, hrest⟩ := joinSegments_prefix hparts h
  have hnonempty : (joinSegments parts).toList ≠ [] := by
    simpa using hne
  unfold isAbsolute
  rw [← hrest, List.head?_append_of_ne_nil _ hnonempty]

end

end Path

namespace FileTree

theorem byteLength_append (s t : List Char) :
    byteLength (s ++ t) = byteLength s + byteLength t := by
  have hfrom : ∀ (s : List Char) (n : Nat),
      s.foldl (fun n c => n + c.utf8Size) n = n + byteLength s := by
    intro s
    induction s with
    | nil => exact fun n => rfl
    | cons c rest ih =>
      intro n
      have hzero : byteLength (c :: rest) = 0 + c.utf8Size + byteLength rest := ih _
      rw [List.foldl_cons, ih, hzero]
      omega
  unfold byteLength
  rw [List.foldl_append, hfrom t]
  rfl

section

variable {t : FileTree} {faults : Faults} {path parent : String}

/-- What a path may not have its beginning does not have either. -/
theorem IsPath.joinSegments {parts more : List (List Char)} (h : IsPath path) (hparts : parts ≠ [])
    (hsegments : Path.segments path = parts ++ more) (hne : Path.joinSegments parts ≠ "") :
    IsPath (Path.joinSegments parts) := by
  obtain ⟨-, hzero, hlength⟩ := h
  obtain ⟨rest, hrest⟩ := Path.joinSegments_prefix hparts hsegments
  rw [← hrest, byteLength_append] at hlength
  rw [← hrest, List.any_append, Bool.or_eq_false_iff] at hzero
  exact ⟨by simpa using hne, hzero.1, by omega⟩

/-- The parent of a place for a file is a directory. -/
theorem Opens.resolve_parent {l : Location} (hopens : t.Opens path faults l)
    (h : Path.parent? path = some parent) (hne : parent ≠ "") :
    ∃ l', t.resolve parent faults = .ok (.directory l') := by
  rcases Path.parent?_cases h hne with rfl | ⟨parts, more, hparts, hsegments, rfl, hmore⟩
  · exact ⟨[], rfl⟩
  · obtain ⟨target, hresolve, -⟩ := hopens.holds
    obtain ⟨hpath, hleads⟩ := resolve_eq_ok_iff.mp hresolve
    rw [hsegments] at hleads
    obtain ⟨l', hfront⟩ := hleads.exists_directory hmore
    refine ⟨l', resolve_eq_ok_iff.mpr ⟨hpath.joinSegments hparts hsegments hne, ?_⟩⟩
    rw [Path.isAbsolute_joinSegments hparts hsegments hne,
      Path.segments_joinSegments hparts hsegments]
    exact hfront

/-- Around a place for a file nothing has to be made. -/
theorem Opens.surround_eq {l : Location} (hopens : t.Opens path faults l) :
    t.surround path faults = (t, none) := by
  unfold surround
  split
  · rfl
  · rfl
  · rename_i parent hne hparent
    obtain ⟨l', hresolve⟩ := hopens.resolve_parent hparent hne
    have hthere : t.isDirectory parent faults = true := by
      simp [isDirectory, lookup, hresolve]
    -- To make what is there is refused, which is no problem with a directory.
    rw [makeDirectories]
    simp [ensureDirectory, makeDirectory, hresolve, hthere]

/-- The directories around a path can be made, and a file there takes all of a text. -/
def Receives (t : FileTree) (path text : String) (faults : Faults) : Prop :=
  (t.surround path faults).2 = none ∧ (t.surround path faults).1.Accepts path text faults

/-- Around a path at which a file can be opened no directory is missing. -/
theorem receives_of_accepts {text : String} (h : t.Accepts path text faults) :
    t.Receives path text faults := by
  obtain ⟨l, hopens, htakes⟩ := h
  rw [Receives, hopens.surround_eq]
  exact ⟨rfl, l, hopens, htakes⟩

end

end FileTree

/-! ### Writing declarations -/

section

variable (files : FileTree) (faults : Faults) (path : String) (p : Prepared) (text : String)

/-- Nothing is printed where a file is asked for. The run ends well exactly when the path can
receive the text, and the whole text is there then. -/
theorem deliver_spec :
    (deliver files faults path p text).output = "" ∧
    ((deliver files faults path p text).code = 0 ∧ files.Receives path text faults ∧
        (deliver files faults path p text).files.lookup path faults =
          .ok (.file (Text.Source.ofString text)) ∧
        (deliver files faults path p text).notices =
          ["Generated types for " ++ toString p.schema.size ++ " collection(s) into '" ++ path ++
            "'."] ∨
      (deliver files faults path p text).code = 1 ∧ ¬files.Receives path text faults) := by
  unfold deliver FileTree.Receives
  obtain ⟨made, problem⟩ := files.surround path faults
  cases problem with
  | some problem =>
    obtain ⟨parent, e⟩ := problem
    exact ⟨rfl, Or.inr ⟨rfl, fun h => nomatch h.1⟩⟩
  | none =>
    rcases made.writeFile_cases path text faults with ⟨haccepts, l, hopens, hwrite⟩ |
      ⟨hrefused, l, limit, left, -, hwrite⟩ | ⟨hrefused, e, hwrite⟩
    · dsimp only
      rw [hwrite]
      have hlookup := hopens.lookup_put (Text.Source.ofString text)
      exact ⟨rfl, Or.inl ⟨rfl, ⟨rfl, haccepts⟩, hlookup, rfl⟩⟩
    · dsimp only
      rw [hwrite]
      exact ⟨rfl, Or.inr ⟨rfl, fun h => hrefused h.2⟩⟩
    · dsimp only
      rw [hwrite]
      exact ⟨rfl, Or.inr ⟨rfl, fun h => hrefused h.2⟩⟩

end

end ContentTypes
