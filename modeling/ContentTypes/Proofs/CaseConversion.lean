import ContentTypes.Naming
import Mathlib.Data.Bool.AllAny

/-! Identifiers that a case conversion does not confuse. A conversion drops underscores and marks
the start of a word by a capital, so an identifier in lower case can be read back from its
conversion as long as the capitals tell where its underscores were. -/

namespace ContentTypes.Text

def nameChars : List Char := "abcdefghijklmnopqrstuvwxyz0123456789".toList

/-- Whether the rest of an identifier has lower-case letters and digits only, and underscores only
between two letters. `afterLetter` tells what stands in front of the rest. -/
def plainFrom (afterLetter : Bool) : List Char → Bool
  | [] => true
  | '_' :: c :: rest => afterLetter && c.isLower && plainFrom true rest
  | c :: rest => (c.isLower || c.isDigit) && plainFrom c.isLower rest

/-- Reads a converted identifier back. A capital starts a word, which an underscore separates from
a letter in front of it. -/
def restore (afterLetter : Bool) : List Char → List Char
  | [] => []
  | c :: rest =>
    if c.isUpper then
      if afterLetter then '_' :: c.toLower :: restore true rest
      else c.toLower :: restore true rest
    else c :: restore c.isLower rest

theorem mem_nameChars {c : Char} (h : (c.isLower || c.isDigit) = true) : c ∈ nameChars := by
  have hall : ∀ n < 123, 97 ≤ n ∨ (48 ≤ n ∧ n ≤ 57) → Char.ofNat n ∈ nameChars := by decide
  -- The codes of letters and digits are small, so all numbers up to them can be tried.
  change (c.val ≥ 'a'.val && c.val ≤ 'z'.val || c.val ≥ '0'.val && c.val ≤ '9'.val) = true at h
  simp only [Bool.or_eq_true, Bool.and_eq_true, decide_eq_true_eq, UInt32.le_iff_toNat_le,
    ge_iff_le] at h
  change (97 ≤ c.toNat ∧ c.toNat ≤ 122) ∨ (48 ≤ c.toNat ∧ c.toNat ≤ 57) at h
  rw [← Char.ofNat_toNat c]
  exact hall c.toNat (by omega) (by omega)

/-- The case of letters and digits, looked up once for each. -/
theorem nameChar_case : ∀ c ∈ nameChars, upperChar c = [c.toUpper] ∧ lowerChar c = [c] ∧
    c ≠ 'Σ' ∧ c ≠ '_' ∧ isSeparatorCluster [c] = false ∧ isUpperCluster [c] = false ∧
    isLowerCluster [c] = c.isLower ∧ isDigitCluster [c] = c.isDigit := by
  -- Characters are finitely many, so the bare statement would be decided by trying all of them.
  refine List.all_iff_forall_prop.mp ?_
  decide +kernel

theorem nameChar_upper : ∀ c ∈ nameChars, c.toUpper.isUpper = c.isLower ∧
    c.isUpper = false ∧ c.isDigit = (!c.isLower) ∧ (c.isLower = true → c.toUpper.toLower = c) ∧
    (c.isLower = false → c.toUpper = c) := by
  refine List.all_iff_forall_prop.mp ?_
  decide

/-- No letter, digit or underscore belongs to the cluster of the character in front of it. -/
theorem nameChar_cluster : ∀ c ∈ '_' :: nameChars, GraphemeClass.of c = .other ∧
    isConjunctConsonant c = false ∧ isPictographic c = false := by
  refine List.all_iff_forall_prop.mp ?_
  decide +kernel

theorem underscore_clusters : isSeparatorCluster ['_'] = true ∧ isUpperCluster ['_'] = false ∧
    isLowerCluster ['_'] = false ∧ isDigitCluster ['_'] = false := by
  decide +kernel

theorem mem_of_plainFrom {afterLetter : Bool} {s : List Char} (h : plainFrom afterLetter s = true) :
    ∀ c ∈ s, c ∈ '_' :: nameChars := by
  fun_induction plainFrom afterLetter s with
  | case1 => simp
  | case2 afterLetter c rest ih =>
    simp only [Bool.and_eq_true] at h
    intro d hd
    rcases List.mem_cons.mp hd with rfl | hd
    · simp
    rcases List.mem_cons.mp hd with rfl | hd
    · exact List.mem_cons_of_mem _ (mem_nameChars (by rw [h.1.2]; rfl))
    · exact ih h.2 d hd
  | case3 afterLetter c rest _ ih =>
    rw [Bool.and_eq_true] at h
    intro d hd
    rcases List.mem_cons.mp hd with rfl | hd
    · exact List.mem_cons_of_mem _ (mem_nameChars h.1)
    · exact ih h.2 d hd

theorem wordsOfClusters_singleton_cons {c : Char} (hc : isSeparatorCluster [c] = false)
    (gs : List (List Char)) :
    ∃ word others, wordsOfClusters ([c] :: gs) = (c :: word) :: others := by
  simp only [wordsOfClusters, hc, Bool.false_eq_true, ↓reduceIte]
  split
  · exact ⟨[], _, rfl⟩
  · cases wordsOfClusters gs with
    | nil => exact ⟨[], [], rfl⟩
    | cons word others => exact ⟨word, others, rfl⟩

/-- Plain characters do not join, so that each of them is a cluster of its own. -/
theorem clustersFrom_eq_map {s : List Char} (hs : ∀ c ∈ s, c ∈ '_' :: nameChars) (seam : Seam)
    (hseam : seam.last = .other) (d : Char) :
    clustersFrom seam [d] s = [d] :: s.map ([·]) := by
  induction s generalizing seam d with
  | nil => rfl
  | cons c rest ih =>
    obtain ⟨hclass, hconsonant, hpicture⟩ := nameChar_cluster c (hs c (by simp))
    -- Of the rules that join two characters none is about these classes.
    have hjoin : seam.joins c = false := by
      unfold Seam.joins
      simp only [hseam, hclass, hconsonant, hpicture, GraphemeClass.standsAlone]
      simp
    have hrest := ih (fun d hd => hs d (List.mem_cons_of_mem _ hd)) (seam.next c) hclass c
    simp only [clustersFrom, hjoin, Bool.false_eq_true, ↓reduceIte, hrest]
    rfl

theorem graphemes_eq_map {s : List Char} (hs : ∀ c ∈ s, c ∈ '_' :: nameChars) :
    graphemes s = s.map ([·]) := by
  cases s with
  | nil => rfl
  | cons c rest =>
    exact clustersFrom_eq_map (fun d hd => hs d (List.mem_cons_of_mem _ hd)) (.start c)
      (nameChar_cluster c (hs c (by simp))).1 c

theorem lower_eq_self {s : List Char} (hs : ∀ c ∈ s, c ∈ nameChars) : lower s = s := by
  have hfrom (before : List Char) : lowerFrom before s = s := by
    induction s generalizing before with
    | nil => rfl
    | cons c rest ih =>
      obtain ⟨-, hlower, hsigma, -⟩ := nameChar_case c (hs c (by simp))
      simp only [lowerFrom, hsigma, ↓reduceIte, hlower,
        ih (fun d hd => hs d (List.mem_cons_of_mem _ hd))]
      rfl
  exact hfrom []

def capitalized (s : List Char) : List Char := (wordsOfClusters (s.map ([·]))).flatMap capitalize

def continued (s : List Char) : List Char :=
  match wordsOfClusters (s.map ([·])) with
  | [] => []
  | word :: others => word ++ others.flatMap capitalize

/-- What a conversion makes of the rest of an identifier after a letter or digit. -/
def following (c : Char) (rest : List Char) : List Char :=
  if endsWord [c] (rest.map ([·])) then capitalized rest else continued rest

theorem wordsOfClusters_ne_nil (gs : List (List Char)) : wordsOfClusters gs ≠ [] := by
  cases gs with
  | nil => simp [wordsOfClusters]
  | cons g rest =>
    simp only [wordsOfClusters]
    split
    · simp
    split
    · simp
    split <;> simp

/-- The words of a plain identifier have no underscores in them. -/
theorem mem_nameChars_of_word {s : List Char} (hs : ∀ c ∈ s, c ∈ '_' :: nameChars) :
    ∀ word ∈ wordsOfClusters (s.map ([·])), ∀ c ∈ word, c ∈ nameChars := by
  induction s with
  | nil => simp [wordsOfClusters]
  | cons d rest ih =>
    have hrest := ih fun c hc => hs c (List.mem_cons_of_mem _ hc)
    have hd : isSeparatorCluster [d] = false → d ∈ nameChars := by
      intro hsep
      rcases List.mem_cons.mp (hs d (by simp)) with rfl | hmem
      · rw [underscore_clusters.1] at hsep
        exact absurd hsep (by decide)
      · exact hmem
    simp only [List.map_cons, wordsOfClusters]
    -- A separator is dropped; any other character starts a word or goes in front of the next one.
    split
    · intro word hword c hc
      rcases List.mem_cons.mp hword with rfl | hword
      · cases hc
      · exact hrest word hword c hc
    rename_i hsep
    have hmem := hd (by simpa using hsep)
    split
    · intro word hword c hc
      rcases List.mem_cons.mp hword with rfl | hword
      · obtain rfl := List.mem_singleton.mp hc
        exact hmem
      · exact hrest word hword c hc
    split
    · intro word hword c hc
      obtain rfl := List.mem_singleton.mp hword
      obtain rfl := List.mem_singleton.mp hc
      exact hmem
    · rename_i first others hwords
      rw [hwords] at hrest
      intro word hword c hc
      rcases List.mem_cons.mp hword with rfl | hword
      · rcases List.mem_cons.mp hc with rfl | hc
        · exact hmem
        · exact hrest first (by simp) c hc
      · exact hrest word (List.mem_cons_of_mem _ hword) c hc

theorem continued_underscore (rest : List Char) : continued ('_' :: rest) = capitalized rest := by
  simp only [continued, capitalized, List.map_cons, wordsOfClusters, underscore_clusters.1,
    ↓reduceIte, List.nil_append]

/-- At the start of a word the first letter grows, and the rest follows it. -/
theorem capitalized_cons {c : Char} {rest : List Char} (hc : c ∈ nameChars)
    (hs : ∀ d ∈ rest, d ∈ '_' :: nameChars) :
    capitalized (c :: rest) = c.toUpper :: following c rest := by
  obtain ⟨hupper, -, -, -, hsep, -⟩ := nameChar_case c hc
  have hwords := mem_nameChars_of_word hs
  simp only [capitalized, following, continued, List.map_cons, wordsOfClusters, hsep,
    Bool.false_eq_true, ↓reduceIte]
  cases endsWord [c] (rest.map ([·])) with
  | true =>
    simp only [↓reduceIte, List.flatMap_cons, capitalize, hupper]
    rfl
  | false =>
    cases hw : wordsOfClusters (rest.map ([·])) with
    | nil => exact absurd hw (wordsOfClusters_ne_nil _)
    | cons word others =>
      rw [hw] at hwords
      have hword := lower_eq_self (hwords word (by simp))
      simp only [Bool.false_eq_true, ↓reduceIte, List.flatMap_cons, capitalize, hupper, hword,
        List.cons_append, List.nil_append]

/-- Within a word a character stays as it is. -/
theorem continued_cons {c : Char} (hc : c ∈ nameChars) (rest : List Char) :
    continued (c :: rest) = c :: following c rest := by
  obtain ⟨-, -, -, -, hsep, -⟩ := nameChar_case c hc
  simp only [capitalized, following, continued, List.map_cons, wordsOfClusters, hsep,
    Bool.false_eq_true, ↓reduceIte]
  cases endsWord [c] (rest.map ([·])) with
  | true => rfl
  | false =>
    cases hw : wordsOfClusters (rest.map ([·])) with
    | nil => exact absurd hw (wordsOfClusters_ne_nil _)
    | cons word others => rfl

/-- After a letter or digit a word ends where letters and digits meet. -/
theorem endsWord_nameChar {c d : Char} (hc : c ∈ nameChars) (hd : d ∈ nameChars)
    (gs : List (List Char)) :
    endsWord [c] ([d] :: gs) = (c.isLower && d.isDigit || c.isDigit && d.isLower) := by
  obtain ⟨-, -, -, -, -, hcu, hcl, hcd⟩ := nameChar_case c hc
  obtain ⟨-, -, -, -, -, hdu, hdl, hdd⟩ := nameChar_case d hd
  simp only [endsWord, hcu, hcl, hcd, hdu, hdl, hdd, Bool.false_and, Bool.false_or, Bool.or_false]

theorem endsWord_underscore (c : Char) (hc : c ∈ nameChars) (gs : List (List Char)) :
    endsWord [c] (['_'] :: gs) = false := by
  obtain ⟨-, -, -, -, -, hcu, -⟩ := nameChar_case c hc
  obtain ⟨-, hu, hl, hd⟩ := underscore_clusters
  simp only [endsWord, hcu, hu, hl, hd, Bool.or_self, Bool.and_false, Bool.false_and]

theorem restore_nameChar {c : Char} (hc : c ∈ nameChars) (afterLetter : Bool) (rest : List Char) :
    restore afterLetter (c :: rest) = c :: restore c.isLower rest := by
  simp only [restore, (nameChar_upper c hc).2.1, Bool.false_eq_true, ↓reduceIte]

/-- A capital is read back as the letter that starts a word. -/
theorem restore_toUpper {c : Char} (hc : c ∈ nameChars) (rest : List Char) :
    restore false (c.toUpper :: rest) = c :: restore c.isLower rest := by
  obtain ⟨hu, -, -, hletter, hdigit⟩ := nameChar_upper c hc
  cases hl : c.isLower with
  | true =>
    rw [hl] at hu
    simp only [restore, hu, ↓reduceIte, Bool.false_eq_true, hletter hl]
  | false =>
    rw [hdigit hl, restore_nameChar hc, hl]

/-- What follows a letter or digit is read back from its conversion. The induction takes an
underscore together with the letter after it, for the two become one capital. -/
theorem restore_following {c : Char} (hc : c ∈ nameChars) {s : List Char}
    (hs : plainFrom c.isLower s = true) : restore c.isLower (following c s) = s := by
  generalize hb : c.isLower = afterLetter at hs ⊢
  fun_induction plainFrom afterLetter s generalizing c with
  | case1 => rfl
  | case2 afterLetter d rest ih =>
    simp only [Bool.and_eq_true] at hs
    have hd : d ∈ nameChars := mem_nameChars (by rw [hs.1.2]; rfl)
    have hu := (nameChar_upper d hd).1
    rw [hs.1.2] at hu
    have hback : d.toUpper.toLower = d := (nameChar_upper d hd).2.2.2.1 hs.1.2
    rw [following, List.map_cons, endsWord_underscore c hc]
    simp only [Bool.false_eq_true, ↓reduceIte]
    rw [continued_underscore, capitalized_cons hd (mem_of_plainFrom hs.2), hs.1.1]
    simp only [restore, hu, ↓reduceIte, hback, ih hd hs.1.2 hs.2]
  | case3 afterLetter d rest _ ih =>
    rw [Bool.and_eq_true] at hs
    have hd : d ∈ nameChars := mem_nameChars hs.1
    have hrest : restore d.isLower (following d rest) = rest := ih hd rfl hs.2
    rw [following, List.map_cons, endsWord_nameChar hc hd]
    split
    · rename_i hends
      rw [capitalized_cons hd (mem_of_plainFrom hs.2)]
      cases hl : d.isLower with
      | true =>
        -- Only a digit can stand before a letter here, so the capital brings no underscore.
        rw [(nameChar_upper c hc).2.2.1, (nameChar_upper d hd).2.2.1, hl] at hends
        have hcl : c.isLower = false := by simpa using hends
        rw [← hb, hcl, restore_toUpper hd, hrest]
      | false =>
        rw [(nameChar_upper d hd).2.2.2.2 hl, restore_nameChar hd, hrest]
    · rw [continued_cons hd, restore_nameChar hd, hrest]

theorem eq_nil_or_cons_of_plainFrom {s : List Char} (hs : plainFrom false s = true) :
    s = [] ∨ ∃ c rest, s = c :: rest ∧ c ∈ nameChars ∧ plainFrom c.isLower rest = true := by
  fun_cases plainFrom false s with
  | case1 => exact Or.inl rfl
  | case2 c rest =>
    -- Nothing stands in front of the identifier, so it does not start with an underscore.
    rw [plainFrom] at hs
    exact absurd hs (by simp)
  | case3 c rest hc =>
    rw [plainFrom.eq_3 false c rest hc, Bool.and_eq_true] at hs
    exact Or.inr ⟨c, rest, rfl, mem_nameChars hs.1, hs.2⟩

/-- A plain identifier is read back from its Pascal case. -/
theorem restore_pascalCase {s : List Char} (hs : plainFrom false s = true) :
    restore false (pascalCase s) = s := by
  have hpascal : pascalCase s = capitalized s := by
    unfold pascalCase words capitalized
    rw [graphemes_eq_map (mem_of_plainFrom hs)]
  rw [hpascal]
  rcases eq_nil_or_cons_of_plainFrom hs with rfl | ⟨c, rest, rfl, hc, hrest⟩
  · rfl
  · rw [capitalized_cons hc (mem_of_plainFrom hrest), restore_toUpper hc,
      restore_following hc hrest]

/-- A plain identifier is read back from its camel case. -/
theorem restore_camelCase {s : List Char} (hs : plainFrom false s = true) :
    restore false (camelCase s) = s := by
  have hmem := mem_of_plainFrom hs
  have hcamel : camelCase s = continued s := by
    unfold camelCase words continued
    rw [graphemes_eq_map hmem]
    cases hw : wordsOfClusters (s.map ([·])) with
    | nil => rfl
    | cons word others =>
      have hword := mem_nameChars_of_word hmem word (by rw [hw]; simp)
      simp only [lower_eq_self hword]
  rw [hcamel]
  rcases eq_nil_or_cons_of_plainFrom hs with rfl | ⟨c, rest, rfl, hc, hrest⟩
  · rfl
  · rw [continued_cons hc, restore_nameChar hc, restore_following hc hrest]

/-- An identifier that was not converted is read back as it is. -/
theorem restore_self {s : List Char} (hs : ∀ c ∈ s, c ∈ '_' :: nameChars) (afterLetter : Bool) :
    restore afterLetter s = s := by
  have hupper : ∀ c ∈ '_' :: nameChars, c.isUpper = false := by
    refine List.all_iff_forall_prop.mp ?_
    decide
  induction s generalizing afterLetter with
  | nil => rfl
  | cons c rest ih =>
    simp only [restore, hupper c (hs c (by simp)), Bool.false_eq_true, ↓reduceIte,
      ih fun d hd => hs d (List.mem_cons_of_mem _ hd)]

end ContentTypes.Text
