import ContentTypes.Proofs.Unions
import ContentTypes.Text.Hexadecimal

/-! String literals as a reader of the declaration file takes them. A literal denotes code units of
UTF-16: those of the characters between its quotes, where a backslash and what belongs to it denote
something else. The file is a module, so a backslash before a digit is refused. A text in quotes
denotes itself exactly when it has no quote, no backslash and no line break, because an escape
always denotes fewer units than it is written with. -/

namespace ContentTypes

namespace StringLiteral

/-! ### Code units -/

def unitsOf (n : Nat) : List Nat :=
  if n < 0x10000 then [n] else [0xD800 + (n - 0x10000) / 0x400, 0xDC00 + (n - 0x10000) % 0x400]

def units (s : List Char) : List Nat := s.flatMap fun c => unitsOf c.toNat

def size (s : List Char) : Nat := (units s).length

theorem length_unitsOf (n : Nat) : 1 ≤ (unitsOf n).length ∧ (unitsOf n).length ≤ 2 := by
  unfold unitsOf
  split
  · exact ⟨Nat.le_refl 1, Nat.le_succ 1⟩
  · exact ⟨Nat.le_succ 1, Nat.le_refl 2⟩

theorem units_append (s t : List Char) : units (s ++ t) = units s ++ units t :=
  List.flatMap_append

theorem size_nil : size [] = 0 := rfl

theorem size_cons (c : Char) (s : List Char) :
    size (c :: s) = (unitsOf c.toNat).length + size s := by
  unfold size units
  rw [List.flatMap_cons, List.length_append]

theorem size_append (s t : List Char) : size (s ++ t) = size s + size t := by
  unfold size
  rw [units_append, List.length_append]

theorem size_lt_size_cons (c : Char) (s : List Char) : size s < size (c :: s) := by
  have hpos := (length_unitsOf c.toNat).1
  rw [size_cons]
  omega

/-- The first character of a text shows in the first units, since the halves of a pair are no
characters. -/
theorem unitsOf_append_inj {c d : Char} {us vs : List Nat}
    (h : unitsOf c.toNat ++ us = unitsOf d.toNat ++ vs) : c = d ∧ us = vs := by
  have hc : c.toNat < 0xD800 ∨ 0xDFFF < c.toNat ∧ c.toNat < 0x110000 := c.valid
  have hd : d.toNat < 0xD800 ∨ 0xDFFF < d.toNat ∧ d.toNat < 0x110000 := d.valid
  have heq : c.toNat = d.toNat ∧ us = vs := by
    unfold unitsOf at h
    split at h
    · split at h
      · simpa using h
      · have hhead := (List.cons.inj h).1
        omega
    · split at h
      · have hhead := (List.cons.inj h).1
        omega
      · simp only [List.cons_append, List.nil_append, List.cons.injEq] at h
        obtain ⟨hfirst, hsecond, htail⟩ := h
        exact ⟨by omega, htail⟩
  exact ⟨Char.toNat_inj.mp heq.1, heq.2⟩

/-- Texts with the same code units are the same. -/
theorem units_injective : Function.Injective units := by
  intro s t h
  induction s generalizing t with
  | nil =>
    cases t with
    | nil => rfl
    | cons d t =>
      have hlength := congrArg List.length h
      have hlt := size_lt_size_cons d t
      unfold size at hlt
      rw [← hlength] at hlt
      exact absurd hlt (by simp [units])
  | cons c s ih =>
    cases t with
    | nil =>
      have hlength := congrArg List.length h
      have hlt := size_lt_size_cons c s
      unfold size at hlt
      rw [hlength] at hlt
      exact absurd hlt (by simp [units])
    | cons d t =>
      obtain ⟨rfl, htail⟩ := unitsOf_append_inj h
      rw [ih htail]

/-! ### The reader -/

abbrev Found := Option (List Nat × List Char)

def isLineEnd (c : Char) : Bool :=
  c = '\n' || c = '\r' || c.toNat = 0x2028 || c.toNat = 0x2029

def control? : Char → Option Nat
  | 'b' => some 8
  | 't' => some 9
  | 'n' => some 10
  | 'v' => some 11
  | 'f' => some 12
  | 'r' => some 13
  | _ => none

def readBraced (s : List Char) : Found :=
  match s.dropWhile (· ≠ '}') with
  | [] => none
  | _ :: rest =>
    match Text.hexValue? (s.takeWhile (· ≠ '}')) with
    | some n =>
      if s.takeWhile (· ≠ '}') = [] || 0x10FFFF < n then none else some (unitsOf n, rest)
    | none => none

/-- What a backslash denotes together with what is behind it. The end of a line denotes nothing. -/
def readEscape : List Char → Found
  | [] => none
  | '\r' :: '\n' :: rest => some ([], rest)
  | 'x' :: a :: b :: rest => (Text.hexValue? [a, b]).map fun n => ([n], rest)
  | 'u' :: '{' :: rest => readBraced rest
  | 'u' :: a :: b :: c :: d :: rest => (Text.hexValue? [a, b, c, d]).map fun n => ([n], rest)
  | c :: rest =>
    if isLineEnd c then some ([], rest)
    else if c = '0' && !rest.head?.any (·.isDigit) then some ([0], rest)
    else if c.isDigit || c = 'x' || c = 'u' then none
    else some ((control? c).elim (unitsOf c.toNat) ([·]), rest)

/-- The characters up to the quote that ends a literal. There are less than `n`. -/
def readCharacters : (n : Nat) → List Char → Found
  | 0, _ => none
  | _ + 1, [] => none
  | _ + 1, '\'' :: rest => some ([], rest)
  | n + 1, '\\' :: rest =>
    (readEscape rest).bind fun escape =>
      (readCharacters n escape.2).map fun found => (escape.1 ++ found.1, found.2)
  | n + 1, c :: rest =>
    if c = '\n' || c = '\r' then none
    else (readCharacters n rest).map fun found => (unitsOf c.toNat ++ found.1, found.2)

def readLiteral : List Char → Found
  | '\'' :: rest => readCharacters rest.length rest
  | _ => none

/-- Reads literals as long as there is a bar and another literal behind the last one. There are at
most `n`. -/
def readSeparated : (n : Nat) → List Char → Option (List (List Nat) × List Char)
  | 0, _ => none
  | n + 1, s =>
    match readLiteral s with
    | some (us, ' ' :: '|' :: ' ' :: '\'' :: rest) =>
      (readSeparated n ('\'' :: rest)).map fun found => (us :: found.1, found.2)
    | some (us, rest) => some ([us], rest)
    | none => none

def readLiterals (s : List Char) : Option (List (List Nat) × List Char) :=
  readSeparated (s.length + 1) s

/-! ### What is denoted -/

/-- Nothing in the text has a meaning of its own between quotes. -/
def IsPlain (s : List Char) : Prop := ∀ c ∈ s, c ∉ ['\'', '\\', '\n', '\r']

instance (s : List Char) : Decidable (IsPlain s) :=
  List.decidableBAll (· ∉ ['\'', '\\', '\n', '\r']) s

section

variable {s rest : List Char} {us : List Nat}

/-- A code point denotes at most one unit more than it takes together with the brace behind it. -/
theorem readBraced_size (h : readBraced s = some (us, rest)) :
    us.length + size rest ≤ size s + 1 := by
  unfold readBraced at h
  split at h
  · cases h
  · rename_i c tail hdrop
    split at h
    · rename_i n _
      split at h
      · cases h
      · obtain ⟨rfl, rfl⟩ := Prod.mk.inj (Option.some.inj h)
        have hunits := (length_unitsOf n).2
        have hsplit := List.takeWhile_append_dropWhile (p := (· ≠ '}')) (l := s)
        rw [hdrop] at hsplit
        have hsize := congrArg size hsplit
        have hlt := size_lt_size_cons c tail
        rw [size_append] at hsize
        omega
    · cases h

/-- An escape denotes no more units than are behind its backslash. -/
theorem readEscape_size (h : readEscape s = some (us, rest)) : us.length + size rest ≤ size s := by
  unfold readEscape at h
  split at h
  · cases h
  · obtain ⟨rfl, rfl⟩ := Prod.mk.inj (Option.some.inj h)
    simp only [size_cons, List.length_nil]
    omega
  · obtain ⟨n, -, hfound⟩ := Option.map_eq_some_iff.mp h
    obtain ⟨rfl, rfl⟩ := Prod.mk.inj hfound
    have hx := (length_unitsOf 'x'.toNat).1
    simp only [size_cons, List.length_singleton]
    omega
  · have hbraced := readBraced_size h
    have hu := (length_unitsOf 'u'.toNat).1
    simp only [size_cons]
    omega
  · obtain ⟨n, -, hfound⟩ := Option.map_eq_some_iff.mp h
    obtain ⟨rfl, rfl⟩ := Prod.mk.inj hfound
    have hu := (length_unitsOf 'u'.toNat).1
    simp only [size_cons, List.length_singleton]
    omega
  · rename_i c tail _ _ _ _
    have hc := (length_unitsOf c.toNat).1
    rw [size_cons]
    split at h
    · obtain ⟨rfl, rfl⟩ := Prod.mk.inj (Option.some.inj h)
      simp only [List.length_nil]
      omega
    · split at h
      · obtain ⟨rfl, rfl⟩ := Prod.mk.inj (Option.some.inj h)
        simp only [List.length_singleton]
        omega
      · split at h
        · cases h
        · obtain ⟨rfl, rfl⟩ := Prod.mk.inj (Option.some.inj h)
          cases control? c with
          | none => exact Nat.le_refl _
          | some n =>
            simp only [Option.elim_some, List.length_singleton]
            omega

/-- Either the characters stand for themselves, or they denote fewer units than they are. -/
theorem readCharacters_cases {n : Nat} (h : readCharacters n s = some (us, rest)) :
    (∃ p, IsPlain p ∧ s = p ++ '\'' :: rest ∧ us = units p) ∨
      us.length + 1 + size rest < size s := by
  induction n generalizing s us with
  | zero => cases h
  | succ n ih =>
    unfold readCharacters at h
    split at h
    · rename_i heq
      cases heq
    · cases h
    · obtain ⟨rfl, rfl⟩ := Prod.mk.inj (Option.some.inj h)
      exact Or.inl ⟨[], List.forall_mem_nil _, rfl, rfl⟩
    · rename_i m tail heq
      obtain rfl := Nat.succ.inj heq
      obtain ⟨⟨front, behind⟩, hescape, hmore⟩ := Option.bind_eq_some_iff.mp h
      obtain ⟨⟨vs, last⟩, hread, hfound⟩ := Option.map_eq_some_iff.mp hmore
      dsimp only at hread hfound
      obtain ⟨rfl, rfl⟩ := Prod.mk.inj hfound
      have hfront := readEscape_size hescape
      -- The escape makes up for what follows the backslash, but not for the backslash.
      have hback := size_lt_size_cons '\\' tail
      right
      rw [List.length_append]
      rcases ih hread with ⟨p, -, rfl, rfl⟩ | hlt
      · have hquote := size_lt_size_cons '\'' last
        have hp : (units p).length = size p := rfl
        rw [size_append] at hfront
        omega
      · omega
    · rename_i m c tail hquote hslash heq
      obtain rfl := Nat.succ.inj heq
      split at h
      · cases h
      · rename_i hbreak
        obtain ⟨⟨vs, last⟩, hread, hfound⟩ := Option.map_eq_some_iff.mp h
        dsimp only at hfound
        obtain ⟨rfl, rfl⟩ := Prod.mk.inj hfound
        rcases ih hread with ⟨p, hp, rfl, rfl⟩ | hlt
        · have hc : c ∉ ['\'', '\\', '\n', '\r'] := by
            simp only [Bool.or_eq_true, decide_eq_true_eq, not_or] at hbreak
            simp only [List.mem_cons, List.not_mem_nil, or_false, not_or]
            exact ⟨hquote, hslash, hbreak⟩
          exact Or.inl ⟨c :: p, List.forall_mem_cons.mpr ⟨hc, hp⟩, rfl, rfl⟩
        · right
          rw [List.length_append, size_cons]
          omega

/-- Between quotes a plain text denotes its own units. -/
theorem readCharacters_of_isPlain {n : Nat} {p : List Char} (hp : IsPlain p) (hn : p.length < n)
    (rest : List Char) : readCharacters n (p ++ '\'' :: rest) = some (units p, rest) := by
  induction p generalizing n with
  | nil =>
    obtain ⟨n, rfl⟩ : ∃ k, n = k + 1 := Nat.exists_eq_add_one.mpr (by simpa using hn)
    rfl
  | cons c p ih =>
    obtain ⟨hc, hrest⟩ := List.forall_mem_cons.mp hp
    obtain ⟨n, rfl⟩ : ∃ k, n = k + 1 :=
      Nat.exists_eq_add_one.mpr (Nat.lt_of_le_of_lt (Nat.zero_le _) hn)
    simp only [List.mem_cons, List.not_mem_nil, or_false, not_or] at hc
    obtain ⟨hquote, hslash, hbreak⟩ := hc
    have hread := ih hrest (n := n) (by simpa using hn)
    rw [List.cons_append, readCharacters]
    · simp [hbreak, hread, units]
    · exact hquote
    · exact hslash

/-! ### Quoted texts -/

def quote (v : List Char) : List Char := '\'' :: v ++ ['\'']

def quoteAll (vs : List (List Char)) : List Char := " | ".toList.intercalate (vs.map quote)

theorem quote_append (v rest : List Char) : quote v ++ rest = '\'' :: (v ++ '\'' :: rest) := by
  simp [quote]

theorem size_quote (v : List Char) : size (quote v) = size v + 2 := by
  have hquote : (unitsOf '\''.toNat).length = 1 := rfl
  rw [quote, List.cons_append, size_cons, size_append, size_cons, hquote, size_nil]
  omega

theorem quoteAll_cons (v : List Char) {vs : List (List Char)} (hne : vs ≠ []) (rest : List Char) :
    quoteAll (v :: vs) ++ rest = quote v ++ ' ' :: '|' :: ' ' :: (quoteAll vs ++ rest) :=
  TypeExpr.intercalate_bar_cons (quote v) (mt List.map_eq_nil_iff.mp hne) rest

theorem quoteAll_singleton (v : List Char) : quoteAll [v] = quote v := List.intercalate_singleton

theorem quoteAll_eq_cons {vs : List (List Char)} (hne : vs ≠ []) (rest : List Char) :
    ∃ tail, quoteAll vs ++ rest = '\'' :: tail := by
  obtain ⟨v, vs, rfl⟩ := List.exists_cons_of_ne_nil hne
  cases vs with
  | nil => exact ⟨v ++ ['\''] ++ rest, by rw [quoteAll_singleton]; rfl⟩
  | cons w vs => exact ⟨_, by rw [quoteAll_cons v (List.cons_ne_nil w vs)]; rfl⟩

theorem size_bar (s : List Char) : size (' ' :: '|' :: ' ' :: s) = size s + 3 := by
  have hspace : (unitsOf ' '.toNat).length = 1 := rfl
  have hbar : (unitsOf '|'.toNat).length = 1 := rfl
  rw [size_cons, size_cons, size_cons, hspace, hbar]
  omega

theorem readLiteral_cases (h : readLiteral s = some (us, rest)) :
    (∃ p, IsPlain p ∧ s = quote p ++ rest ∧ us = units p) ∨ us.length + 2 + size rest < size s := by
  unfold readLiteral at h
  split at h
  · rename_i tail
    rcases readCharacters_cases h with ⟨p, hp, rfl, rfl⟩ | hlt
    · exact Or.inl ⟨p, hp, (quote_append p rest).symm, rfl⟩
    · have hquote := size_lt_size_cons '\'' tail
      right
      omega
  · cases h

/-- A plain text in quotes denotes itself. -/
theorem readLiteral_quote {p : List Char} (hp : IsPlain p) (rest : List Char) :
    readLiteral (quote p ++ rest) = some (units p, rest) := by
  rw [quote_append]
  exact readCharacters_of_isPlain hp (by simp) rest

/-- A text between quotes denotes itself just if nothing in it has a meaning of its own. -/
theorem readLiteral_quote_iff {v : List Char} (rest : List Char) :
    readLiteral (quote v ++ rest) = some (units v, rest) ↔ IsPlain v := by
  constructor
  · intro h
    rcases readLiteral_cases h with ⟨p, hp, -, hunits⟩ | hlt
    · rw [units_injective hunits]
      exact hp
    · have hv : (units v).length = size v := rfl
      rw [size_append, size_quote] at hlt
      omega
  · intro hv
    exact readLiteral_quote hv rest

example : readLiteral "'it\\'s \\x41\\u\x7b1F600\x7d'; ".toList =
    some (units "it's A😀".toList, "; ".toList) := by decide

def totalSize : List (List Nat) → Nat
  | [] => 0
  | us :: uss => us.length + 5 + totalSize uss

theorem size_quoteAll {vs : List (List Char)} (hne : vs ≠ []) (rest : List Char) :
    size (quoteAll vs ++ rest) + 3 = totalSize (vs.map units) + size rest := by
  induction vs with
  | nil => exact absurd rfl hne
  | cons v vs ih =>
    have hv : (units v).length = size v := rfl
    rw [List.map_cons, totalSize]
    cases vs with
    | nil =>
      rw [quoteAll_singleton, size_append, size_quote]
      rw [List.map_nil, totalSize]
      omega
    | cons w vs =>
      have hrest := ih (List.cons_ne_nil w vs)
      rw [quoteAll_cons v (List.cons_ne_nil w vs), size_append, size_quote, size_bar]
      omega

/-- Either all literals stand for themselves, or together they denote fewer units than they are. -/
theorem readSeparated_cases {n : Nat} {uss : List (List Nat)}
    (h : readSeparated n s = some (uss, rest)) :
    (∃ ps, ps ≠ [] ∧ (∀ p ∈ ps, IsPlain p) ∧ s = quoteAll ps ++ rest ∧ uss = ps.map units) ∨
      totalSize uss + size rest < size s + 3 := by
  induction n generalizing s uss with
  | zero => cases h
  | succ n ih =>
    rw [readSeparated] at h
    split at h
    · rename_i us tail hread
      obtain ⟨⟨vss, last⟩, hmore, hfound⟩ := Option.map_eq_some_iff.mp h
      dsimp only at hfound
      obtain ⟨rfl, rfl⟩ := Prod.mk.inj hfound
      rw [totalSize]
      rcases readLiteral_cases hread with ⟨p, hp, rfl, rfl⟩ | hlt
      · rcases ih hmore with ⟨ps, hne, hps, htext, rfl⟩ | hlt
        · refine Or.inl ⟨p :: ps, List.cons_ne_nil _ _, List.forall_mem_cons.mpr ⟨hp, hps⟩, ?_, rfl⟩
          rw [quoteAll_cons p hne, htext]
        · right
          have hunits : (units p).length = size p := rfl
          rw [size_append, size_quote, size_bar]
          omega
      · right
        rw [size_bar] at hlt
        rcases ih hmore with ⟨ps, hne, -, htext, rfl⟩ | hlt'
        · have hsize := size_quoteAll hne last
          rw [← htext] at hsize
          omega
        · omega
    · rename_i us tail _ hread
      obtain ⟨rfl, rfl⟩ := Prod.mk.inj (Option.some.inj h)
      rcases readLiteral_cases hread with ⟨p, hp, rfl, rfl⟩ | hlt
      · refine Or.inl ⟨[p], List.cons_ne_nil _ _, List.forall_mem_singleton.mpr hp, ?_, rfl⟩
        rw [quoteAll_singleton]
      · right
        rw [totalSize, totalSize]
        omega
    · cases h

/-- Plain texts in quotes with bars between them denote themselves. -/
theorem readSeparated_quoteAll {n : Nat} {vs : List (List Char)} (hne : vs ≠ [])
    (h : ∀ v ∈ vs, IsPlain v) (hn : vs.length ≤ n) {rest : List Char}
    (hrest : ¬" | '".toList <+: rest) :
    readSeparated n (quoteAll vs ++ rest) = some (vs.map units, rest) := by
  induction vs generalizing n with
  | nil => exact absurd rfl hne
  | cons v vs ih =>
    obtain ⟨hv, hvs⟩ := List.forall_mem_cons.mp h
    obtain ⟨n, rfl⟩ : ∃ k, n = k + 1 :=
      Nat.exists_eq_add_one.mpr (Nat.lt_of_lt_of_le (by simp) hn)
    cases vs with
    | nil =>
      rw [quoteAll_singleton, readSeparated, readLiteral_quote hv]
      split
      · rename_i us tail heq
        obtain ⟨-, rfl⟩ := Prod.mk.inj (Option.some.inj heq)
        exact absurd ⟨tail, rfl⟩ hrest
      · rename_i heq
        obtain ⟨rfl, rfl⟩ := Prod.mk.inj (Option.some.inj heq)
        rfl
      · rename_i heq
        cases heq
    | cons w vs =>
      have hread := ih (List.cons_ne_nil w vs) hvs (n := n) (by simpa using hn)
      obtain ⟨tail, htail⟩ := quoteAll_eq_cons (List.cons_ne_nil w vs) rest
      rw [quoteAll_cons v (List.cons_ne_nil w vs), readSeparated, readLiteral_quote hv, htail]
      rw [htail] at hread
      simp only [hread, Option.map_some, List.map_cons]

/-- Texts between quotes denote themselves just if nothing in any of them has a meaning of its
own. -/
theorem readLiterals_quoteAll_iff (vs : List (List Char)) (hne : vs ≠ []) {rest : List Char}
    (hrest : ¬" | '".toList <+: rest) :
    readLiterals (quoteAll vs ++ rest) = some (vs.map units, rest) ↔ ∀ v ∈ vs, IsPlain v := by
  constructor
  · intro h
    rcases readSeparated_cases h with ⟨ps, -, hps, -, hunits⟩ | hlt
    · rw [List.map_injective_iff.mpr units_injective hunits]
      exact hps
    · have hsize := size_quoteAll hne rest
      omega
  · intro h
    have hlength := (TypeExpr.length_intercalate_bars (vs.map quote)).2
    have hn : vs.length ≤ (quoteAll vs ++ rest).length + 1 := by
      rw [List.length_map] at hlength
      rw [List.length_append, quoteAll]
      omega
    exact readSeparated_quoteAll hne h hn hrest

end

end StringLiteral

end ContentTypes
