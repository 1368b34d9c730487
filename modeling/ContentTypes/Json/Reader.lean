import ContentTypes.Json.Document
import ContentTypes.Text.Hexadecimal
import ContentTypes.Text.Source

/-!
Reading a JSON text. A byte that belongs to no character does no harm inside a string that is passed
over.
-/

namespace ContentTypes.Json

open Text (Source)

def byteCount : Option Char → Nat
  | some c => c.utf8Size
  | none => 1

def isBlank : Option Char → Bool
  | some c => c = ' ' || c = '\n' || c = '\t' || c = '\r'
  | none => false

def skipBlanks (s : Source) : Source := s.dropWhile isBlank

def digit? : Option Char → Option Nat
  | some c => if c.isDigit then some (c.toNat - 0x30) else none
  | none => none

def takeDigits : Source → List Nat × Source
  | [] => ([], [])
  | c :: rest =>
    match digit? c with
    | some d => ((takeDigits rest).1.cons d, (takeDigits rest).2)
    | none => ([], c :: rest)

/-- A part of the text that was read, or the place where it stopped making sense. -/
inductive Step (α : Type) where
  | done (value : α) (rest : Source)
  | broken (b : Break)

/-- A number that ends too early is malformed for someone who passes over it. -/
def digitMissing : Source → Break
  | [] => ⟨.truncated, .malformed⟩
  | _ => .same .malformed

def readWhole (s : Source) : Step (List Nat) :=
  match takeDigits s with
  | ([], _) => .broken (digitMissing s)
  | ([0], rest) => .done [0] rest
  | (0 :: _ :: _, _) => .broken (.same .malformed)
  | (digits, rest) => .done digits rest

def readFraction : Source → Step (Option (List Nat))
  | some '.' :: rest =>
    match takeDigits rest with
    | ([], _) => .broken (digitMissing rest)
    | (digits, rest) => .done (some digits) rest
  | s => .done none s

def natOfDigits (digits : List Nat) : Nat := digits.foldl (fun n d => 10 * n + d) 0

def readExponentDigits (negative : Bool) (s : Source) : Step (Option Int) :=
  match takeDigits s with
  | ([], _) => .broken (digitMissing s)
  | (digits, rest) =>
    .done (some (if negative then -(natOfDigits digits : Int) else natOfDigits digits)) rest

def readExponent : Source → Step (Option Int)
  | some c :: rest =>
    if c = 'e' || c = 'E' then
      match rest with
      | some '+' :: rest => readExponentDigits false rest
      | some '-' :: rest => readExponentDigits true rest
      | rest => readExponentDigits false rest
    else .done none (some c :: rest)
  | s => .done none s

def readNumeral (negative : Bool) (s : Source) : Step Numeral :=
  match readWhole s with
  | .broken b => .broken b
  | .done whole rest =>
    match readFraction rest with
    | .broken b => .broken b
    | .done fraction rest =>
      match readExponent rest with
      | .broken b => .broken b
      | .done exponent rest => .done { negative, whole, fraction, exponent } rest

def hex4? (a b c d : Option Char) : Option Nat := do
  Text.hexValue? [← a, ← b, ← c, ← d]

def shortEscape? (c : Char) : Option Char :=
  match c with
  | '"' => some '"'
  | '\\' => some '\\'
  | '/' => some '/'
  | 'b' => some '\x08'
  | 'f' => some '\x0c'
  | 'n' => some '\n'
  | 'r' => some '\r'
  | 't' => some '\t'
  | _ => none

structure StringState where
  /-- The characters so far, the last one first. -/
  reversed : List Char := []
  /-- The first half of a character written as two escapes. -/
  lead : Option Nat := none
  /-- Whether a byte has been met that belongs to no character. -/
  undecodable : Bool := false
  /-- The first thing that forbids to keep the string. -/
  fault : Option Fault := none

namespace StringState

def fail (st : StringState) (f : Fault) : StringState := { st with fault := st.fault <|> some f }

/-- A first half without its second half forbids to keep the string. -/
def endLead (st : StringState) : StringState :=
  match st.lead with
  | some _ => { st.fail .malformed with lead := none }
  | none => st

def addChar (st : StringState) (c : Char) : StringState :=
  let st := st.endLead
  { st with reversed := c :: st.reversed }

def addByte (st : StringState) : StringState := { st.endLead with undecodable := true }

def addUnit (st : StringState) (n : Nat) : StringState :=
  match st.lead with
  | some high =>
    -- Two halves in the right order make one character.
    if 0xDC00 ≤ n && n ≤ 0xDFFF then
      { st with
        reversed := Char.ofNat ((high - 0xD800) * 0x400 + (n - 0xDC00) + 0x10000) :: st.reversed
        lead := none }
    else { st.fail .malformed with lead := none }
  | none =>
    if 0xD800 ≤ n && n ≤ 0xDBFF then { st with lead := some n }
    else if 0xDC00 ≤ n && n ≤ 0xDFFF then st.fail .malformed
    else { st with reversed := Char.ofNat n :: st.reversed }

def close (st : StringState) : Reading String :=
  let st := st.endLead
  match st.fault with
  | some f => .error f
  | none => if st.undecodable then .error .malformed else .ok (String.ofList st.reversed.reverse)

def breakAt (st : StringState) (f : Fault) : Break := ⟨st.fault.getD f, f⟩

end StringState

/-- An escape by code unit that is not followed by four hexadecimal digits. Four bytes are looked
at, whatever they are. -/
def unitMissing (s : Source) : Fault :=
  if (s.take 4).foldl (fun n c => n + byteCount c) 0 < 4 then .truncated else .malformed

def readString (st : StringState) : Source → Step (Reading String)
  | [] => .broken (st.breakAt .truncated)
  | some '"' :: rest => .done st.close rest
  | some '\\' :: some 'u' :: a :: b :: c :: d :: rest =>
    match hex4? a b c d with
    | some n => readString (st.addUnit n) rest
    | none => .broken (st.breakAt .malformed)
  | some '\\' :: some 'u' :: rest => .broken (st.breakAt (unitMissing rest))
  | some '\\' :: some c :: rest =>
    match shortEscape? c with
    | some e => readString (st.addChar e) rest
    | none => .broken (st.endLead.breakAt .malformed)
  | some '\\' :: none :: _ => .broken (st.endLead.breakAt .malformed)
  | [some '\\'] => .broken (st.breakAt .truncated)
  | some c :: rest =>
    if c.toNat < 0x20 then .broken (st.endLead.breakAt .malformed)
    else readString (st.addChar c) rest
  | none :: rest => readString st.addByte rest

def readWord {α : Type} (value : α) : List Char → Source → Step α
  | [], s => .done value s
  | _ :: _, [] => .broken (.same .truncated)
  | w :: word, c :: rest =>
    if c = some w then readWord value word rest else .broken (.same .malformed)

/-- A node together with the text after it. There is none once the text has stopped making sense. -/
abbrev Node (α : Type) := α × Option Source

def Step.node {α : Type} (toDocument : α → Document) : Step α → Node Document
  | .done value rest => (toDocument value, some rest)
  | .broken b => (.broken b, none)

def numberDocument (n : Numeral) : Document :=
  .number (match n.number? with
    | some x => .ok x
    | none => .error .malformed)

mutual

/-- A value at a nesting depth. Every call takes a character off the text before it makes
another. -/
def readValue : Nat → Nat → Source → Node Document
  | 0, _, _ => (.broken (.same .malformed), none)
  | fuel + 1, depth, s =>
    match skipBlanks s with
    | [] => (.broken (.same .truncated), none)
    | none :: _ => (.broken (.same .malformed), none)
    | some c :: rest =>
      if c = 'n' then (readWord Document.null ['u', 'l', 'l'] rest).node id
      else if c = 't' then (readWord (Document.bool true) ['r', 'u', 'e'] rest).node id
      else if c = 'f' then (readWord (Document.bool false) ['a', 'l', 's', 'e'] rest).node id
      else if c = '-' then (readNumeral true rest).node numberDocument
      else if c.isDigit then (readNumeral false (some c :: rest)).node numberDocument
      else if c = '"' then (readString {} rest).node .text
      else if c = '[' then
        let (items, rest) := readItems fuel (depth + 1) true rest
        (.array (decide (depthLimit ≤ depth + 1)) items, rest)
      else if c = '\x7b' then
        let (members, rest) := readMembers fuel (depth + 1) true rest
        (.object (decide (depthLimit ≤ depth + 1)) members, rest)
      else (.broken (.same .malformed), none)

def readItems : Nat → Nat → Bool → Source → Node Items
  | 0, _, _, _ => (.broken (.same .malformed), none)
  | fuel + 1, depth, first, s =>
    match skipBlanks s with
    | [] => (.broken (.same .truncated), none)
    | some ']' :: rest => (.closed none, some rest)
    | c :: rest =>
      if first then readItem fuel depth (c :: rest)
      else if c = some ',' then readItem fuel depth rest
      else (.broken (.same .malformed), none)

def readItem : Nat → Nat → Source → Node Items
  | 0, _, _ => (.broken (.same .malformed), none)
  | fuel + 1, depth, s =>
    match readValue fuel depth s with
    -- What follows a broken value is never looked at.
    | (value, none) => (.item value (.broken (.same .malformed)), none)
    | (value, some rest) =>
      let (items, rest) := readItems fuel depth false rest
      (.item value items, rest)

def readMembers : Nat → Nat → Bool → Source → Node Members
  | 0, _, _, _ => (.broken (.same .malformed), none)
  | fuel + 1, depth, first, s =>
    match skipBlanks s with
    | [] => (.broken (.same .truncated), none)
    | some '\x7d' :: rest => (.closed, some rest)
    | c :: rest =>
      if first then readMember fuel depth (c :: rest)
      else if c = some ',' then readMember fuel depth (skipBlanks rest)
      else (.broken (.same .malformed), none)

def readMember : Nat → Nat → Source → Node Members
  | 0, _, _ => (.broken (.same .malformed), none)
  | _ + 1, _, [] => (.broken (.same .truncated), none)
  | fuel + 1, depth, c :: rest =>
    if c = some '"' then
      match readString {} rest with
      | .broken b => (.broken b, none)
      | .done key rest =>
        match skipBlanks rest with
        | some ':' :: rest =>
          match readValue fuel depth rest with
          | (value, none) => (.member key value (.broken (.same .malformed)), none)
          | (value, some rest) =>
            let (members, rest) := readMembers fuel depth false rest
            (.member key value members, rest)
        | [] => (.member key (.broken (.same .truncated)) .closed, none)
        | _ => (.member key (.broken (.same .malformed)) .closed, none)
    else (.broken (.same .malformed), none)

end

structure Whole where
  document : Document
  trailing : Bool

def Whole.ofSource (s : Source) : Whole :=
  match readValue (3 * s.length + 3) 0 s with
  | (document, none) => ⟨document, false⟩
  | (document, some rest) => ⟨document, !(skipBlanks rest).isEmpty⟩

def Whole.value (t : Whole) : Reading Json :=
  match t.document.value with
  | .ok j => if t.trailing then .error .malformed else .ok j
  | .error f => .error f

end ContentTypes.Json
