import StructForge.Text.Basic

/-!
# Splitting a body into lines

The body of a `CREATE TABLE` statement is cut twice: first at every comma whose white space contains a newline,
whatever stands around it, and then at the commas outside parentheses and quotes. A *scan* keeps track of the
latter: within quotes a backslash hides the next character, outside quotes only quotes, parentheses and commas
count.

`join_scanPieces` says that the second cut loses nothing but commas.
-/

namespace StructForge.Sql

/-! ## Scanning -/

/-- Whether the scan is outside quotes, within quotes, or behind a backslash within quotes. -/
inductive Quoting where
  | none
  | within (quote : Char)
  | escaped (quote : Char)
  deriving DecidableEq

/-- The state of a scan: its quoting, and how many more parentheses were opened than closed. -/
structure Scan where
  quoting : Quoting
  depth : Int
  deriving DecidableEq

namespace Scan

/-- The scan at the start of a text. -/
def start : Scan := ⟨.none, 0⟩

/-- The three characters that open a quoted stretch, and close it again. -/
def isQuote (c : Char) : Bool := c = '\'' || c = '"' || c = '\x60'

/-- The state behind one more character. -/
def next (s : Scan) (c : Char) : Scan :=
  match s.quoting with
  | .escaped quote => ⟨.within quote, s.depth⟩
  | .within quote =>
    if c = '\\' then ⟨.escaped quote, s.depth⟩ else if c = quote then ⟨.none, s.depth⟩ else s
  | .none =>
    if isQuote c then ⟨.within c, s.depth⟩
    else if c = '(' then ⟨.none, s.depth + 1⟩
    else if c = ')' then ⟨.none, s.depth - 1⟩
    else s

/-- Whether the character separates two pieces: a comma outside quotes at depth 0 or below. -/
def separates (s : Scan) (c : Char) : Bool := s.quoting = .none && c = ',' && s.depth ≤ 0

/-- The state behind a text. -/
def run (s : Scan) (t : Text) : Scan := t.foldl next s

/-- A separating comma does not change the state. -/
theorem next_of_separates {s : Scan} {c : Char} (h : s.separates c = true) : s.next c = s := by
  obtain ⟨q, d⟩ := s
  simp only [separates, Bool.and_eq_true, decide_eq_true_eq] at h
  obtain ⟨⟨rfl, rfl⟩, _⟩ := h
  rfl

end Scan

/-- The pieces between the separating commas of a text that is scanned from a state; at least one piece. -/
def scanPieces (s : Scan) : Text → List Text
  | [] => [[]]
  | c :: t =>
    if s.separates c then [] :: scanPieces s t
    else
      match scanPieces (s.next c) t with
      | [] => [[c]]
      | piece :: rest => (c :: piece) :: rest

/-- The list without its last element if that is empty. -/
def dropEmptyLast : List Text → List Text
  | [] => []
  | [piece] => if piece.isEmpty then [] else [piece]
  | piece :: rest => piece :: dropEmptyLast rest

/-- The pieces between the commas outside parentheses and quotes; a final comma opens no piece. -/
def splitTopLevel (t : Text) : List Text := dropEmptyLast (scanPieces Scan.start t)

/-! ## Commas before a line end -/

/-- The length of the shortest start of a text that has all newlines of the blanks it begins with; none without
newlines there. -/
def newlineSpan? : Text → Option Nat
  | [] => none
  | c :: t =>
    if Text.isBlank c then
      match newlineSpan? t with
      | some n => some (n + 1)
      | none => if c = '\n' then some 1 else none
    else none

/-- The pieces between the commas that are followed by blanks with a newline, after `skip` characters. The blanks
go with their comma up to the last newline. -/
def chunksFrom : (skip : Nat) → Text → List Text
  | _, [] => [[]]
  | skip + 1, _ :: t => chunksFrom skip t
  | 0, c :: t =>
    match if c = ',' then newlineSpan? t else none with
    | some n => [] :: chunksFrom n t
    | none =>
      match chunksFrom 0 t with
      | [] => [[c]]
      | piece :: rest => (c :: piece) :: rest

/-- The pieces between the commas at line ends. -/
def splitAtLineEnds (t : Text) : List Text := chunksFrom 0 t

/-- The lines of a body: cut at commas at line ends, then at commas outside parentheses and quotes, trimmed, and
without blank ones. -/
def bodyLines (body : Text) : List Text :=
  (((splitAtLineEnds body).flatMap splitTopLevel).map Text.trim).filter (!·.isEmpty)

/-! ## Laws -/

theorem scanPieces_ne_nil (s : Scan) : ∀ t : Text, scanPieces s t ≠ []
  | [] => by simp [scanPieces]
  | c :: t => by
    unfold scanPieces
    split
    · simp
    · split <;> simp

/-- The pieces and the commas between them make up the text. -/
theorem join_scanPieces : ∀ (s : Scan) (t : Text), Text.join [','] (scanPieces s t) = t
  | _, [] => rfl
  | s, c :: t => by
    unfold scanPieces
    split
    · rename_i h
      have hc : c = ',' := by
        simp only [Scan.separates, Bool.and_eq_true, decide_eq_true_eq] at h
        exact h.1.2
      rw [Text.join_cons_of_ne_nil _ _ (scanPieces_ne_nil s t), join_scanPieces s t, hc]
      rfl
    · have ih := join_scanPieces (s.next c) t
      have hne := scanPieces_ne_nil (s.next c) t
      split
      · rename_i h
        exact absurd h hne
      · rename_i piece rest h
        rw [h] at ih
        cases rest with
        | nil => simpa [Text.join] using ih
        | cons _ _ => simpa [Text.join] using ih

end StructForge.Sql
