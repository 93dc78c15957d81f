import StructForge.Text.Blank

/-!
# Text

A text is a list of characters, and a string literal stands for the list of its characters. This module holds
the operations on texts that know nothing of SQL, JSON or Go: trimming, splitting at a character or at blanks,
joining, padding and searching.

`join_splitOn` says that splitting at a character and joining with it again gives the text back.
-/

namespace StructForge

/-- Text as the list of its characters; lengths and columns count characters. -/
abbrev Text := List Char

instance : Coe String Text := ⟨String.toList⟩

namespace Text

/-- The text as a string. -/
def asString (t : Text) : String := String.ofList t

/-! ## Trimming -/

/-- The text without its trailing characters that satisfy `p`. -/
def dropEndWhile (p : Char → Bool) : Text → Text
  | [] => []
  | c :: t =>
    match dropEndWhile p t with
    | [] => if p c then [] else [c]
    | rest => c :: rest

/-- The text without blanks at its ends. -/
def trim (t : Text) : Text := dropEndWhile isBlank (t.dropWhile isBlank)

/-- The text without its leading and trailing characters that satisfy `p`. -/
def trimWhere (p : Char → Bool) (t : Text) : Text := dropEndWhile p (t.dropWhile p)

/-! ## Splitting and joining -/

/-- The pieces of a text between the characters that satisfy `p`; always at least one piece. -/
def splitWhere (p : Char → Bool) : Text → List Text
  | [] => [[]]
  | c :: t =>
    if p c then [] :: splitWhere p t
    else
      match splitWhere p t with
      | [] => [[c]]
      | piece :: rest => (c :: piece) :: rest

/-- The pieces of a text between the occurrences of a character. -/
def splitOn (sep : Char) (t : Text) : List Text := splitWhere (· == sep) t

/-- The lines of a text; a final newline opens one more, empty line. -/
def lines (t : Text) : List Text := splitOn '\n' t

/-- The maximal runs of characters that satisfy `p`, in order. -/
def runsOf (p : Char → Bool) (t : Text) : List Text := (splitWhere (!p ·) t).filter (!·.isEmpty)

/-- The words of a text: what stands between its blanks. -/
def words (t : Text) : List Text := runsOf (!isBlank ·) t

/-- The pieces one after another, with `sep` between neighbours. -/
def join (sep : Text) : List Text → Text
  | [] => []
  | [piece] => piece
  | piece :: rest => piece ++ sep ++ join sep rest

/-- Every run of blanks becomes one space. -/
def collapseBlanks : Text → Text
  | [] => []
  | c :: t =>
    if isBlank c then
      match t with
      | d :: _ => if isBlank d then collapseBlanks t else ' ' :: collapseBlanks t
      | [] => [' ']
    else c :: collapseBlanks t

/-! ## Padding -/

/-- At least `width` characters, with spaces behind the text. -/
def padRight (width : Nat) (t : Text) : Text := t ++ List.replicate (width - t.length) ' '

/-- At least `width` characters, with copies of `fill` in front of the text. -/
def padLeft (width : Nat) (fill : Char) (t : Text) : Text := List.replicate (width - t.length) fill ++ t

/-! ## Searching -/

/-- What follows `front` in a text that starts with it. -/
def afterPrefix? : (front : Text) → Text → Option Text
  | [], t => some t
  | _ :: _, [] => none
  | a :: front, c :: t => if a = c then afterPrefix? front t else none

/-- Whether the text starts with `front`. -/
def startsWith (t front : Text) : Bool := (afterPrefix? front t).isSome

/-- Whether the text ends with `back`. -/
def endsWith (t back : Text) : Bool := startsWith t.reverse back.reverse

/-- The text without `back` at its end, or the text itself where it ends otherwise. -/
def dropSuffix (t back : Text) : Text :=
  if endsWith t back then t.take (t.length - back.length) else t

/-- Whether `part` occurs in the text. -/
def occursIn (part : Text) : Text → Bool
  | [] => part.isEmpty
  | c :: t => startsWith (c :: t) part || occursIn part t

/-! ## Laws -/

theorem splitWhere_ne_nil (p : Char → Bool) : ∀ t : Text, splitWhere p t ≠ []
  | [] => by simp [splitWhere]
  | c :: t => by
    unfold splitWhere
    split
    · simp
    · split <;> simp

theorem join_cons_of_ne_nil (sep piece : Text) {rest : List Text} (h : rest ≠ []) :
    join sep (piece :: rest) = piece ++ sep ++ join sep rest := by
  cases rest with
  | nil => exact absurd rfl h
  | cons _ _ => rfl

/-- Splitting loses only the separators. -/
theorem join_splitOn (sep : Char) : ∀ t : Text, join [sep] (splitOn sep t) = t
  | [] => rfl
  | c :: t => by
    have ih := join_splitOn sep t
    have hne := splitWhere_ne_nil (· == sep) t
    unfold splitOn at ih ⊢
    unfold splitWhere
    split
    · rename_i h
      rw [join_cons_of_ne_nil _ _ hne, ih, eq_of_beq h]
      rfl
    · split
      · rename_i h
        exact absurd h hne
      · rename_i piece rest h
        rw [h] at ih
        cases rest with
        | nil => simpa [join] using ih
        | cons _ _ => simpa [join] using ih

end Text

end StructForge
