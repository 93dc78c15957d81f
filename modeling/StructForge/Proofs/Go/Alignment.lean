import Mathlib.Data.List.Induction
import StructForge.Proofs.Conversion
import StructForge.Proofs.Go.InPlace

/-!
# Columns line up

The types of a block of fields start at one column, and so do the tags and the comments of the rows of one line; the
columns are as far to the left as the longest name, type and tag allow (`IsAligned`). Every block of a struct is such, at
every depth, with nested types in place or not (`isAligned_of_renders`).

The widths that the rows are padded to give the columns (`Widths.columns`) and the blanks in front of the parts of a row
(`Row.gaps`), so that a row is its parts with these blanks between them (`Row.render_eq_lineWith`). The blanks fill the
row up to the columns, since no part is wider than its width (`Widths.Cover`), and some part is as wide as it
(`widest_mem`).
-/

namespace StructForge.Go

open Text

/-! ## The widest -/

theorem widest_concat (lengths : List Nat) (n : Nat) : widest (lengths ++ [n]) = max (widest lengths) n := by
  simp [widest]

theorem le_widest {lengths : List Nat} : ∀ {n : Nat}, n ∈ lengths → n ≤ widest lengths := by
  induction lengths using List.reverseRecOn with
  | nil => nofun
  | append_singleton lengths m ih =>
    intro n hn
    rw [widest_concat]
    rcases List.mem_append.mp hn with hn | hn
    · exact Nat.le_trans (ih hn) (Nat.le_max_left _ m)
    · rw [List.mem_singleton.mp hn]
      exact Nat.le_max_right _ m

theorem widest_mem {lengths : List Nat} (h : lengths ≠ []) : widest lengths ∈ lengths := by
  induction lengths using List.reverseRecOn with
  | nil => exact absurd rfl h
  | append_singleton lengths m ih =>
    rw [widest_concat, List.mem_append, List.mem_singleton]
    by_cases hlengths : lengths = []
    · rw [hlengths]
      exact .inr (Nat.zero_max m)
    · rcases Nat.le_total (widest lengths) m with hle | hle
      · exact .inr (Nat.max_eq_right hle)
      · rw [Nat.max_eq_left hle]
        exact .inl (ih hlengths)

theorem widest_eq {lengths : List Nat} {n : Nat} (h : n ∈ lengths) (hmax : ∀ m ∈ lengths, m ≤ n) :
    widest lengths = n :=
  Nat.le_antisymm (hmax _ (widest_mem (List.ne_nil_of_mem h))) (le_widest h)

/-- Something among `as` is as long as the longest. -/
theorem exists_widest {α : Type} (length : α → Nat) {as : List α} (h : as ≠ []) :
    ∃ a ∈ as, length a = widest (as.map length) :=
  List.mem_map.mp (widest_mem (mt List.map_eq_nil_iff.mp h))

/-! ## Columns and blanks -/

/-- The columns at which the types of a block start, and the tags and the comments of its rows of one line. -/
structure Columns where
  type : Nat
  tag : Nat
  comment : Nat

/-- How many blanks stand in front of the type, the tag and the comment of a row. -/
structure Gaps where
  type : Nat
  tag : Nat
  comment : Nat

/-- A number of blanks. -/
def blanks (n : Nat) : Text := List.replicate n ' '

/-- A row, `depth` structs deep, with these blanks between its parts. -/
def Row.lineWith (r : Row) (depth : Nat) (g : Gaps) : Text :=
  blanks (4 * (depth + 1)) ++ r.name ++ blanks g.type ++ r.type ++ blanks g.tag ++ r.tag ++
    match r.visibleComment with
    | none => []
    | some comment => blanks g.comment ++ "// " ++ comment

/-- These blanks fill a row up to the columns. In a row of several lines, only the type starts at its column. -/
structure Columns.Fit (c : Columns) (depth : Nat) (r : Row) (g : Gaps) : Prop where
  type : 4 * (depth + 1) + r.name.length + g.type = c.type
  tag : r.isMultiLine = false → c.type + r.type.length + g.tag = c.tag
  comment : r.isMultiLine = false → c.tag + r.tag.length + g.comment = c.comment
  multiLine : r.isMultiLine = true → g.tag = 1 ∧ g.comment = 1
  apart : 1 ≤ g.type ∧ 1 ≤ g.tag ∧ 1 ≤ g.comment

/-- The rows of a block stand in columns, which are no further to the right than the widest parts need: of all rows for
the types, and of the rows of one line for the tags and the comments. -/
structure IsAligned (depth : Nat) (rows : List Row) (lines : List Text) (c : Columns) : Prop where
  fit : List.Forall₂ (fun r line => ∃ g, c.Fit depth r g ∧ line = r.lineWith depth g) rows lines
  type : ∃ r ∈ rows, 4 * (depth + 1) + r.name.length + 1 = c.type
  tag : (∃ r ∈ rows, r.isMultiLine = false) →
    ∃ r ∈ rows, r.isMultiLine = false ∧ c.type + r.type.length + 1 = c.tag
  comment : ∀ r ∈ rows, r.isMultiLine = false →
    (∀ r' ∈ rows, r'.isMultiLine = false → r'.tag.length ≤ r.tag.length) → c.tag + r.tag.length + 1 = c.comment
  ends : List.Forall₂ (fun r line => r.visibleComment = none → EndsInk line) rows lines

/-! ## Padding -/

/-- The columns of rows that are padded to these widths. -/
def Widths.columns (w : Widths) (depth : Nat) : Columns :=
  let type := 4 * (depth + 1) + w.name + 1
  ⟨type, type + w.type + 1, type + w.type + 1 + w.tag + 1⟩

/-- The blanks in a row that is padded to these widths. -/
def Row.gaps (r : Row) (w : Widths) : Gaps :=
  let pad : Nat → Nat → Nat := fun width length => if r.isMultiLine then 0 else width - length
  ⟨w.name - r.name.length + 1, pad w.type r.type.length + 1, pad w.tag r.tag.length + 1⟩

/-- No part of the row is wider than its width, but for the type and the tag in a row of several lines. -/
structure Widths.Cover (w : Widths) (r : Row) : Prop where
  name : r.name.length ≤ w.name
  type : r.isMultiLine = false → r.type.length ≤ w.type
  tag : r.isMultiLine = false → r.tag.length ≤ w.tag

theorem padRight_blank (width : Nat) (t : Text) : padRight width t ++ " " = t ++ blanks (width - t.length + 1) := by
  have hone : blanks (width - t.length + 1) = blanks (width - t.length) ++ " " := List.replicate_succ'
  rw [hone, padRight, List.append_assoc]
  rfl

/-- A row without its comment is its parts with these blanks between them. -/
theorem Row.declaration_eq (w : Widths) (r : Row) : r.declaration w =
    r.name ++ blanks (r.gaps w).type ++ r.type ++ blanks (r.gaps w).tag ++ r.tag := by
  have htype : (if r.isMultiLine then r.type else padRight w.type r.type) ++ " " = r.type ++ blanks (r.gaps w).tag := by
    rw [gaps]
    split
    · rfl
    · exact padRight_blank w.type r.type
  rw [declaration, padRight_blank, List.append_assoc _ _ (" " : Text), htype, ← List.append_assoc]
  rfl

section Padding

variable {w : Widths} {r : Row} (h : w.Cover r)
include h

/-- The blanks fill the row up to the columns. -/
theorem Widths.Cover.fit (depth : Nat) : (w.columns depth).Fit depth r (r.gaps w) := by
  obtain ⟨hname, htype, htag⟩ := h
  constructor <;> simp only [columns, Row.gaps]
  · omega
  · intro hsingle
    have hle := htype hsingle
    simp only [hsingle, Bool.false_eq_true, if_false]
    omega
  · intro hsingle
    have hle := htag hsingle
    simp only [hsingle, Bool.false_eq_true, if_false]
    omega
  · intro hmulti
    simp [hmulti]
  · omega

theorem Widths.Cover.length_declaration (hsingle : r.isMultiLine = false) :
    (r.declaration w).length = w.name + w.type + 2 + r.tag.length := by
  have hname := h.name
  have htype := h.type hsingle
  rw [Row.declaration_eq]
  simp only [Row.gaps, hsingle, Bool.false_eq_true, if_false, blanks, List.length_append, List.length_replicate]
  omega

/-- A row is its parts with these blanks between them. -/
theorem Widths.Cover.render_eq (depth : Nat) : indentation depth ++ r.render w = r.lineWith depth (r.gaps w) := by
  have hcomment : (if r.isMultiLine then r.declaration w
      else padRight (w.name + w.type + w.tag + 2) (r.declaration w)) ++ " " =
        r.declaration w ++ blanks (r.gaps w).comment := by
    cases hmulti : r.isMultiLine with
    | true =>
      simp only [Row.gaps, hmulti, if_true]
      rfl
    | false =>
      have hpad : w.name + w.type + w.tag + 2 - (r.declaration w).length = w.tag - r.tag.length := by
        rw [h.length_declaration hmulti]
        omega
      simp only [Row.gaps, hmulti, Bool.false_eq_true, if_false, padRight_blank, hpad]
  rw [Row.render, Row.lineWith, indentation_eq]
  cases r.visibleComment with
  | none =>
    rw [Row.declaration_eq]
    simp only [blanks, List.append_assoc, List.append_nil]
  | some comment =>
    have hmark : ∀ front : Text, front ++ " // " ++ comment = front ++ " " ++ ("// " ++ comment) := fun front => by simp
    simp only [hmark, hcomment]
    rw [Row.declaration_eq]
    simp only [blanks, List.append_assoc]

end Padding

/-! ## Blocks -/

theorem Widths.cover_ofRows {rows : List Row} {r : Row} (hr : r ∈ rows) : (Widths.ofRows rows).Cover r where
  name := le_widest (List.mem_map_of_mem hr)
  type hsingle := le_widest (List.mem_map_of_mem (List.mem_filter.mpr ⟨hr, by simp [hsingle]⟩))
  tag hsingle := le_widest (List.mem_map_of_mem (List.mem_filter.mpr ⟨hr, by simp [hsingle]⟩))

/-- Rows that are rendered together are aligned. -/
theorem isAligned_renderRows {rows : List Row} (hne : rows ≠ []) (htags : ∀ r ∈ rows, EndsInk r.tag) (depth : Nat) :
    IsAligned depth rows (renderRows depth rows) ((Widths.ofRows rows).columns depth) where
  fit := by
    rw [renderRows, List.forall₂_map_right_iff, List.forall₂_same]
    intro r hr
    have hcover := Widths.cover_ofRows hr
    exact ⟨_, hcover.fit depth, hcover.render_eq depth⟩
  type := by
    obtain ⟨r, hr, hwidest⟩ := exists_widest (·.name.length) hne
    refine ⟨r, hr, ?_⟩
    simp only [Widths.columns, Widths.ofRows, ← hwidest]
  tag := by
    rintro ⟨r, hr, hsingle⟩
    have hmem : r ∈ rows.filter (!·.isMultiLine) := List.mem_filter.mpr ⟨hr, by simp [hsingle]⟩
    obtain ⟨r', hr', hwidest⟩ := exists_widest (·.type.length) (List.ne_nil_of_mem hmem)
    obtain ⟨hr', hsingle'⟩ := List.mem_filter.mp hr'
    refine ⟨r', hr', by simpa using hsingle', ?_⟩
    simp only [Widths.columns, Widths.ofRows, ← hwidest]
  comment := by
    intro r hr hsingle hmax
    have hwidest : widest ((rows.filter (!·.isMultiLine)).map (·.tag.length)) = r.tag.length := by
      refine widest_eq (List.mem_map_of_mem (List.mem_filter.mpr ⟨hr, by simp [hsingle]⟩)) fun m hm => ?_
      obtain ⟨r', hr', rfl⟩ := List.mem_map.mp hm
      obtain ⟨hr', hsingle'⟩ := List.mem_filter.mp hr'
      exact hmax r' hr' (by simpa using hsingle')
    simp only [Widths.columns, Widths.ofRows, hwidest]
  ends := by
    rw [renderRows, List.forall₂_map_right_iff, List.forall₂_same]
    intro r hr hcomment
    rw [Row.render, hcomment]
    exact ((htags r hr).append _).append _

/-! ## Fields -/

/-- Some fields become these rows and lines, `depth` structs deep: with their nested types in place, or with the types
that they have. -/
inductive Renders (s : Schema) (withStorage : Bool) (fields : List Field) : (depth : Nat) → List Row → List Text → Prop
  | inPlace {room depth : Nat} {rows : List Row} {lines : List Text}
      (types : (fields.mapM fun f => (inlineType s depth (renderBelow s room depth) f).map (rowOf withStorage f)) =
        .ok rows)
      (rendered : inlineFields s room depth withStorage fields = .ok lines) :
      Renders s withStorage fields depth rows lines
  | plain : Renders s withStorage fields 0 (fields.map fun f => rowOf withStorage f f.targetType)
      (plainFields withStorage fields)

theorem exists_renders_of_inlineFields {s : Schema} {room depth : Nat} {withStorage : Bool} {fields : List Field}
    {lines : List Text} (h : inlineFields s room depth withStorage fields = .ok lines) :
    ∃ rows, Renders s withStorage fields depth rows lines := by
  obtain ⟨rows, hrows, -⟩ := exists_rows_of_inlineFields h
  exact ⟨rows, .inPlace hrows h⟩

/-- The fields of the struct for a schema are rendered so. -/
theorem exists_renders_of_fieldLines {s : Schema} {o : Options} {lines : List Text} (h : fieldLines s o = .ok lines) :
    ∃ rows, Renders s true s.fields 0 rows lines := by
  rw [fieldLines] at h
  split at h
  · exact exists_renders_of_inlineFields h
  · cases h
    exact ⟨_, .plain⟩

namespace Renders

variable {s : Schema} {withStorage : Bool} {fields : List Field} {depth : Nat} {rows : List Row} {lines : List Text}
  (h : Renders s withStorage fields depth rows lines)
include h

theorem lines_eq : lines = renderRows depth rows := by
  cases h with
  | inPlace types rendered =>
    rw [inlineFields_eq, types] at rendered
    exact (Except.ok.inj rendered).symm
  | plain => rfl

/-- The rows are those of the fields. -/
theorem rowOf_rows : List.Forall₂ (fun f r => ∃ type, rowOf withStorage f type = r) fields rows := by
  cases h with
  | inPlace types rendered =>
    refine (mapM_eq_ok_iff.mp types).imp fun f r hr => ?_
    obtain ⟨type, -, hrow⟩ := map_eq_ok_iff.mp hr
    exact ⟨type, hrow⟩
  | plain =>
    rw [List.forall₂_map_right_iff, List.forall₂_same]
    exact fun f _ => ⟨f.targetType, rfl⟩

theorem exists_rowOf {r : Row} (hr : r ∈ rows) : ∃ f ∈ fields, ∃ type, rowOf withStorage f type = r :=
  exists_mem_of_forall₂ h.rowOf_rows.flip hr

end Renders

/-- The lines of some fields stand in columns, one line for each field where no type spans several lines. -/
theorem isAligned_of_renders {s : Schema} {withStorage : Bool} {fields : List Field} {depth : Nat} {rows : List Row}
    {lines : List Text} (h : Renders s withStorage fields depth rows lines) (hne : fields ≠ [])
    (hname : ∀ f ∈ fields, '\n' ∉ f.targetName) (htag : ∀ f ∈ fields, '\n' ∉ tag f withStorage)
    (hcomment : ∀ f ∈ fields, ∀ comment, f.comment = some comment → '\n' ∉ comment) :
    lines.length = fields.length ∧ (∃ c, IsAligned depth rows lines c) ∧
      List.Forall₂ (fun r line => r.isMultiLine = false → '\n' ∉ line) rows lines ∧
      ((∀ r ∈ rows, r.isMultiLine = false) → Text.lines (join "\n" lines) = lines) := by
  have hrows := h.rowOf_rows
  have hrowsne : rows ≠ [] := by
    rintro rfl
    exact hne (List.forall₂_nil_right_iff.mp hrows)
  have hlength : lines.length = fields.length := by
    rw [h.lines_eq, renderRows, List.length_map, hrows.length_eq]
  have htags : ∀ r ∈ rows, EndsInk r.tag := by
    intro r hr
    obtain ⟨f, -, type, rfl⟩ := h.exists_rowOf hr
    exact endsInk_tag f withStorage
  have hline : ∀ r ∈ rows, r.isMultiLine = false →
      '\n' ∉ indentation depth ++ r.render (Widths.ofRows rows) := by
    intro r hr hsingle
    obtain ⟨f, hf, type, rfl⟩ := h.exists_rowOf hr
    refine List.not_mem_append (newline_not_mem_indentation depth)
      (Row.newline_not_mem_render (hname f hf) (fun hmem => ?_) (htag f hf) fun comment hvisible => ?_)
    · exact absurd (List.contains_iff_mem.mpr hmem) (Bool.eq_false_iff.mp hsingle)
    · exact hcomment f hf comment (Option.filter_eq_some_iff.mp hvisible).1
  refine ⟨hlength, ?_, ?_, fun hsingle => ?_⟩
  · rw [h.lines_eq]
    exact ⟨_, isAligned_renderRows hrowsne htags depth⟩
  · rw [h.lines_eq, renderRows, List.forall₂_map_right_iff, List.forall₂_same]
    exact hline
  · have hlinesne : lines ≠ [] := by
      rintro rfl
      exact hne (List.eq_nil_of_length_eq_zero hlength.symm)
    rw [lines_join hlinesne]
    refine flatMap_lines_of_not_mem fun line hmem => ?_
    rw [h.lines_eq, renderRows] at hmem
    obtain ⟨r, hr, rfl⟩ := List.mem_map.mp hmem
    exact hline r hr (hsingle r hr)

/-- The schema of a document with an object in it, and comments of two lengths. -/
def visitSchema : Schema where
  fields := [{ sourceName := "id", targetName := "Id", sourceType := "number", targetType := "int64",
               comment := some "key", serializedName := "id" },
             { sourceName := "place", targetName := "Place", sourceType := "object", targetType := "Place",
               comment := some "where", serializedName := "place", nested := some 0 },
             { sourceName := "by", targetName := "By", sourceType := "string", targetType := "string",
               serializedName := "by" }]
  nestedTypes := [{ name := "Place",
                    fields := [{ sourceName := "x", targetName := "X", sourceType := "number", targetType := "int64",
                                 serializedName := "x" }] }]

/-- The lines of its fields. The longest name widens the column of types, and the type behind it does not widen that of
tags. -/
def visitLines : List Text :=
  ["    Id    int64  \x60json:\"id\"\x60 // key",
   "    Place struct \x7b\n        X int64 \x60json:\"x\"\x60\n    \x7d \x60json:\"place\"\x60 // where",
   "    By    string \x60json:\"by\"\x60"]

/-- They stand in columns. -/
theorem isAligned_of_renders_visitSchema :
    ∃ rows, Renders visitSchema true visitSchema.fields 0 rows visitLines ∧ visitLines.length = 3 ∧
      ∃ c, IsAligned 0 rows visitLines c := by
  have hmade : (fieldLines visitSchema {}).toOption.map id = some visitLines := by decide +kernel
  obtain ⟨lines, hlines, rfl⟩ := exists_ok_of_toOption hmade
  obtain ⟨rows, hrows⟩ := exists_renders_of_fieldLines hlines
  have haligned := isAligned_of_renders hrows (by decide) (by decide) (by decide) (by decide)
  exact ⟨rows, hrows, haligned.1, haligned.2.1⟩

end StructForge.Go
