import StructForge.Proofs.Conversion
import StructForge.Proofs.Go.Rows
import StructForge.Proofs.Sql.Fields

/-!
# The lines of a table's struct

The code for a statement has a line for every column, two lines in front of these, the closing brace and perhaps the
method that tells the table's name behind them, and none of its lines ends in a blank (`lines_convert`). No name, type
or comment that is read from a statement can break a line or leave a blank at its end: names are words, Go names have
no blanks of ASCII, types are those of the tables, and comments are words with single spaces between them.
-/

namespace StructForge

open Text

namespace Go

/-! ## Fields -/

/-- Without nested types, a field has its own type in place too. -/
theorem inlineFields_of_unnested {s : Schema} (htypes : s.nestedTypes = []) {fields : List Field}
    (hfields : ∀ f ∈ fields, f.nested = none) (room depth : Nat) (withStorage : Bool) :
    inlineFields s room depth withStorage fields =
      .ok (renderRows depth (fields.map fun f => rowOf withStorage f f.targetType)) := by
  have htype : ∀ f ∈ fields, inlineType s depth (renderBelow s room depth) f = .ok f.targetType := by
    intro f hf
    rw [inlineType, nested?, hfields f hf, htypes]
    rfl
  have hrows : (fields.mapM fun f => (inlineType s depth (renderBelow s room depth) f).map (rowOf withStorage f)) =
      .ok (fields.map fun f => rowOf withStorage f f.targetType) := by
    rw [mapM_eq_ok_iff, List.forall₂_map_right_iff, List.forall₂_same]
    intro f hf
    rw [htype f hf]
    rfl
  rw [inlineFields_eq, hrows]
  rfl

/-- The fields of a table are written with the types that they have, whatever the options. -/
theorem fieldLines_of_unnested {s : Schema} (htypes : s.nestedTypes = []) (hfields : ∀ f ∈ s.fields, f.nested = none)
    (o : Options) : fieldLines s o = .ok (plainFields true s.fields) := by
  rw [fieldLines]
  split
  · exact inlineFields_of_unnested htypes hfields _ _ _
  · rfl

section Column

variable {f : Field} (hf : Sql.IsColumnField f)
include hf

theorem newline_not_mem_columnTag (withStorage : Bool) : '\n' ∉ tag f withStorage := by
  refine newline_not_mem_tag hf.name.newline_not_mem (fun column hcolumn => ?_) withStorage
  rw [hf.stored] at hcolumn
  cases hcolumn
  exact hf.name.newline_not_mem

/-- The line of a column starts with the Go name and a space, and does not end in a blank. -/
theorem columnRow_line (withStorage : Bool) (w : Widths) :
    (∃ u, indentation 0 ++ (rowOf withStorage f f.targetType).render w = indent ++ f.targetName ++ ' ' :: u) ∧
      '\n' ∉ indentation 0 ++ (rowOf withStorage f f.targetType).render w ∧
      EndsInk (indentation 0 ++ (rowOf withStorage f f.targetType).render w) := by
  obtain ⟨comment, hcomment, hline, hink⟩ := hf.comment_line
  have hvisible : ∀ c, (rowOf withStorage f f.targetType).visibleComment = some c → '\n' ∉ c ∧ EndsInk c := by
    intro c hc
    have hmem := (Option.filter_eq_some_iff.mp hc).1
    have hsome : some comment = some c := hcomment.symm.trans hmem
    cases hsome
    exact ⟨hline, hink⟩
  have hname : '\n' ∉ f.targetName := hf.targetName ▸ Naming.newline_not_mem_camel f.serializedName
  refine ⟨?_, ?_, ?_⟩
  · obtain ⟨u, hu⟩ := (rowOf withStorage f f.targetType).exists_render w
    exact ⟨u, by rw [hu]; simp [indentation, rowOf]⟩
  · refine List.not_mem_append (newline_not_mem_indentation 0) (Row.newline_not_mem_render hname hf.type_line ?_ ?_)
    · exact newline_not_mem_columnTag hf withStorage
    · exact fun c hc => (hvisible c hc).1
  · exact (Row.endsInk_render (endsInk_tag f withStorage) fun c hc => (hvisible c hc).2).append _

end Column

/-- The lines of columns, one for each. -/
theorem plainFields_lines {fields : List Field} (hfields : ∀ f ∈ fields, Sql.IsColumnField f) (withStorage : Bool) :
    List.Forall₂ (fun f row => ∃ u, row = indent ++ f.targetName ++ ' ' :: u) fields (plainFields withStorage fields) ∧
      ∀ row ∈ plainFields withStorage fields, '\n' ∉ row ∧ EndsInk row := by
  rw [plainFields, renderRows]
  generalize Widths.ofRows (fields.map fun f => rowOf withStorage f f.targetType) = w
  rw [List.map_map]
  refine ⟨?_, fun row hrow => ?_⟩
  · rw [List.forall₂_map_right_iff, List.forall₂_same]
    exact fun f hf => (columnRow_line (hfields f hf) withStorage w).1
  · obtain ⟨f, hf, rfl⟩ := List.mem_map.mp hrow
    exact (columnRow_line (hfields f hf) withStorage w).2

/-! ## The other lines -/

/-- The name of a struct is one line if the override is. -/
theorem newline_not_mem_structName {s : Schema} {o : Options} (hstruct : s.structName = none)
    (hname : ∀ name, o.structName = some name → '\n' ∉ name) : '\n' ∉ structName s o := by
  rw [structName, hstruct]
  cases hoverride : o.structName.filter (!·.isEmpty) with
  | some name => exact hname name (Option.filter_eq_some_iff.mp hoverride).1
  | none =>
    cases s.tableName.filter (!·.isEmpty) with
    | some table => exact Naming.newline_not_mem_camel table
    | none => decide

/-- The lines of a struct for a table. -/
def tableLines (name table : Text) (rows : List Text) (withAccessor : Bool) : List Text :=
  [("// " ++ name ++ " represents the " ++ table ++ " table" : Text), "type " ++ name ++ " struct \x7b"] ++ rows ++
    [("\x7d" : Text)] ++ (if withAccessor then accessor name table else [])

theorem codeLines_table {s : Schema} {table : Text} (htable : s.tableName = some table) (hne : table ≠ [])
    (htypes : s.nestedTypes = []) (o : Options) (rows : List Text) :
    codeLines s o rows = tableLines (structName s o) table rows o.emitStorageAccessor := by
  have hfilter : s.tableName.filter (!·.isEmpty) = some table := by
    rw [htable, Option.filter_some, if_pos (by simpa using hne)]
  simp [codeLines, tableLines, declaration, hfilter, htypes]

/-- A line that is no more than one, and is empty or ends in ink. -/
def IsNeat (line : Text) : Prop := '\n' ∉ line ∧ (line = [] ∨ EndsInk line)

theorem isNeat_tableLines {name table : Text} {rows : List Text} (hname : '\n' ∉ name) (htable : '\n' ∉ table)
    (hrows : ∀ row ∈ rows, '\n' ∉ row ∧ EndsInk row) (withAccessor : Bool) :
    ∀ line ∈ tableLines name table rows withAccessor, IsNeat line := by
  have hink : ∀ {line : Text} (v : Text) (c : Char), line = v ++ [c] → '\n' ∉ line → isBlank c = false →
      IsNeat line := fun v c hline hnewline hc => ⟨hnewline, .inr ⟨v, c, hline, hc⟩⟩
  have haccessor : ∀ line ∈ accessor name table, IsNeat line := by
    simp only [accessor, List.forall_mem_cons, List.not_mem_nil, false_imp_iff, implies_true, and_true]
    refine ⟨⟨by decide, .inl rfl⟩, ?_, ?_, ?_, ?_⟩
    · exact hink "// TableName returns the table nam" 'e' rfl (by decide) (by decide)
    · exact hink ("func (" ++ name ++ ") TableName() string ") '\x7b' (by simp) (by simp [hname]) (by decide)
    · exact hink (indent ++ "return \"" ++ table) '"' rfl (by simp [indent, htable]) (by decide)
    · exact hink [] '\x7d' rfl (by decide) (by decide)
  simp only [tableLines, List.forall_mem_append, List.forall_mem_cons, List.not_mem_nil, false_imp_iff, implies_true,
    and_true]
  refine ⟨⟨⟨⟨?_, ?_⟩, fun row hrow => ⟨(hrows row hrow).1, .inr (hrows row hrow).2⟩⟩, ?_⟩, ?_⟩
  · exact hink ("// " ++ name ++ " represents the " ++ table ++ " tabl") 'e' (by simp) (by simp [hname, htable])
      (by decide)
  · refine hink ("type " ++ name ++ " struct ") '\x7b' ?_ ?_ (by decide)
    · simp
    · simp [hname]
  · exact hink [] '\x7d' rfl (by decide) (by decide)
  · split
    · exact haccessor
    · nofun

end Go

/-! ## Conversions -/

namespace Conversion

open Go

/-- The code for a statement has two lines, one for every column, a brace, and five more with an accessor. No line of it
ends in a blank. -/
theorem lines_convert {t : Text} {request : Request} {o : Options} {given : Option Text} {r : Result}
    (h : convert t request o given = .ok r) {dialect : Sql} (hsource : r.source = .sql dialect)
    (hname : ∀ name, o.structName = some name → '\n' ∉ name) :
    ∃ table rows method, r.schema.tableName = some table ∧
      lines r.code = [("// " ++ r.structName ++ " represents the " ++ table ++ " table" : Text),
        "type " ++ r.structName ++ " struct \x7b"] ++ rows ++ [("\x7d" : Text)] ++ method ++ [[]] ∧
      List.Forall₂ (fun f row => ∃ u, row = "    " ++ f.targetName ++ ' ' :: u) r.schema.fields rows ∧
      method.length = (if o.emitStorageAccessor then 5 else 0) ∧
      ∀ line ∈ lines r.code, line = [] ∨ EndsInk line := by
  obtain ⟨-, hread, hcode, hstruct⟩ := exists_read_of_convert h
  rw [hsource, Reader.read_sql_eq_ok] at hread
  obtain ⟨table, htable, hschema, hfields⟩ := Sql.schema_of_readSchema hread
  have htypes : r.schema.nestedTypes = [] := by rw [hschema]
  have htableName : r.schema.tableName = some table := by rw [hschema]
  have hstructName : '\n' ∉ r.structName := by
    rw [hstruct]
    exact newline_not_mem_structName (by rw [hschema]) hname
  obtain ⟨rows, hrows, hlines⟩ := lines_code hcode
  rw [fieldLines_of_unnested htypes fun f hf => (hfields f hf).unnested] at hrows
  cases hrows
  obtain ⟨hstart, hneat⟩ := plainFields_lines hfields true
  have hall := isNeat_tableLines hstructName htable.newline_not_mem hneat o.emitStorageAccessor
  rw [codeLines_table htableName htable.ne_nil htypes, ← hstruct,
    flatMap_lines_of_not_mem fun line hline => (hall line hline).1] at hlines
  refine ⟨table, _, _, htableName, hlines, hstart, ?_, fun line hline => ?_⟩
  · split <;> rfl
  · rw [hlines] at hline
    rcases List.mem_append.mp hline with hline | hline
    · exact (hall line hline).2
    · exact .inl (List.mem_singleton.mp hline)

/-- A statement with a comment on two lines. -/
def notesTable : Text := "CREATE TABLE notes (id INT PRIMARY KEY, body TEXT COMMENT 'one\n  two ')"

/-- The code for it has ten lines, and an empty one behind the last newline. -/
theorem lines_convert_notesTable :
    ∃ r, convert notesTable (.byName "mysql") {} none = .ok r ∧ (lines r.code).length = 11 ∧
      ∃ table rows method, r.schema.tableName = some table ∧
        lines r.code = [("// " ++ r.structName ++ " represents the " ++ table ++ " table" : Text),
          "type " ++ r.structName ++ " struct \x7b"] ++ rows ++ [("\x7d" : Text)] ++ method ++ [[]] ∧
        List.Forall₂ (fun f row => ∃ u, row = "    " ++ f.targetName ++ ' ' :: u) r.schema.fields rows ∧
        method.length = 5 ∧ ∀ line ∈ lines r.code, line = [] ∨ EndsInk line := by
  have hcount : (convert notesTable (.byName "mysql") {} none).toOption.map
      (fun r => (r.source, (lines r.code).length)) = some (.sql .mysql, 11) := by decide +kernel
  cases h : convert notesTable (.byName "mysql") {} none with
  | error e =>
    rw [h] at hcount
    cases hcount
  | ok r =>
    rw [h] at hcount
    obtain ⟨hsource, hlength⟩ := Prod.mk.inj (Option.some.inj hcount)
    exact ⟨r, rfl, hlength, lines_convert h hsource nofun⟩

end Conversion

end StructForge
