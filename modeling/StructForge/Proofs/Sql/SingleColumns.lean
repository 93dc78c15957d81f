import StructForge.Proofs.Sql.QuotedNames
import StructForge.Proofs.Sql.ColumnReading

/-!
# Tables with one column

A statement with a body that is one line has the field of the column on that line, and no other (`isOnlyField_iff`). A
column that starts with a name and the word of a type is read up to where its type ends, whatever stands behind that
(`TypedColumn.isOnlyField_iff_toField`).
-/

namespace StructForge.Sql

open Text

/-! ## Statements around a body -/

/-- The statement that makes a table with a body. -/
def statementOf (table : Name) (body : Text) : Text :=
  "CREATE TABLE " ++ (table.text ++ [' ']) ++ '(' :: (body ++ [')'])

theorem readSchema_statementOf {dialect : Sql} (table : Name) {body : Text} (h : body ≠ []) :
    readSchema dialect (statementOf table body) =
      schemaOf table.text ((columnsOf dialect (bodyLines body)).mapM (ColumnText.toField dialect)) :=
  readSchema_of_parts (findHead?_plain dialect table.nonempty table.word) paren_not_mem_space h List.not_mem_nil

/-- The statement with that body is read, and has the field and no other one. -/
def IsOnlyField (dialect : Sql) (table : Name) (body : Text) (f : Field) : Prop :=
  readSchema dialect (statementOf table body) = .ok { tableName := some table.text, fields := [f] }

theorem isOnlyField_iff_mapM {dialect : Sql} {table : Name} {body : Text} (h : body ≠ []) {f : Field} :
    IsOnlyField dialect table body f ↔
      (columnsOf dialect (bodyLines body)).mapM (ColumnText.toField dialect) = .ok [f] := by
  rw [IsOnlyField, readSchema_statementOf table h, ← schemaOf_ok, schemaOf_inj]

/-- Of a body with one line, which is a column, that column has the only field. -/
theorem isOnlyField_iff {dialect : Sql} {table : Name} {body line : Text} (h : body ≠ [])
    (hline : bodyLines body = [line]) {column : ColumnText}
    (hcolumn : (Line.read dialect line).column? = some column) {f : Field} :
    IsOnlyField dialect table body f ↔ column.toField dialect = .ok f := by
  have hcolumns : columnsOf dialect (bodyLines body) = [column] := by
    rw [hline, columnsOf]
    simp [hcolumn]
  rw [isOnlyField_iff_mapM h, hcolumns, mapM_eq_ok_iff]
  simp

/-! ## Columns with a word for a type -/

/-- The start of a column: its name, bare or in quotes, and the word of its type, which together start no table
constraint. -/
structure TypedColumn (dialect : Sql) where
  name : Qualifier dialect
  word : Name
  not_constraint : dialect.isConstraint (name.text ++ ' ' :: word.text) = false

/-- A name in front of a blank. -/
theorem Qualifier.readName?_blank {dialect : Sql} (u : Text) : ∀ q : Qualifier dialect,
    dialect.readName? (q.text ++ ' ' :: u) = some (q.name.text, ' ' :: u)
  | bare name => by
    have hblank : skipOneOf dialect.nameClosers (' ' :: u) = ' ' :: u := by cases dialect <;> rfl
    rw [text, readName?_bare dialect name.nonempty name.word (by rfl), hblank]
    rfl
  | quoted n => (readName?_quoted dialect n (' ' :: u)).trans (if_pos n.isQuotedFor_self)

theorem Qualifier.level_text {dialect : Sql} : ∀ q : Qualifier dialect, Level q.text
  | bare name => level_of_isPlain fun c hc => isPlain_of_isWordChar (name.word c hc)
  | quoted n => level_quoted n.quotes_mem n.name.word

namespace TypedColumn

variable {dialect : Sql} (c : TypedColumn dialect)

/-- The column, with what stands behind the word of its type. -/
def text (tail : Text) : Text := c.name.text ++ ' ' :: (c.word.text ++ tail)

theorem text_ne_nil (tail : Text) : c.text tail ≠ [] := by simp [text]

theorem text_append (t u : Text) : c.text (t ++ u) = c.text t ++ u := by simp [text]

theorem exists_start : ∃ a u, c.name.text = a :: u ∧ isBlank a = false := by
  cases c.name with
  | bare name =>
    obtain ⟨a, u, hname⟩ := List.exists_cons_of_ne_nil name.nonempty
    exact ⟨a, u, hname, isBlank_of_isWordChar (name.word a (hname ▸ List.mem_cons_self))⟩
  | quoted n => exact ⟨n.quotes.1, _, rfl, (quotePairs_spec dialect n.quotes n.quotes_mem).2.1.1⟩

theorem level_text {tail : Text} (h : Level tail) : Level (c.text tail) := by
  have hword : Level (' ' :: c.word.text) := by
    refine level_of_isPlain fun a ha => ?_
    rcases List.mem_cons.mp ha with rfl | ha
    · decide
    · exact isPlain_of_isWordChar (c.word.word a ha)
  exact c.name.level_text.append (hword.append h)

/-- A tail that is one piece makes the column one piece. -/
theorem piece_text {tail : Text} (h : scanPieces Scan.start tail = [tail]) :
    scanPieces Scan.start (c.text tail) = [c.text tail] := by
  have hfront : Level (c.text []) := c.level_text (level_blanks (by simp))
  rw [← List.nil_append tail, c.text_append]
  exact scanPieces_append_iff.mpr ⟨hfront.piece, by rw [hfront.closed, h]⟩

theorem newline_not_mem_text {tail : Text} (h : '\n' ∉ tail) : '\n' ∉ c.text tail := by
  have hname : '\n' ∉ c.name.text := by
    have hquotes : ∀ q ∈ dialect.quotePairs, '\n' ≠ q.1 ∧ '\n' ≠ q.2 := by cases dialect <;> decide
    cases c.name with
    | bare name => exact not_mem_of_isWordChar name.word (by decide)
    | quoted n =>
      have hword : '\n' ∉ n.name.text := not_mem_of_isWordChar n.name.word (by decide)
      obtain ⟨hopen, hclose⟩ := hquotes n.quotes n.quotes_mem
      simp [Qualifier.text, QuotedName.text, hword, hopen, hclose]
  have hword : '\n' ∉ c.word.text := not_mem_of_isWordChar c.word.word (by decide)
  simp [text, hname, hword, h]

/-- A column that is one chunk and one piece is one line. -/
theorem bodyLines_text {tail : Text} (hpiece : scanPieces Scan.start tail = [tail])
    (hchunk : splitAtLineEnds (c.text tail) = [c.text tail]) (hink : EndsInk (c.text tail)) :
    bodyLines (c.text tail) = [c.text tail] := by
  obtain ⟨a, u, hname, ha⟩ := c.exists_start
  have hstart : c.text tail = a :: (u ++ ' ' :: (c.word.text ++ tail)) := by rw [text, hname, List.cons_append]
  have htrim : trim (c.text tail) = c.text tail := by
    rw [hstart] at hink ⊢
    exact trim_eq_self ha hink
  rw [bodyLines_singleton hchunk (c.piece_text hpiece) (by rw [htrim]; exact hink.ne_nil), htrim]

/-- The word of a type and what stands behind it start with no constraint, if a character that is of no phrase comes
next. -/
theorem isConstraint_text {b : Text} (hb : ∀ a ∈ b, isBlank a = true) {d : Char} (hblank : isBlank d = false)
    (hword : isWordChar d = false) (u : Text) : dialect.isConstraint (c.text (b ++ d :: u)) = false := by
  rw [text_append, isConstraint_stop hblank hword, ← List.nil_append b, text_append, isConstraint_append_blanks hb,
    text, List.append_nil, c.not_constraint]

/-- The column is read as its name, its type and what stands behind that. -/
theorem column?_text {tail type behind : Text} (hconstraint : dialect.isConstraint (c.text tail) = false)
    (htype : dialect.readTypeText? (c.word.text ++ tail) = some (type, behind)) :
    (Line.read dialect (c.text tail)).column? = some ⟨c.name.name.text, type, behind.dropWhile isBlank⟩ := by
  obtain ⟨a, w, hword⟩ := List.exists_cons_of_ne_nil c.word.nonempty
  have hblank : afterBlanks? (' ' :: (c.word.text ++ tail)) = some (c.word.text ++ tail) := by
    refine afterBlanks?_append (b := [' ']) (by decide) (by decide) ?_
    rw [hword]
    exact dropWhile_isBlank_of_isWordChar (c.word.word a (hword ▸ List.mem_cons_self)) _
  rw [column?_read, hconstraint]
  exact readColumn?_eq_some.mpr ⟨_, _, _, c.name.readName?_blank _, hblank, htype, rfl⟩

/-- A type that ends behind its word, or behind parameters and array suffixes. -/
theorem readTypeText?_word {t behind : Text} (hend : atWordEnd (t ++ behind) = true)
    (htail : dialect.skipTypeTail (t ++ behind) = behind) :
    dialect.readTypeText? (c.word.text ++ (t ++ behind)) = some (c.word.text ++ t, behind) := by
  have htake : takeWord (c.word.text ++ t ++ behind) = (c.word.text, t ++ behind) := by
    rw [List.append_assoc, takeWord_append_of c.word.word hend]
  rw [← List.append_assoc]
  exact readTypeText?_of (by rw [htake]; exact c.word.nonempty) (by rw [htake]; exact htail)

/-- The only field of a table with a column on one line is made from its name, its type and what stands behind that. -/
theorem isOnlyField_iff_toField {table : Name} {tail type behind : Text} (hpiece : scanPieces Scan.start tail = [tail])
    (hline : '\n' ∉ tail) (hink : EndsInk (c.word.text ++ tail))
    (hconstraint : dialect.isConstraint (c.text tail) = false)
    (htype : dialect.readTypeText? (c.word.text ++ tail) = some (type, behind)) {f : Field} :
    IsOnlyField dialect table (c.text tail) f ↔
      ColumnText.toField dialect ⟨c.name.name.text, type, behind.dropWhile isBlank⟩ = .ok f := by
  have hend : EndsInk (c.text tail) := by
    have hfront := hink.append (c.name.text ++ [' '])
    rwa [List.append_assoc] at hfront
  have hchunk := splitAtLineEnds_no_newline (c.newline_not_mem_text hline)
  exact isOnlyField_iff (c.text_ne_nil tail) (c.bodyLines_text hpiece hchunk hend) (c.column?_text hconstraint htype)

end TypedColumn

/-- No type goes on behind a blank with what is neither a blank nor a word. -/
theorem endsType_of_not_word {d : Char} (hblank : isBlank d = false) (hword : isWordChar d = false) (t : Text) :
    EndsType (' ' :: d :: t) where
  startsBlank := fun _ h => by cases h; rfl
  noTypeWord := fun r h => by
    have hr : r = d :: t := by
      rw [eq_dropWhile_of_afterBlanks? h, List.dropWhile_cons_of_pos (by decide),
        List.dropWhile_cons_of_neg (by rw [hblank]; exact Bool.false_ne_true)]
    have hnone : ∀ (w : Text) (ws : List Text), w ≠ [] → (∀ a ∈ w, isWordChar a = true) →
        afterPhrase? (w :: ws) r = none := fun _ _ hne hw => hr ▸ afterPhrase?_of_not_word hne hw hword t
    exact ⟨hnone _ [] (by decide) (by decide), hnone _ [] (by decide) (by decide),
      hnone _ _ (by decide) (by decide), hnone _ _ (by decide) (by decide)⟩

end StructForge.Sql
