import StructForge.Proofs.Sql.ColumnReading

/-!
# Literals and the marks of a column

A column is marked as a generated value, a primary key or not null by phrases behind its type, which are searched for in
literals too. So the marks of a column are those that it has with an empty literal and those that the content of the
literal spells (`LiteralColumn.marks_field`), and two contents leave the same marks exactly if each mark is there
without them or both spell it or neither does (`LiteralColumn.marks_agree_iff`).
-/

namespace StructForge.Sql

open Text

/-! ## Marks -/

/-- What a column may be marked as. -/
structure Marks where
  autoIncrement : Bool
  primaryKey : Bool
  notNull : Bool
  deriving DecidableEq

/-- What one or the other is marked as. -/
def Marks.or (m n : Marks) : Marks :=
  ⟨m.autoIncrement || n.autoIncrement, m.primaryKey || n.primaryKey, m.notNull || n.notNull⟩

/-- The marks of a field. -/
def marks (f : Field) : Marks := ⟨f.isAutoIncrement, f.isPrimaryKey, !f.nullable⟩

/-- The marks that a text spells. A generated value may make a primary key, and a primary key is not null. -/
def spelled (dialect : Sql) (t : Text) : Marks :=
  let autoIncrement := dialect.generatedPhrases.any (hasPhrase · t)
  let primaryKey := hasPhrase ["primary", "key"] t || (autoIncrement && dialect.autoIncrementIsKey)
  ⟨autoIncrement, primaryKey, primaryKey || hasPhrase ["not", "null"] t⟩

/-! ## Statements with a literal -/

/-- The content of a literal in single quotes, on one line and without quotes or backslashes inside. -/
structure Content where
  text : Text
  no_quote : '\'' ∉ text
  no_backslash : '\\' ∉ text
  no_newline : '\n' ∉ text

/-- The content of an empty literal. -/
def Content.empty : Content := ⟨[], List.not_mem_nil, List.not_mem_nil, List.not_mem_nil⟩

/-- A statement with one column, around the content of a literal in it: the literal stands behind a complete type,
and `tail` behind the last closing parenthesis. -/
structure LiteralColumn (dialect : Sql) where
  head : Text
  table : Text
  rest : Text
  head_eq : dialect.findHead? head = some (table, rest)
  rest_closed : '(' ∉ rest
  before : Text
  after : Text
  tail : Text
  tail_closed : ')' ∉ tail
  opens : (Scan.start.run before).quoting = .none
  chunk : splitAtLineEnds (before ++ '\'' :: '\'' :: after) = [before ++ '\'' :: '\'' :: after]
  piece : scanPieces Scan.start (before ++ '\'' :: '\'' :: after) = [before ++ '\'' :: '\'' :: after]
  not_constraint : dialect.isConstraint (before.dropWhile isBlank) = false
  column : ColumnText
  column_eq : dialect.readColumn? (before.dropWhile isBlank) = some column
  complete : ¬OpenType dialect (before.dropWhile isBlank)
  goType : Text
  goType_eq : dialect.goType column.type = .ok goType

namespace LiteralColumn

variable {dialect : Sql} (s : LiteralColumn dialect) (x y : Content)

/-- The body with a content in the literal. -/
def body : Text := s.before ++ '\'' :: (x.text ++ '\'' :: s.after)

/-- The statement with a content in the literal. -/
def text : Text := s.head ++ '(' :: (s.body x ++ ')' :: s.tail)

/-- What stands behind the type, with a content in the literal. -/
def columnRest : Text := s.column.rest ++ '\'' :: (x.text ++ '\'' :: dropEndWhile isBlank s.after)

/-- The field of the column with a content in the literal. -/
def field : Field := { s.column with rest := s.columnRest x }.fieldOf dialect s.goType

/-! ## How the statement is read -/

/-- A body with a content in the literal is one line. -/
theorem bodyLines_body :
    bodyLines (s.body x) =
      [s.before.dropWhile isBlank ++ '\'' :: (x.text ++ '\'' :: dropEndWhile isBlank s.after)] := by
  have hblank : isBlank '\'' = false := by decide
  have hchunk : splitAtLineEnds (s.body x) = [s.body x] := by
    obtain ⟨hbefore, hafter⟩ := (splitAtLineEnds_append_iff hblank).mp s.chunk
    obtain ⟨_, hafter⟩ := (splitAtLineEnds_append_iff (t := ['\'']) hblank).mp hafter
    have hcontent : splitAtLineEnds ('\'' :: x.text) = ['\'' :: x.text] :=
      splitAtLineEnds_no_newline (by simpa using x.no_newline)
    refine (splitAtLineEnds_append_iff hblank).mpr ⟨hbefore, ?_⟩
    exact (splitAtLineEnds_append_iff (t := '\'' :: x.text) hblank).mpr ⟨hcontent, hafter⟩
  have hpiece : scanPieces Scan.start (s.body x) = [s.body x] := by
    obtain ⟨d, hd⟩ : ∃ d, Scan.start.run s.before = ⟨.none, d⟩ := ⟨_, by rw [← s.opens]⟩
    obtain ⟨hbefore, hafter⟩ := scanPieces_append_iff.mp s.piece
    rw [hd] at hafter
    obtain ⟨_, hempty⟩ := scan_quoted (q := '\'') (d := d) rfl (t := []) List.not_mem_nil List.not_mem_nil
    obtain ⟨_, hafter⟩ := (scanPieces_append_iff (t := ['\'', '\'']) (u := s.after)).mp hafter
    rw [show Scan.run ⟨.none, d⟩ ['\'', '\''] = ⟨.none, d⟩ from hempty] at hafter
    obtain ⟨hcontent, hrun⟩ := scan_quoted (q := '\'') (d := d) rfl x.no_quote x.no_backslash
    have htext : s.body x = s.before ++ (('\'' :: (x.text ++ ['\''])) ++ s.after) := by simp [body]
    rw [htext]
    refine scanPieces_append_iff.mpr ⟨hbefore, ?_⟩
    rw [hd]
    refine scanPieces_append_iff.mpr ⟨hcontent, ?_⟩
    rw [hrun]
    exact hafter
  have htrim : trim (s.body x) =
      s.before.dropWhile isBlank ++ '\'' :: (x.text ++ '\'' :: dropEndWhile isBlank s.after) := by
    rw [trim, body, dropWhile_stop hblank, ← List.cons_append, ← List.append_assoc, dropEndWhile_stop hblank,
      List.append_assoc, List.cons_append]
  have hne : trim (s.body x) ≠ [] := by
    rw [htrim]
    simp
  rw [bodyLines_singleton hchunk hpiece hne, htrim]

/-- The line is a column, with the literal behind its type. -/
theorem readLine (u : Text) :
    Line.read dialect (s.before.dropWhile isBlank ++ '\'' :: u) =
      .column { s.column with rest := s.column.rest ++ '\'' :: u } := by
  have hstops : Stops '\'' := by decide
  have hconstraint := (isConstraint_stop hstops.1.1 hstops.1.2.1 _ u).trans s.not_constraint
  rw [Line.read, if_neg (by rw [hconstraint]; exact Bool.false_ne_true), readColumn?_stop hstops s.column_eq s.complete]

/-- The statement has one field, whatever the content of the literal. -/
theorem readSchema_text :
    readSchema dialect (s.text x) = .ok { tableName := some s.table, fields := [s.field x] } := by
  have hne : s.body x ≠ [] := by simp [body]
  rw [readSchema, text, Statement.read_of_parts s.head_eq s.rest_closed hne s.tail_closed, s.bodyLines_body,
    List.map_singleton, s.readLine]
  simp only [Except.bind, Statement.toSchema, Statement.columns, List.filterMap_cons, Line.column?, List.filterMap_nil,
    List.mapM_cons, List.mapM_nil, ColumnText.toField, s.goType_eq]
  rfl

/-! ## The marks of the column -/

/-- A phrase that a quote bars occurs around a literal or within it. -/
theorem hasPhrase_literal {phrase : List Text} (h : Bars '\'' phrase) (t u v : Text) :
    hasPhrase phrase (t ++ '\'' :: (u ++ '\'' :: v)) =
      (hasPhrase phrase (t ++ '\'' :: '\'' :: v) || hasPhrase phrase u) := by
  have hempty := hasPhrase_stop h [] v
  rw [hasPhrase_nil h, Bool.false_or, List.nil_append] at hempty
  rw [hasPhrase_stop h, hasPhrase_stop h, hasPhrase_stop h, hempty]
  rw [Bool.or_assoc, Bool.or_comm (hasPhrase phrase v)]

theorem any_eq_or {α : Type} {p q r : α → Bool} : ∀ {l : List α}, (∀ a ∈ l, p a = (q a || r a)) →
    l.any p = (l.any q || l.any r)
  | [], _ => rfl
  | a :: l, h => by
    have ih := any_eq_or (fun b hb => h b (List.mem_cons_of_mem a hb))
    rw [List.any_cons, List.any_cons, List.any_cons, h a List.mem_cons_self, ih]
    ac_rfl

/-- Whether generated values are asked for with a content in the literal. -/
theorem isAutoIncrement_columnRest :
    dialect.isAutoIncrement (s.column.type ++ " " ++ s.columnRest x) =
      (dialect.isAutoIncrement (s.column.type ++ " " ++ s.columnRest .empty) ||
        dialect.generatedPhrases.any (hasPhrase · x.text)) := by
  have hbars : ∀ p ∈ dialect.generatedPhrases, Bars '\'' p :=
    bars_generatedPhrases dialect (by decide) (by decide)
  have hserial : ∀ t, startsWithSerial (s.column.type ++ " " ++ t) = startsWithSerial s.column.type := by
    intro t
    rw [startsWithSerial, List.append_assoc]
    show endsWith ((takeWord (s.column.type ++ ' ' :: t)).1.map foldChar) "serial" = _
    rw [takeWord_stop (by decide), startsWithSerial]
  have hany : dialect.generatedPhrases.any (hasPhrase · (s.column.type ++ " " ++ s.columnRest x)) =
      (dialect.generatedPhrases.any (hasPhrase · (s.column.type ++ " " ++ s.columnRest .empty)) ||
        dialect.generatedPhrases.any (hasPhrase · x.text)) := by
    refine any_eq_or fun p hp => ?_
    have h := hasPhrase_literal (hbars p hp) (s.column.type ++ " " ++ s.column.rest) x.text
      (dropEndWhile isBlank s.after)
    rwa [List.append_assoc _ s.column.rest, List.append_assoc _ s.column.rest] at h
  rw [isAutoIncrement_eq, isAutoIncrement_eq, hserial, hserial, hany, Bool.or_assoc]

/-- The marks of the column are those with an empty literal and those that the content spells. -/
theorem marks_field : marks (s.field x) = (marks (s.field .empty)).or (dialect.spelled x.text) := by
  have hphrase : ∀ phrase, Bars '\'' phrase →
      hasPhrase phrase (s.columnRest x) = (hasPhrase phrase (s.columnRest .empty) || hasPhrase phrase x.text) :=
    fun phrase h => hasPhrase_literal h s.column.rest x.text (dropEndWhile isBlank s.after)
  have hkey := hphrase ["primary", "key"] (by decide)
  have hnull := hphrase ["not", "null"] (by decide)
  simp only [marks, Marks.or, spelled, field, ColumnText.fieldOf, s.isAutoIncrement_columnRest x, hkey, hnull,
    Marks.mk.injEq, Bool.not_not, Bool.and_or_distrib_right, true_and]
  refine ⟨?_, ?_⟩ <;> ac_rfl

/-! ## Two contents -/

/-- Two contents leave a mark the same if it is there anyway, or both spell it or neither does. -/
def Agree (m n k : Bool) : Prop := m = true ∨ n = k

theorem agree_iff (m n k : Bool) : (m || n) = (m || k) ↔ Agree m n k := by
  cases m <;> simp [Agree]

/-- With two contents, the statement has one field each, and these are marked alike exactly if the contents agree on
every mark that the column does not have anyway. -/
theorem marks_agree_iff :
    ∃ e f g : Field,
      readSchema dialect (s.text .empty) = .ok { tableName := some s.table, fields := [e] } ∧
      readSchema dialect (s.text x) = .ok { tableName := some s.table, fields := [f] } ∧
      readSchema dialect (s.text y) = .ok { tableName := some s.table, fields := [g] } ∧
      (f.nullable = g.nullable ∧ f.isPrimaryKey = g.isPrimaryKey ∧ f.isAutoIncrement = g.isAutoIncrement ↔
        Agree (marks e).notNull (dialect.spelled x.text).notNull (dialect.spelled y.text).notNull ∧
        Agree (marks e).primaryKey (dialect.spelled x.text).primaryKey (dialect.spelled y.text).primaryKey ∧
        Agree (marks e).autoIncrement (dialect.spelled x.text).autoIncrement
          (dialect.spelled y.text).autoIncrement) := by
  refine ⟨s.field .empty, s.field x, s.field y, s.readSchema_text .empty, s.readSchema_text x, s.readSchema_text y, ?_⟩
  obtain ⟨hauto, hkey, hnull⟩ := Marks.mk.inj (s.marks_field x)
  obtain ⟨hauto', hkey', hnull'⟩ := Marks.mk.inj (s.marks_field y)
  rw [← agree_iff, ← agree_iff, ← agree_iff, ← hauto, ← hkey, ← hnull, ← hauto', ← hkey', ← hnull', Bool.not_inj_iff]

end LiteralColumn

/-- A column with a comment. -/
def stateColumn : LiteralColumn .mysql where
  head := "CREATE TABLE users "
  table := "users"
  rest := " "
  head_eq := by decide
  rest_closed := paren_not_mem_space
  before := "state INT COMMENT "
  after := ""
  tail := ""
  tail_closed := by decide
  opens := by decide
  chunk := by decide
  piece := by decide
  not_constraint := by decide
  column := ⟨"state", "INT", "COMMENT "⟩
  column_eq := by decide
  complete := by decide
  goType := "int64"
  goType_eq := by rfl

/-- A remark about null values. -/
def remark : Content := ⟨"never NOT NULL", by decide, by decide, by decide⟩

/-- A comment makes a column not null. -/
theorem stateColumn_remark :
    stateColumn.text remark = "CREATE TABLE users (state INT COMMENT 'never NOT NULL')" ∧
      ∃ f g : Field,
        readSchema .mysql (stateColumn.text remark) = .ok { tableName := some "users", fields := [f] } ∧
        readSchema .mysql (stateColumn.text .empty) = .ok { tableName := some "users", fields := [g] } ∧
        f.nullable ≠ g.nullable :=
  ⟨by decide, _, _, stateColumn.readSchema_text remark, stateColumn.readSchema_text .empty, by decide⟩

end StructForge.Sql
