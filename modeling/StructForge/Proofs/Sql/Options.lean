import StructForge.Proofs.Nesting
import StructForge.Proofs.Sql.ContinuedLines

/-!
# Table options

The body of a statement reaches up to the last closing parenthesis of the text, so options behind the statement stay
out of it only if they have none. Otherwise the text up to their last parenthesis goes on with the last line of the
body and may add further lines (`bodyLines_append_paren`). The schema stays the same exactly if no added line is a
column and the last line has the field that it had (`OptionedTable.readSchema_text_iff`).
-/

namespace StructForge.Sql

open Text

/-! ## Text behind a body -/

/-- The lines of pieces: trimmed, without blank ones. -/
def linesOf (pieces : List Text) : List Text := (pieces.map trim).filter (!·.isEmpty)

/-- The last chunk of a body. -/
def lastChunk (body : Text) : Text := (splitAtLineEnds body).getLast (splitAtLineEnds_ne_nil body)

/-- The last piece of a body, with which a text behind the body goes on. -/
def lastPiece (body : Text) : Text :=
  (scanPieces Scan.start (lastChunk body)).getLast (scanPieces_ne_nil _ _)

/-- The pieces of a text behind a body up to its first comma at a line end. -/
def spill (body u : Text) : List Text :=
  scanPieces (Scan.start.run (lastChunk body)) ((splitAtLineEnds u).head (splitAtLineEnds_ne_nil u))

/-- The last line of a body with a text behind it. -/
def continuedLine (body u : Text) : Text := trim (lastPiece body ++ (spill body u).head (scanPieces_ne_nil _ _))

/-- The further lines that a text behind a body makes. -/
def addedLines (body u : Text) : List Text :=
  linesOf (spill body u).tail ++ (splitAtLineEnds u).tail.flatMap chunkLines

theorem linesOf_append (ps qs : List Text) : linesOf (ps ++ qs) = linesOf ps ++ linesOf qs := by
  simp [linesOf]

theorem chunkLines_eq (chunk : Text) : chunkLines chunk = linesOf (scanPieces Scan.start chunk) := rfl

theorem linesOf_cons_of_ne {p : Text} (hp : trim p ≠ []) (ps : List Text) :
    linesOf (p :: ps) = trim p :: linesOf ps := by
  rw [linesOf, List.map_cons, List.filter_cons, if_pos (by simpa using hp), linesOf]

/-- The first piece behind a body starts with the parenthesis. -/
theorem exists_spill (body u : Text) : ∃ q qs, spill body (')' :: u) = (')' :: q) :: qs := by
  obtain ⟨r, rs, hr⟩ : ∃ r rs, splitAtLineEnds (')' :: u) = (')' :: r) :: rs := by
    rw [splitAtLineEnds, chunksFrom_zero_cons]
    exact exists_putFirst ')' _
  have hspill : spill body (')' :: u) = scanPieces (Scan.start.run (lastChunk body)) (')' :: r) := by
    simp only [spill, hr, List.head_cons]
  rw [hspill, scanPieces_cons, if_neg (by simp [Scan.separates])]
  exact exists_putFirst ')' _

/-- The last line goes on with the parenthesis. -/
theorem exists_continuedLine (body u : Text) :
    ∃ q, continuedLine body (')' :: u) = trim (lastPiece body ++ ')' :: q) := by
  obtain ⟨q, qs, hq⟩ := exists_spill body u
  exact ⟨q, by simp only [continuedLine, hq, List.head_cons]⟩

/-- What stands behind a body goes on with its last line, and all the lines before that stay. -/
theorem bodyLines_append_paren (body u : Text) :
    ∃ front, bodyLines body = front ++ linesOf [lastPiece body] ∧
      bodyLines (body ++ ')' :: u) = front ++ continuedLine body (')' :: u) :: addedLines body (')' :: u) := by
  have hbody := splitAtLineEnds_ne_nil body
  have hu := splitAtLineEnds_ne_nil (')' :: u)
  have hpieces := scanPieces_ne_nil Scan.start (lastChunk body)
  have hspill : spill body (')' :: u) ≠ [] := scanPieces_ne_nil _ _
  refine ⟨(splitAtLineEnds body).dropLast.flatMap chunkLines ++
    linesOf (scanPieces Scan.start (lastChunk body)).dropLast, ?_, ?_⟩
  · have hlast := congrArg linesOf (List.dropLast_concat_getLast hpieces)
    have hchunks := congrArg (List.flatMap chunkLines) (List.dropLast_concat_getLast hbody)
    rw [linesOf_append] at hlast
    rw [List.flatMap_append, List.flatMap_singleton] at hchunks
    rw [bodyLines_eq, ← hchunks, List.append_assoc]
    exact congrArg _ hlast.symm
  · -- the last chunk goes on with the first chunk of the further text, and its last piece with the first piece of that
    have hchunk : chunkLines (lastChunk body ++ (splitAtLineEnds (')' :: u)).head hu) =
        linesOf (scanPieces Scan.start (lastChunk body)).dropLast ++
          continuedLine body (')' :: u) :: linesOf (spill body (')' :: u)).tail := by
      rw [chunkLines_eq, scanPieces_append]
      show linesOf (glue _ (spill body (')' :: u))) = _
      rw [glue_getLast_head hpieces hspill, linesOf_append]
      obtain ⟨q, hq⟩ := exists_continuedLine body u
      have hne : trim (lastPiece body ++ (spill body (')' :: u)).head hspill) ≠ [] := by
        show continuedLine body (')' :: u) ≠ []
        rw [hq, trim_continued]
        simp
      exact congrArg _ (linesOf_cons_of_ne hne _)
    rw [bodyLines_eq, splitAtLineEnds_append (by decide), glue_getLast_head hbody hu, List.flatMap_append,
      List.flatMap_cons]
    show _ ++ (chunkLines (lastChunk body ++ _) ++ _) = _
    rw [hchunk, addedLines]
    simp

/-! ## Columns of lines -/

/-- The columns among the lines of a body. -/
def columnsOf (dialect : Sql) (lines : List Text) : List ColumnText :=
  lines.filterMap fun line => (Line.read dialect line).column?

theorem columnsOf_append (dialect : Sql) (ls ms : List Text) :
    columnsOf dialect (ls ++ ms) = columnsOf dialect ls ++ columnsOf dialect ms := List.filterMap_append

/-- The field that a line becomes, if it is a column. -/
def lineField? (dialect : Sql) (line : Text) : Option (Except TooDeep Field) :=
  (Line.read dialect line).column?.map (ColumnText.toField dialect)

/-- The schema of a table with some fields. -/
def schemaOf (table : Text) (fields : Except TooDeep (List Field)) : Except StatementError Schema :=
  (fields.map fun fields => ({ tableName := some table, fields } : Schema)).mapError fun _ => .typeTooDeep

@[simp]
theorem schemaOf_ok (table : Text) (fields : List Field) :
    schemaOf table (.ok fields) = .ok { tableName := some table, fields } := rfl

@[simp]
theorem schemaOf_error (table : Text) : schemaOf table (.error .tooDeep) = .error .typeTooDeep := rfl

theorem schemaOf_inj {table : Text} {r r' : Except TooDeep (List Field)} :
    schemaOf table r = schemaOf table r' ↔ r = r' := by
  rcases r with ⟨⟨⟩⟩ | fields <;> rcases r' with ⟨⟨⟩⟩ | fields' <;> simp

theorem schemaOf_tooDeep_iff {table : Text} {r : Except TooDeep (List Field)} :
    schemaOf table r = .error .typeTooDeep ↔ r = .error .tooDeep := by
  rcases r with ⟨⟨⟩⟩ | fields <;> simp

/-- The schema of a statement that is put together from its parts. -/
theorem readSchema_of_parts {dialect : Sql} {head name rest body tail : Text}
    (hhead : dialect.findHead? head = some (name, rest)) (hrest : '(' ∉ rest) (hbody : body ≠ []) (htail : ')' ∉ tail) :
    readSchema dialect (head ++ '(' :: (body ++ ')' :: tail)) =
      schemaOf name ((columnsOf dialect (bodyLines body)).mapM (ColumnText.toField dialect)) := by
  rw [readSchema, Statement.read_of_parts hhead hrest hbody htail]
  simp only [Except.bind, Statement.toSchema, Statement.columns, List.filterMap_map]
  rfl

/-- The last line of a body has at most one column, and a blank one has none. -/
theorem columnsOf_linesOf (dialect : Sql) (p : Text) :
    columnsOf dialect (linesOf [p]) = (Line.read dialect (trim p)).column?.toList := by
  by_cases hp : trim p = []
  · have hnil : dialect.readColumn? [] = none := by rw [readColumn?_eq]; cases dialect <;> rfl
    rw [hp, column?_read, hnil, ite_self]
    simp [linesOf, hp, columnsOf]
  · rw [linesOf_cons_of_ne hp, columnsOf]
    cases h : (Line.read dialect (trim p)).column? <;> simp [linesOf, h]

/-! ## Fields -/

section Fields

variable {α β : Type} {f : α → Except TooDeep β}

/-- Something more at the end leaves the results the same if it is nothing, and what was last has the same result; or
there was a failure. What was last stays a failure. -/
theorem mapM_continued_iff (as es : List α) {a? b? : Option α} (hsome : b?.isSome = a?.isSome)
    (hdeep : ∀ a, a? = some a → f a = .error .tooDeep → ∃ b, b? = some b ∧ f b = .error .tooDeep) :
    (as ++ (b?.toList ++ es)).mapM f = (as ++ a?.toList).mapM f ↔
      (as ++ a?.toList).mapM f = .error .tooDeep ∨ es = [] ∧ b?.map f = a?.map f := by
  have happend : ∀ bs, (as ++ bs).mapM f = as.mapM f >>= fun xs => bs.mapM f >>= fun ys => pure (xs ++ ys) :=
    fun _ => List.mapM_append
  rw [happend, happend]
  rcases as.mapM f with ⟨⟨⟩⟩ | xs
  · exact ⟨fun _ => .inl rfl, fun _ => rfl⟩
  · match a?, b?, hsome with
    | none, none, _ =>
      rcases he : es.mapM f with ⟨⟨⟩⟩ | cs
      · have hne : es ≠ [] := by
          rintro rfl
          cases he
        simp [he, hne, bind, Except.bind, pure, Except.pure]
      · simp [he, ← mapM_eq_ok_nil_iff he, bind, Except.bind, pure, Except.pure]
    | some a, some b, _ =>
      rw [Option.toList_some, Option.toList_some, List.singleton_append, List.mapM_cons, List.mapM_cons, List.mapM_nil]
      rcases ha : f a with ⟨⟨⟩⟩ | x
      · obtain ⟨b', hb, hfail⟩ := hdeep a rfl ha
        cases hb
        rw [hfail]
        exact ⟨fun _ => .inl rfl, fun _ => rfl⟩
      · rcases hb : f b with ⟨⟨⟩⟩ | y
        · simp [bind, Except.bind, pure, Except.pure, ha, hb]
        · rcases he : es.mapM f with ⟨⟨⟩⟩ | cs
          · have hne : es ≠ [] := by
              rintro rfl
              cases he
            simp [bind, Except.bind, pure, Except.pure, hne]
          · simp [bind, Except.bind, pure, Except.pure, ha, hb, ← mapM_eq_ok_nil_iff he, and_comm]

end Fields

/-- The field of a column has the name and the type of the column. -/
theorem exists_goType_of_toField {dialect : Sql} {c : ColumnText} {f : Field} (h : c.toField dialect = .ok f) :
    ∃ goType, dialect.goType c.type = .ok goType ∧ f = c.fieldOf dialect goType := by
  rw [ColumnText.toField] at h
  cases htype : dialect.goType c.type with
  | error e =>
    rw [htype] at h
    cases h
  | ok goType =>
    rw [htype] at h
    cases h
    exact ⟨goType, rfl, rfl⟩

/-! ## The last parenthesis -/

/-- What stands in front of the last closing parenthesis of a text, if there is one. -/
def beforeLastParen? (t : Text) : Option Text :=
  match dropEndWhile (· ≠ ')') t with
  | [] => none
  | c :: t => some (c :: t).dropLast

theorem beforeLastParen?_of_not_mem {t : Text} (h : ')' ∉ t) : beforeLastParen? t = none := by
  rw [beforeLastParen?, dropEndWhile_eq_nil (ne_of_not_mem h)]

theorem beforeLastParen?_append {tail : Text} (h : ')' ∉ tail) (t : Text) :
    beforeLastParen? (t ++ ')' :: tail) = some t := by
  rw [beforeLastParen?, dropEndWhile_ne_append h]
  cases t with
  | nil => rfl
  | cons c t =>
    show some ((c :: t) ++ [')']).dropLast = _
    rw [List.dropLast_concat]

/-- A text with a closing parenthesis is cut at its last one. -/
theorem exists_last_paren {t : Text} (h : ')' ∈ t) : ∃ u tail, t = u ++ ')' :: tail ∧ ')' ∉ tail := by
  obtain ⟨tail, u, ht, htail⟩ := List.eq_append_cons_of_mem (List.mem_reverse.mpr h)
  refine ⟨u.reverse, tail.reverse, ?_, by simpa using htail⟩
  rw [← List.reverse_reverse t, ht]
  simp

/-! ## Statements with options -/

/-- A statement with options behind the parenthesis that closes its body. -/
structure OptionedTable (dialect : Sql) where
  head : Text
  table : Text
  rest : Text
  head_eq : dialect.findHead? head = some (table, rest)
  rest_closed : '(' ∉ rest
  body : Text
  body_ne_nil : body ≠ []
  options : Text

namespace OptionedTable

variable {dialect : Sql} (s : OptionedTable dialect)

/-- The statement without its options. -/
def plain : Text := s.head ++ '(' :: (s.body ++ [')'])

/-- The statement with its options. -/
def text : Text := s.plain ++ s.options

/-- The part of the options that is read as part of the body, with the parenthesis in front of it. -/
def spilled? : Option Text := (beforeLastParen? s.options).map (')' :: ·)

theorem readSchema_plain :
    readSchema dialect s.plain =
      schemaOf s.table ((columnsOf dialect (bodyLines s.body)).mapM (ColumnText.toField dialect)) :=
  readSchema_of_parts s.head_eq s.rest_closed s.body_ne_nil List.not_mem_nil

/-- Options without a closing parenthesis stay out of the body. -/
theorem readSchema_text_of_not_mem (h : ')' ∉ s.options) : readSchema dialect s.text = readSchema dialect s.plain := by
  have htext : s.text = s.head ++ '(' :: (s.body ++ ')' :: s.options) := by simp [text, plain]
  rw [htext, readSchema_of_parts s.head_eq s.rest_closed s.body_ne_nil h, readSchema_plain]

/-- Other options are part of the body up to their last closing parenthesis. -/
theorem readSchema_text_of_eq {u tail : Text} (h : s.options = u ++ ')' :: tail) (htail : ')' ∉ tail) :
    readSchema dialect s.text =
      schemaOf s.table ((columnsOf dialect (bodyLines (s.body ++ ')' :: u))).mapM (ColumnText.toField dialect)) := by
  have htext : s.text = s.head ++ '(' :: ((s.body ++ ')' :: u) ++ ')' :: tail) := by simp [text, plain, h]
  rw [htext, readSchema_of_parts s.head_eq s.rest_closed (by simp) htail]

/-- The options leave the schema as it is exactly if a type of the statement is nested too deep anyway, or what is read
of them as part of the body adds no column and leaves the field of the last line as it is. -/
theorem readSchema_text_iff :
    readSchema dialect s.text = readSchema dialect s.plain ↔
      readSchema dialect s.plain = .error .typeTooDeep ∨
        ∀ u, s.spilled? = some u →
          (∀ line ∈ addedLines s.body u, (Line.read dialect line).column? = none) ∧
            lineField? dialect (continuedLine s.body u) = lineField? dialect (trim (lastPiece s.body)) := by
  by_cases h : ')' ∈ s.options
  · obtain ⟨u, tail, hu, htail⟩ := exists_last_paren h
    obtain ⟨front, hplain, htext⟩ := bodyLines_append_paren s.body u
    obtain ⟨q, hq⟩ := exists_continuedLine s.body u
    have hspilled : s.spilled? = some (')' :: u) := by rw [spilled?, hu, beforeLastParen?_append htail, Option.map_some]
    have hadded : columnsOf dialect (addedLines s.body (')' :: u)) = [] ↔
        ∀ line ∈ addedLines s.body (')' :: u), (Line.read dialect line).column? = none := List.filterMap_eq_nil_iff
    have hcolumns : columnsOf dialect (continuedLine s.body (')' :: u) :: addedLines s.body (')' :: u)) =
        (Line.read dialect (continuedLine s.body (')' :: u))).column?.toList ++
          columnsOf dialect (addedLines s.body (')' :: u)) := by
      rw [columnsOf, List.filterMap_cons]
      cases (Line.read dialect (continuedLine s.body (')' :: u))).column? <;> rfl
    have hiff := mapM_continued_iff (f := ColumnText.toField dialect) (columnsOf dialect front)
      (columnsOf dialect (addedLines s.body (')' :: u))) (hq ▸ isSome_column?_continued dialect (lastPiece s.body) q)
      (fun a ha hdeep => hq ▸ column?_continued_tooDeep dialect (lastPiece s.body) q ha hdeep)
    rw [readSchema_plain, s.readSchema_text_of_eq hu htail, schemaOf_inj, schemaOf_tooDeep_iff, hspilled, hplain, htext]
    rw [columnsOf_append, columnsOf_append, columnsOf_linesOf, hcolumns, hiff, hadded]
    simp [lineField?]
  · rw [s.readSchema_text_of_not_mem h, spilled?, beforeLastParen?_of_not_mem h]
    simp

end OptionedTable

/-- A text that closes its quotes and closes as many parentheses as it opens, and nowhere more. -/
def Balanced (t : Text) : Prop :=
  Scan.start.run t = Scan.start ∧ ∀ n ≤ t.length, 0 ≤ (Scan.start.run (t.take n)).depth

instance (t : Text) : Decidable (Balanced t) := inferInstanceAs (Decidable (_ ∧ _))

/-- A table with two options, of which the last one has a parenthesis. -/
def usersTable : OptionedTable .mysql where
  head := "CREATE TABLE t "
  table := "t"
  rest := " "
  head_eq := by decide
  rest_closed := paren_not_mem_space
  body := "id INT, name TEXT"
  body_ne_nil := by decide
  options := " AUTO_INCREMENT=5 COMMENT='users (all)'"

/-- The options make the last column a generated primary key. -/
theorem usersTable_keys :
    usersTable.plain = "CREATE TABLE t (id INT, name TEXT)" ∧ Balanced usersTable.body ∧
      Balanced usersTable.options ∧
      (readSchema .mysql usersTable.plain).toOption.map (·.fields.map (·.isPrimaryKey)) = some [false, false] ∧
      (readSchema .mysql usersTable.text).toOption.map (·.fields.map (·.isPrimaryKey)) = some [false, true] :=
  ⟨by decide, by decide, by decide, by decide, by decide⟩

end StructForge.Sql
