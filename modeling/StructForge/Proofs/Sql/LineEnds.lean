import StructForge.Proofs.Sql.ColumnReading
import StructForge.Proofs.Sql.Comments
import StructForge.Proofs.Sql.LineEndCuts
import StructForge.Proofs.Sql.NormalForms
import StructForge.Proofs.Sql.TypeEnds

/-!
# Line ends do not matter

A statement whose lines end with a carriage return and a newline is read like the one whose lines end with a newline
(`readSchema_withReturns`): with the same error, or with the same table and the same fields. Only the types are given as
they are written, with the carriage returns in them.

Every reader of a column takes the same characters and leaves its carriage returns in the rest
(`readColumn?_withReturns`). What a column becomes does not show them: types are looked up in normal form
(`normalType_withReturns`), and comments and phrases are words.
-/

namespace StructForge.Sql

open Text

/-! ## Types -/

theorem skipParameters_withReturns (t : Text) : skipParameters (withReturns t) = withReturns (skipParameters t) := by
  have hother : ∀ {c : Char} (u : Text), c ≠ '(' → skipParameters (c :: u) = c :: u := by
    intro c u hc
    simp [skipParameters, hc]
  cases t with
  | nil => rfl
  | cons c t =>
    by_cases hopen : c = '('
    · rw [hopen, withReturns_cons (by decide), skipParameters, skipParameters, dropWhile_withReturns (by decide)]
      cases hdrop : t.dropWhile (· ≠ ')') with
      | nil => exact (withReturns_cons (by decide) t).symm
      | cons d rest => simp only [withReturns_cons (ne_of_dropWhile hdrop (by decide))]
    · rw [hother t hopen]
      by_cases hc : c = '\n'
      · rw [hc, withReturns_newline, hother _ (by decide)]
      · rw [withReturns_cons hc, hother _ hopen]

/-- Words behind blanks that are skipped if they are there. -/
theorem getD_withReturns {read : Text → Option Text} (hread : ∀ t, read (withReturns t) = (read t).map withReturns)
    (t : Text) :
    ((afterBlanks? (withReturns t)).bind read).getD (withReturns t) =
      withReturns (((afterBlanks? t).bind read).getD t) := by
  rw [afterBlanks?_bind_withReturns hread]
  cases (afterBlanks? t).bind read <;> rfl

theorem skipSecondWord_withReturns (t : Text) : skipSecondWord (withReturns t) = withReturns (skipSecondWord t) := by
  rw [skipSecondWord_eq, skipSecondWord_eq]
  refine getD_withReturns (fun r => ?_) t
  rw [afterKeyword?_withReturns (by decide), afterKeyword?_withReturns (by decide)]
  cases afterKeyword? "precision" r <;> rfl

theorem skipTimeZone_withReturns (t : Text) : skipTimeZone (withReturns t) = withReturns (skipTimeZone t) := by
  rw [skipTimeZone_eq, skipTimeZone_eq]
  refine getD_withReturns (fun r => ?_) t
  rw [afterPhrase?_withReturns (by decide), afterPhrase?_withReturns (by decide)]
  cases afterPhrase? ["without", "time", "zone"] r <;> rfl

theorem afterArraySuffix?_withReturns (t : Text) :
    afterArraySuffix? (withReturns t) = (afterArraySuffix? t).map withReturns := by
  have hother : ∀ {c : Char} (u : Text), c ≠ '[' → afterArraySuffix? (c :: u) = none := by
    intro c u hc
    simp [afterArraySuffix?, hc]
  cases t with
  | nil => rfl
  | cons c t =>
    by_cases hopen : c = '['
    · rw [hopen, withReturns_cons (by decide), afterArraySuffix?, afterArraySuffix?, dropWhile_withReturns (by decide)]
      rcases t.dropWhile isDecimal with _ | ⟨d, rest⟩
      · rfl
      · by_cases hd : d = '\n'
        · rw [hd]
          rfl
        · by_cases hclose : d = ']'
          · rw [hclose, withReturns_cons (by decide)]
            rfl
          · simp [withReturns_cons hd, hclose]
    · rw [hother t hopen]
      by_cases hc : c = '\n'
      · rw [hc, withReturns_newline, hother _ (by decide)]
        rfl
      · rw [withReturns_cons hc, hother _ hopen]
        rfl

/-- The longer text has room for as many array suffixes. -/
theorem skipArraySuffixes_withReturns : ∀ (n m : Nat) (t : Text), t.length ≤ n → t.length ≤ m →
    skipArraySuffixes n (withReturns t) = withReturns (skipArraySuffixes m t)
  | 0, m, [], _, _ => by
    cases m <;> rfl
  | n + 1, m, t, hn, hm => by
    rw [skipArraySuffixes, afterArraySuffix?_withReturns]
    cases h : afterArraySuffix? t with
    | none => cases m <;> simp [skipArraySuffixes, h]
    | some r =>
      have hlength := length_afterArraySuffix? h
      obtain ⟨m, rfl⟩ : ∃ k, m = k + 1 := ⟨m - 1, by omega⟩
      rw [skipArraySuffixes, h]
      exact skipArraySuffixes_withReturns n m r (by omega) (by omega)

theorem skipTypeTail_withReturns (dialect : Sql) (t : Text) :
    dialect.skipTypeTail (withReturns t) = withReturns (dialect.skipTypeTail t) := by
  cases dialect with
  | mysql | sqlite => exact skipParameters_withReturns t
  | postgresql =>
    simp only [skipTypeTail, skipSecondWord_withReturns, skipParameters_withReturns, skipTimeZone_withReturns]
    exact skipArraySuffixes_withReturns _ _ _ (length_le_withReturns _) (Nat.le_refl _)

theorem consumed_append (front rest : Text) : consumed (front ++ rest) rest = front := by
  simp [consumed]

theorem readTypeText?_withReturns (dialect : Sql) (t : Text) :
    dialect.readTypeText? (withReturns t) =
      (dialect.readTypeText? t).map fun x => (withReturns x.1, withReturns x.2) := by
  have happend := takeWord_append t
  rw [readTypeText?, takeWord_withReturns, readTypeText?]
  rcases hword : takeWord t with ⟨_ | ⟨c, word⟩, rest⟩
  · rfl
  · rw [hword] at happend
    obtain ⟨front, hfront⟩ : ∃ front, rest = front ++ dialect.skipTypeTail rest := by
      rcases leavesInk_skipTypeTail dialect rest with heq | ⟨front, -, heq⟩
      · exact ⟨[], heq.symm⟩
      · exact ⟨front, heq⟩
    have htext : t = (c :: word ++ front) ++ dialect.skipTypeTail rest := by
      rw [← happend, List.append_assoc, ← hfront]
    simp only [Option.map_some, skipTypeTail_withReturns]
    rw [htext, withReturns_append, consumed_append, consumed_append]

/-! ## Columns -/

/-- A column with carriage returns in front of the newlines behind its name. -/
def ColumnText.returned (c : ColumnText) : ColumnText :=
  { c with type := withReturns c.type, rest := withReturns c.rest }

theorem readColumn?_withReturns (dialect : Sql) (line : Text) :
    dialect.readColumn? (withReturns line) = (dialect.readColumn? line).map ColumnText.returned := by
  rw [readColumn?_eq, readColumn?_eq, readName?_withReturns]
  cases dialect.readName? line with
  | none => rfl
  | some x =>
    simp only [Option.map_some, Option.bind_some, withReturnsBehind]
    rw [afterBlanks?_bind_withReturns (readTypeText?_withReturns dialect)]
    cases (afterBlanks? x.2).bind dialect.readTypeText? with
    | none => rfl
    | some y =>
      simp only [Option.map_some, dropWhile_withReturns (p := isBlank) (by decide)]
      rfl

theorem isConstraint_withReturns (dialect : Sql) (line : Text) :
    dialect.isConstraint (withReturns line) = dialect.isConstraint line := by
  refine isConstraint_congr fun phrase hphrase => ?_
  rw [afterWholePhrase?_withReturns (constraintPhrases_spec dialect phrase hphrase).2, Option.isSome_map]

/-- A line of a body with carriage returns in front of its newlines. -/
def Line.returned : Line → Line
  | .column c => .column c.returned
  | .tableConstraint text => .tableConstraint (withReturns text)
  | .other text => .other (withReturns text)

theorem Line.read_withReturns (dialect : Sql) (line : Text) :
    Line.read dialect (withReturns line) = (Line.read dialect line).returned := by
  rw [Line.read, isConstraint_withReturns, readColumn?_withReturns, Line.read]
  split
  · rfl
  · cases dialect.readColumn? line <;> rfl

theorem Line.column?_returned (line : Line) : line.returned.column? = line.column?.map ColumnText.returned := by
  cases line <;> rfl

/-! ## Normal forms of types -/

theorem collapseBlanks_withReturns : ∀ t : Text, collapseBlanks (withReturns t) = collapseBlanks t
  | [] => rfl
  | [c] => by
    by_cases hc : c = '\n'
    · rw [hc]
      rfl
    · rw [withReturns_cons hc]
      rfl
  | c :: next :: t => by
    have ih := collapseBlanks_withReturns (next :: t)
    -- whether blanks go on is seen in the first character behind them
    obtain ⟨d, u, hd, hblank⟩ : ∃ d u, withReturns (next :: t) = d :: u ∧ isBlank d = isBlank next := by
      by_cases hnext : next = '\n'
      · exact ⟨'\r', '\n' :: withReturns t, by rw [hnext, withReturns_newline], by rw [hnext]; rfl⟩
      · exact ⟨next, withReturns t, withReturns_cons hnext t, rfl⟩
    rw [hd] at ih
    by_cases hc : c = '\n'
    · rw [hc, withReturns_newline, hd, collapseBlanks_cons_cons, collapseBlanks_cons_cons, ih, hblank,
        collapseBlanks_cons_cons]
      rfl
    · rw [withReturns_cons hc, hd, collapseBlanks_cons_cons, ih, hblank, collapseBlanks_cons_cons]

theorem normalType_withReturns (type : Text) : normalType (withReturns type) = normalType type := by
  rw [normalType, trim_withReturns, upper_withReturns, collapseBlanks_withReturns, normalType]

theorem goType_withReturns (dialect : Sql) (type : Text) : dialect.goType (withReturns type) = dialect.goType type := by
  have hsame : ∀ type' : Text, normalType type' = normalType type → dialect.goType type' = dialect.goType type := by
    intro type' hnormal
    rw [goType, goType, readType, readType, hnormal]
    split
    · rcases peelArrays (normalType type).length (normalType type) with ⟨_ | depth, element⟩ <;> rfl
    · rfl
  exact hsame _ (normalType_withReturns type)

/-! ## Comments -/

/-- A literal ends at the same quote. -/
theorem upToQuote?_withReturns {quote : Char} (hquote : isBlank quote = false) (t : Text) : ∀ before : Char,
    upToQuote? quote before (withReturns t) = (upToQuote? quote before t).map withReturns := by
  have hr : '\r' ≠ quote := ne_of_isBlank (by decide) hquote
  have hn : '\n' ≠ quote := ne_of_isBlank (by decide) hquote
  induction t with
  | nil => exact fun _ => rfl
  | cons c t ih =>
    intro before
    by_cases hc : c = '\n'
    · rw [hc, withReturns_newline]
      simp only [upToQuote?, hr, hn, ih, decide_false, Bool.false_and, Bool.false_eq_true, if_false]
      cases upToQuote? quote '\n' t <;> rfl
    · rw [withReturns_cons hc, upToQuote?, upToQuote?, ih]
      split
      · rfl
      · cases upToQuote? quote c t with
        | none => rfl
        | some content => simp only [Option.map_some, withReturns_cons hc]

theorem readComment?_withReturns (afterWord : Bool) (t : Text) :
    readComment? afterWord (withReturns t) = (readComment? afterWord t).map withReturns := by
  cases afterWord with
  | true => rfl
  | false =>
    have hbehind : (afterKeyword? "comment" (withReturns t)).bind afterBlanks? =
        ((afterKeyword? "comment" t).bind afterBlanks?).map withReturns := by
      rw [afterKeyword?_withReturns (by decide)]
      cases afterKeyword? "comment" t with
      | none => rfl
      | some r => exact afterBlanks?_withReturns r
    simp only [readComment?, hbehind, Bool.false_eq_true, if_false]
    rcases (afterKeyword? "comment" t).bind afterBlanks? with _ | _ | ⟨quote, content⟩
    · rfl
    · rfl
    · by_cases hquote : quote = '\'' ∨ quote = '"'
      · have hink := isBlank_quote hquote
        have hne : quote ≠ '\n' := (ne_of_isBlank (c := '\n') (by decide) hink).symm
        simp only [Option.map_some, withReturns_cons hne, upToQuote?_withReturns hink]
        split <;> rfl
      · by_cases hne : quote = '\n'
        · rw [hne]
          rfl
        · simp only [Option.map_some, withReturns_cons hne]
          simp [hquote]

theorem comment_withReturns (dialect : Sql) (column rest : Text) :
    dialect.comment column (withReturns rest) = dialect.comment column rest := by
  cases dialect with
  | postgresql | sqlite => rfl
  | mysql =>
    have hsearch := search_withReturns readComment?_withReturns
      (fun b t => readComment?_of_not_keyword (c := '\n') (by decide) b t) false rest
    have hwords : ((search readComment? false rest).map withReturns).map words =
        (search readComment? false rest).map words := by
      rw [Option.map_map]
      exact congrArg (Option.map · _) (funext words_withReturns)
    simp only [comment, hsearch, hwords]

/-! ## Fields -/

theorem isAutoIncrement_withReturns (dialect : Sql) (t : Text) :
    dialect.isAutoIncrement (withReturns t) = dialect.isAutoIncrement t := by
  have hphrase : ∀ p ∈ dialect.generatedPhrases, hasPhrase p (withReturns t) = hasPhrase p t := fun p hp =>
    hasPhrase_withReturns (isPhrase_generatedPhrases dialect p hp) (generatedPhrases_spec dialect p hp).1 t
  have hserial : startsWithSerial (withReturns t) = startsWithSerial t := by
    rw [startsWithSerial, takeWord_withReturns, startsWithSerial]
  have hany : dialect.generatedPhrases.any (hasPhrase · (withReturns t)) =
      dialect.generatedPhrases.any (hasPhrase · t) := by
    rw [Bool.eq_iff_iff, List.any_eq_true, List.any_eq_true]
    exact exists_congr fun p => and_congr_right fun hp => by rw [hphrase p hp]
  rw [isAutoIncrement_eq, isAutoIncrement_eq, hserial, hany]

/-- A field with its type as it is written in lines with carriage returns. -/
def returnedType (f : Field) : Field := { f with sourceType := withReturns f.sourceType }

theorem ColumnText.fieldOf_returned (dialect : Sql) (c : ColumnText) (goType : Text) :
    c.returned.fieldOf dialect goType = returnedType (c.fieldOf dialect goType) := by
  have hdefinition : withReturns c.type ++ " " ++ withReturns c.rest = withReturns (c.type ++ " " ++ c.rest) := by
    rw [withReturns_append, withReturns_append]
    rfl
  have hkey := hasPhrase_withReturns (show IsPhrase ["primary", "key"] by decide) (by decide) c.rest
  have hnull := hasPhrase_withReturns (show IsPhrase ["not", "null"] by decide) (by decide) c.rest
  simp only [fieldOf, returned, returnedType, hdefinition, isAutoIncrement_withReturns, hkey, hnull, comment_withReturns]

theorem ColumnText.toField_returned (dialect : Sql) (c : ColumnText) :
    c.returned.toField dialect = (c.toField dialect).map returnedType := by
  have htype : dialect.goType c.returned.type = dialect.goType c.type := goType_withReturns dialect c.type
  rw [toField, htype, toField]
  cases dialect.goType c.type with
  | error e => rfl
  | ok goType => exact congrArg Except.ok (c.fieldOf_returned dialect goType)

theorem mapM_toField_returned (dialect : Sql) : ∀ columns : List ColumnText,
    (columns.map ColumnText.returned).mapM (ColumnText.toField dialect) =
      (columns.mapM (ColumnText.toField dialect)).map (List.map returnedType)
  | [] => rfl
  | c :: columns => by
    rw [List.map_cons, List.mapM_cons, List.mapM_cons, c.toField_returned, mapM_toField_returned dialect columns]
    cases c.toField dialect with
    | error e => rfl
    | ok f => cases columns.mapM (ColumnText.toField dialect) <;> rfl

/-! ## Statements -/

/-- A statement with carriage returns in front of the newlines of its lines. -/
def Statement.returned (s : Statement) : Statement := { s with lines := s.lines.map Line.returned }

theorem Statement.read_withReturns (dialect : Sql) (t : Text) :
    Statement.read dialect (withReturns t) = (Statement.read dialect t).map Statement.returned := by
  have hlines : ∀ lines : List Text, (lines.map withReturns).map (Line.read dialect) =
      (lines.map (Line.read dialect)).map Line.returned := by
    intro lines
    rw [List.map_map, List.map_map]
    exact List.map_congr_left fun line _ => Line.read_withReturns dialect line
  rw [Statement.read, findHead?_withReturns, Statement.read]
  cases dialect.findHead? t with
  | none => rfl
  | some head =>
    simp only [Option.map_some, withReturnsBehind, body?_withReturns]
    cases body? head.2 with
    | none => rfl
    | some body =>
      simp only [Option.map_some, bodyLines_withReturns, hlines]
      rfl

theorem Statement.columns_returned (s : Statement) : s.returned.columns = s.columns.map ColumnText.returned := by
  rw [columns, returned, List.filterMap_map, columns, List.map_filterMap]
  exact congrArg (List.filterMap · _) (funext Line.column?_returned)

/-- A schema with its types as they are written in lines with carriage returns. -/
def returnedTypes (schema : Schema) : Schema := { schema with fields := schema.fields.map returnedType }

/-- A carriage return in front of every newline of a text shows in the types of the fields, and in nothing else that is
read. -/
theorem readSchema_withReturns (dialect : Sql) (t : Text) :
    readSchema dialect (withReturns t) = (readSchema dialect t).map returnedTypes := by
  rw [readSchema, Statement.read_withReturns, readSchema]
  cases Statement.read dialect t with
  | error e => rfl
  | ok s =>
    show (s.returned.toSchema dialect).mapError _ = ((s.toSchema dialect).mapError _).map returnedTypes
    rw [Statement.toSchema, Statement.columns_returned, mapM_toField_returned, Statement.toSchema]
    cases s.columns.mapM (ColumnText.toField dialect) <;> rfl

end StructForge.Sql
