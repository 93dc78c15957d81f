import StructForge.Proofs.Sql.ColumnStops
import StructForge.Proofs.Sql.TypeTable

/-!
# Declarations

The body of a statement as data: columns and table constraints, each with the text it is written as. Column
declarations consist of a quoted name, a type of the type table, and clauses; what is written in front of each keyword
is part of the declaration, so that it stands for one text. `ColumnDecl.field` is the field that a column asks for.

Every declaration is a piece of its body (`Element.piece`): the commas in it separate nothing.
-/

namespace StructForge.Sql

open Text

/-! ## Names and white space -/

/-- A name: at least one word character, and nothing else. -/
structure Name where
  text : Text
  nonempty : text ≠ []
  word : ∀ c ∈ text, isWordChar c = true

/-- White space, perhaps none. -/
structure Blanks where
  text : Text
  blank : ∀ c ∈ text, isBlank c = true

/-- White space that keeps two words apart. -/
structure Gap extends Blanks where
  nonempty : text ≠ []

/-- The quotes that a dialect has for names, in pairs. -/
def quotePairs : Sql → List (Char × Char)
  | .mysql => [('\x60', '\x60')]
  | .postgresql => [('"', '"')]
  | .sqlite => [('\x60', '\x60'), ('\'', '\''), ('"', '"'), ('[', ']')]

theorem backticks_mem : ('\x60', '\x60') ∈ quotePairs .mysql := by decide

theorem doubleQuotes_mem : ('"', '"') ∈ quotePairs .postgresql := by decide

/-! ## Columns -/

/-- The phrases that ask for generated values. -/
def generatedPhrases : Sql → List (List Text)
  | .mysql => [["auto_increment"]]
  | .sqlite => [["autoincrement"]]
  | .postgresql =>
    [["generated", "always", "as", "identity"], ["generated", "by", "default", "as", "identity"]]

/-- What may stand behind the type of a column. -/
inductive Clause (dialect : Sql) where
  | notNull
  | primaryKey
  | generated (phrase : { p : List Text // p ∈ dialect.generatedPhrases })
  deriving DecidableEq

/-- The keywords of a clause, in small letters. -/
def Clause.words {dialect : Sql} : Clause dialect → List Text
  | .notNull => ["not", "null"]
  | .primaryKey => ["primary", "key"]
  | .generated phrase => phrase.1

/-- Whether the clause asks for generated values. -/
def Clause.isGenerated {dialect : Sql} : Clause dialect → Bool
  | .generated _ => true
  | .notNull | .primaryKey => false

/-- A keyword as it is written, with the white space in front of it. -/
structure Keyword where
  gap : Gap
  text : Text

/-- The text of a keyword. -/
def Keyword.written (k : Keyword) : Text := k.gap.text ++ k.text

/-- A column: a quoted name, a type, and clauses, whose keywords may be spelled in any case. -/
structure ColumnDecl (dialect : Sql) where
  name : Name
  quotes : Char × Char
  quotes_mem : quotes ∈ dialect.quotePairs
  gap : Gap
  word : Text
  word_mem : word ∈ dialect.typeWords
  parameters : Text
  parameters_ok : IsParameters parameters
  clauses : List (Clause dialect)
  keywords : List Keyword
  spelling : foldWords (keywords.map (·.text)) = clauses.flatMap Clause.words

namespace ColumnDecl

variable {dialect : Sql} (d : ColumnDecl dialect)

/-- The name in its quotes. -/
def quotedName : Text := d.quotes.1 :: (d.name.text ++ [d.quotes.2])

/-- The type with its parameters. -/
def type : Text := d.word ++ d.parameters

/-- The clauses, with the white space in front of them. -/
def clauseText : Text := d.keywords.flatMap Keyword.written

/-- The text of the column. -/
def text : Text := d.quotedName ++ (d.gap.text ++ (d.type ++ d.clauseText))

/-- The words of PostgreSQL's types for generated numbers. -/
def serialWords : List Text := ["SERIAL", "BIGSERIAL", "SMALLSERIAL"]

/-- Whether the column asks for generated values. -/
def isAutoIncrement : Bool := serialWords.contains d.word || d.clauses.any Clause.isGenerated

/-- Whether the column is a primary key. -/
def isPrimaryKey : Bool := d.clauses.contains .primaryKey || (d.isAutoIncrement && dialect.autoIncrementIsKey)

/-- The field that the column asks for. -/
def field : Field :=
  { sourceName := d.name.text
    targetName := Naming.camel d.name.text
    sourceType := d.type
    targetType := dialect.tableType d.word d.parameters
    nullable := !(d.isPrimaryKey || d.clauses.contains .notNull)
    isPrimaryKey := d.isPrimaryKey
    isAutoIncrement := d.isAutoIncrement
    comment := some d.name.text
    serializedName := d.name.text
    storageColumn := some d.name.text }

end ColumnDecl

/-! ## Table constraints -/

/-- A table constraint: it starts with one of the phrases for constraints, its parentheses and quotes are closed, and
none of its commas separates or stands at a line end. -/
structure ConstraintDecl (dialect : Sql) where
  text : Text
  phrase : List Text
  phrase_mem : phrase ∈ dialect.constraintPhrases
  opened : (afterWholePhrase? phrase text).isSome = true
  closed : Scan.start.run text = Scan.start
  inner : ∀ p c u, text = p ++ c :: u → (Scan.start.run p).separates c = false
  unbroken : ∀ p b u, text = p ++ ',' :: (b ++ '\n' :: u) → ¬∀ c ∈ b, isBlank c = true

/-- A text with a phrase for constraints in front that both cuts leave whole. -/
def ConstraintDecl.ofCuts {dialect : Sql} (text : Text) (phrase : List Text)
    (phrase_mem : phrase ∈ dialect.constraintPhrases) (opened : (afterWholePhrase? phrase text).isSome = true)
    (closed : Scan.start.run text = Scan.start) (piece : scanPieces Scan.start text = [text])
    (chunk : splitAtLineEnds text = [text]) : ConstraintDecl dialect where
  text := text
  phrase := phrase
  phrase_mem := phrase_mem
  opened := opened
  closed := closed
  inner := fun _ _ _ h => separates_of_scanPieces piece h
  unbroken := fun _ _ _ h => not_isBlank_of_splitAtLineEnds chunk h

/-! ## Statements -/

/-- A part of the body. -/
inductive Element (dialect : Sql) where
  | column (column : ColumnDecl dialect)
  | tableConstraint (tableConstraint : ConstraintDecl dialect)

namespace Element

variable {dialect : Sql}

/-- The text of a part of the body. -/
def text : Element dialect → Text
  | column d => d.text
  | tableConstraint d => d.text

/-- The field that a part of the body asks for. -/
def field? : Element dialect → Option Field
  | column d => some d.field
  | tableConstraint _ => none

end Element

/-- The text of a statement: parts of a body with a comma and white space between neighbours. -/
def createTable {dialect : Sql} (table : Name) (first : Element dialect) (rest : List (Blanks × Element dialect)) :
    Text :=
  "CREATE TABLE " ++ (table.text ++ [' ']) ++
    '(' :: (joinPieces first.text (rest.map fun x => (x.1.text, x.2.text)) ++ ')' :: [])

/-! ## Keywords -/

/-- Words whose small letters are words. -/
theorem isPhrase_of_foldWords {ws : List Text} (h : IsPhrase (foldWords ws)) : IsPhrase ws := by
  intro w hw
  obtain ⟨hne, hchars⟩ := h (w.map foldChar) (List.mem_map_of_mem hw)
  exact ⟨fun e => hne (by rw [e]; rfl), fun c hc => isWordChar_of_foldChar (hchars _ (List.mem_map_of_mem hc))⟩

theorem isPhrase_generatedPhrases (dialect : Sql) : ∀ p ∈ dialect.generatedPhrases, IsPhrase p := by
  cases dialect <;> decide

theorem Clause.isPhrase_words {dialect : Sql} : ∀ c : Clause dialect, IsPhrase c.words
  | .notNull => show IsPhrase ["not", "null"] by decide
  | .primaryKey => show IsPhrase ["primary", "key"] by decide
  | .generated phrase => isPhrase_generatedPhrases dialect phrase.1 phrase.2

namespace ColumnDecl

variable {dialect : Sql} (d : ColumnDecl dialect)

theorem isPhrase_keywords : IsPhrase (d.keywords.map (·.text)) := by
  apply isPhrase_of_foldWords
  rw [d.spelling]
  intro w hw
  obtain ⟨c, _, hc⟩ := List.mem_flatMap.mp hw
  exact c.isPhrase_words w hc

/-- The characters of the clauses are blanks and word characters. -/
theorem mem_clauseText {c : Char} (hc : c ∈ d.clauseText) : isBlank c = true ∨ isWordChar c = true := by
  obtain ⟨k, hk, hc⟩ := List.mem_flatMap.mp hc
  rcases List.mem_append.mp hc with hc | hc
  · exact .inl (k.gap.blank c hc)
  · exact .inr ((d.isPhrase_keywords k.text (List.mem_map_of_mem hk)).2 c hc)

end ColumnDecl

/-! ## Declarations are pieces -/

/-- What is read off the quotes: they belong to the readers of names, they are no word characters, and the scan either
takes them for quotes, where both are the same, or passes over them. -/
theorem quotePairs_spec (dialect : Sql) : ∀ q ∈ dialect.quotePairs,
    (dialect.nameOpeners.contains q.1 = true ∧ dialect.nameClosers.contains q.2 = true) ∧
      (isBlank q.1 = false ∧ isWordChar q.1 = false ∧ isWordChar q.2 = false ∧ q.1 ≠ ',' ∧ q.2 ≠ ',') ∧
      (q.1 = q.2 ∧ Scan.isQuote q.1 = true ∨ isPlain q.1 = true ∧ isPlain q.2 = true) := by
  cases dialect <;> decide

theorem not_mem_of_isWordChar {t : Text} (ht : ∀ c ∈ t, isWordChar c = true) {c : Char} (hc : isWordChar c = false) :
    c ∉ t := by
  intro h
  rw [ht c h] at hc
  cases hc

/-- A word in its quotes leaves the scan as it entered. -/
theorem level_quoted {dialect : Sql} {quotes : Char × Char} (hmem : quotes ∈ dialect.quotePairs) {name : Text}
    (hname : ∀ c ∈ name, isWordChar c = true) : Level (quotes.1 :: (name ++ [quotes.2])) := by
  obtain ⟨_, ⟨_, _, hclose, _⟩, hquotes⟩ := quotePairs_spec dialect quotes hmem
  rcases hquotes with ⟨heq, hquote⟩ | ⟨hopen, hshut⟩
  · have hq := not_mem_of_isWordChar hname hclose
    have hb := not_mem_of_isWordChar hname (c := '\\') (by decide)
    obtain ⟨hpiece, hclosed⟩ := scan_quoted (q := quotes.2) (by rw [← heq, hquote]) (d := 0) hq hb
    rw [heq]
    exact ⟨hpiece, hclosed⟩
  · refine level_of_isPlain (fun c hc => ?_)
    simp only [List.mem_cons, List.mem_append, List.not_mem_nil, or_false] at hc
    rcases hc with rfl | hc | rfl
    · exact hopen
    · exact isPlain_of_isWordChar (hname c hc)
    · exact hshut

namespace ColumnDecl

variable {dialect : Sql} (d : ColumnDecl dialect)

theorem level_quotedName : Level d.quotedName := level_quoted d.quotes_mem d.name.word

theorem level_type : Level d.type := by
  have hword : ∀ c ∈ typeWordChars, isPlain c = true := by decide
  have hlist : ∀ c ∈ listChars, isPlain c = true ∨ c = ',' := by decide
  obtain ⟨⟨hchars, _⟩, _⟩ := typeWord_spec dialect d.word d.word_mem
  refine (level_of_isPlain (fun c hc => hword c (hchars c hc))).append ?_
  rcases d.parameters_ok with h | ⟨list, h, hl⟩
  · rw [h]
    exact ⟨rfl, rfl⟩
  · rw [h]
    exact level_parens (fun c hc => hlist c (hl c hc))

theorem level_clauseText : Level d.clauseText :=
  level_of_isPlain (fun _ hc => (d.mem_clauseText hc).elim isPlain_of_isBlank isPlain_of_isWordChar)

/-- The commas of a column stand in the parameters of its type, where no line ends. -/
theorem chunk_text : splitAtLineEnds d.text = [d.text] := by
  obtain ⟨_, ⟨_, _, _, hcomma⟩, _⟩ := quotePairs_spec dialect d.quotes d.quotes_mem
  obtain ⟨⟨hchars, _⟩, _⟩ := typeWord_spec dialect d.word d.word_mem
  have hfront : ',' ∉ d.quotedName ++ (d.gap.text ++ d.word) := by
    have hname := not_mem_of_isWordChar d.name.word (c := ',') (by decide)
    have hgap := comma_not_mem_blanks d.gap.blank
    have hword : ',' ∉ d.word := fun h => absurd (hchars _ h) (by decide)
    simp only [quotedName, List.mem_append, List.mem_cons, List.not_mem_nil, or_false, not_or]
    exact ⟨⟨hcomma.1.symm, hname, hcomma.2.symm⟩, hgap, hword⟩
  have hback : ',' ∉ d.clauseText := fun h => by
    rcases d.mem_clauseText h with h | h
    · exact absurd h (by decide)
    · exact absurd h (by decide)
  rcases d.parameters_ok with h | ⟨list, h, hl⟩
  · refine splitAtLineEnds_no_comma ?_
    rw [text, type, h, List.append_nil, ← List.append_assoc, ← List.append_assoc, List.append_assoc d.quotedName]
    exact fun hm => (List.mem_append.mp hm).elim hfront hback
  · have htext : d.text = (d.quotedName ++ (d.gap.text ++ d.word)) ++ '(' :: (list ++ ')' :: d.clauseText) := by
      simp [text, type, h]
    have hlist : splitAtLineEnds ('(' :: list) = ['(' :: list] := by
      refine splitAtLineEnds_no_newline (fun hm => ?_)
      rcases List.mem_cons.mp hm with hm | hm
      · exact absurd hm (by decide)
      · exact absurd (hl _ hm) (by decide)
    have hclose : splitAtLineEnds (')' :: d.clauseText) = [')' :: d.clauseText] :=
      splitAtLineEnds_no_comma (fun hm => (List.mem_cons.mp hm).elim (by decide) hback)
    rw [htext]
    refine (splitAtLineEnds_append_iff (by decide)).mpr ⟨splitAtLineEnds_no_comma hfront, ?_⟩
    exact (splitAtLineEnds_append_iff (t := '(' :: list) (by decide)).mpr ⟨hlist, hclose⟩

theorem level_text : Level d.text :=
  d.level_quotedName.append ((level_blanks d.gap.blank).append (d.level_type.append d.level_clauseText))

/-- A column is a piece. -/
theorem piece : Piece d.text := by
  obtain ⟨_, ⟨hblank, _⟩, _⟩ := quotePairs_spec dialect d.quotes d.quotes_mem
  exact { d.level_text with
    chunk := d.chunk_text
    start := ⟨d.quotes.1, _, rfl, hblank⟩ }

end ColumnDecl

/-- A table constraint starts with a word character. -/
theorem ConstraintDecl.start {dialect : Sql} (d : ConstraintDecl dialect) :
    ∃ c u, d.text = c :: u ∧ isWordChar c = true := by
  obtain ⟨hcons, hphrase⟩ := constraintPhrases_spec dialect d.phrase d.phrase_mem
  obtain ⟨p, ps, hp⟩ := List.exists_cons_of_ne_nil hcons
  have hword := hphrase p (by rw [hp]; exact List.mem_cons_self)
  have hopened := d.opened
  rw [hp] at hopened
  have hfirst := firstWord_of_afterWholePhrase? hword.2 hopened
  have hne : (takeWord d.text).1 ≠ [] := fun e => hword.1 (by rw [← hfirst, e]; rfl)
  cases ht : d.text with
  | nil => exact absurd (by rw [ht]; rfl) hne
  | cons c u =>
    refine ⟨c, u, rfl, ?_⟩
    by_cases hc : isWordChar c = true
    · exact hc
    · exact absurd (by rw [ht, takeWord, List.takeWhile_cons_of_neg hc]) hne

/-- A table constraint is a piece. -/
theorem ConstraintDecl.piece {dialect : Sql} (d : ConstraintDecl dialect) : Piece d.text where
  piece := scanPieces_eq_singleton _ _ d.inner
  closed := d.closed
  chunk := splitAtLineEnds_eq_singleton _ d.unbroken
  start := by
    obtain ⟨c, u, h, hc⟩ := d.start
    exact ⟨c, u, h, isBlank_of_isWordChar hc⟩

/-- Every part of the body is a piece. -/
theorem Element.piece {dialect : Sql} : ∀ e : Element dialect, Piece e.text
  | column d => d.piece
  | tableConstraint d => d.piece

end StructForge.Sql
