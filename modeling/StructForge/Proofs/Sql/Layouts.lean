import StructForge.Proofs.Sql.Fields
import StructForge.Proofs.Sql.QuotedNames
import StructForge.Proofs.Sql.RoundTrip
import StructForge.Proofs.Sql.SingleColumns

/-!
# Layouts of literals with doubled quotes

A literal doubles its quotes, and to the standard a backslash in it is a character like any other; to the scan it hides
the next one. So the scan leaves a literal as it entered exactly if no run of backslashes of odd length stands in front
of a quote or of the end (`scan_doubled`). Behind such a run it takes the inside of literals for the outside, and the
other way round (`isOpen_run_doubled`), and is within quotes at the end of every column from there on (`isOpen_of_odd`).
There a further column is no further piece of the line (`length_columnsOf_of_odd`), while on a line of its own it is.
Columns with such literals are the same in both layouts, whatever columns follow, exactly if none has such a run
(`layouts_agree_iff`).
-/

namespace StructForge.Sql

open Text

/-! ## Literals -/

/-- The content of a literal as it is written. -/
def doubled (t : Text) : Text := t.flatMap fun c => if c = '\'' then ['\'', '\''] else [c]

/-- Whether all runs of backslashes in front of a quote or of the end are of even length, where a run of odd length, or
one of even length, stands in front of the text. -/
def hasEvenRuns : (odd : Bool) → Text → Bool
  | odd, [] => !odd
  | odd, c :: t => if c = '\'' then !odd && hasEvenRuns false t else hasEvenRuns (c = '\\' && !odd) t

/-- The scan within a literal, behind a run of backslashes. -/
def inLiteral (odd : Bool) (depth : Int) : Scan := ⟨if odd then .escaped '\'' else .within '\'', depth⟩

theorem doubled_cons (c : Char) (t : Text) :
    doubled (c :: t) = (if c = '\'' then ['\'', '\''] else [c]) ++ doubled t := rfl

theorem inLiteral_next {odd : Bool} {depth : Int} {c : Char} (hc : c ≠ '\'') :
    (inLiteral odd depth).next c = inLiteral (c = '\\' && !odd) depth := by
  cases odd with
  | true => simp [inLiteral, Scan.next]
  | false => by_cases hb : c = '\\' <;> simp [inLiteral, Scan.next, hb, hc]

theorem inLiteral_separates {odd : Bool} {depth : Int} {c : Char} : (inLiteral odd depth).separates c = false := by
  cases odd <;> simp [inLiteral, Scan.separates]

/-- A literal in which all runs are even is one piece up to its end, where the scan leaves it. -/
theorem scan_doubled {odd : Bool} {depth : Int} {t : Text} (h : hasEvenRuns odd t = true) :
    scanPieces (inLiteral odd depth) (doubled t ++ ['\'']) = [doubled t ++ ['\'']] ∧
      (inLiteral odd depth).run (doubled t ++ ['\'']) = ⟨.none, depth⟩ := by
  induction t generalizing odd with
  | nil =>
    obtain rfl : odd = false := by simpa [hasEvenRuns] using h
    exact ⟨rfl, rfl⟩
  | cons c t ih =>
    rw [hasEvenRuns] at h
    rw [doubled_cons]
    split at h
    case isTrue hc =>
      obtain ⟨rfl, heven⟩ : odd = false ∧ hasEvenRuns false t = true := by simpa using h
      obtain ⟨hpieces, hrun⟩ := ih heven
      rw [if_pos hc]
      refine ⟨?_, hrun⟩
      -- the first quote of the pair ends the literal, the second one opens it again
      have hopen : scanPieces ⟨.none, depth⟩ ('\'' :: (doubled t ++ ['\''])) = ['\'' :: (doubled t ++ ['\''])] :=
        congrArg (putFirst '\'') hpieces
      exact congrArg (putFirst '\'') hopen
    case isFalse hc =>
      obtain ⟨hpieces, hrun⟩ := ih h
      rw [if_neg hc]
      refine ⟨?_, ?_⟩
      · rw [List.append_assoc, List.singleton_append, scanPieces_cons, inLiteral_separates, inLiteral_next hc, hpieces]
        rfl
      · show ((inLiteral odd depth).next c).run (doubled t ++ ['\'']) = _
        rw [inLiteral_next hc, hrun]

/-- A literal in which all runs are even leaves the scan as it entered. -/
theorem level_doubled {t : Text} (h : hasEvenRuns false t = true) : Level ('\'' :: (doubled t ++ ['\''])) := by
  obtain ⟨hpieces, hrun⟩ := scan_doubled h
  exact ⟨congrArg (putFirst '\'') hpieces, hrun⟩

/-! ## Behind a run of odd length -/

/-- The scan is not within single quotes. -/
inductive IsAway : Scan → Prop
  | outside (depth : Int) : IsAway ⟨.none, depth⟩
  | within {quote : Char} (hquote : Scan.isQuote quote = true) (hne : quote ≠ '\'') (depth : Int) :
    IsAway ⟨.within quote, depth⟩
  | escaped {quote : Char} (hquote : Scan.isQuote quote = true) (hne : quote ≠ '\'') (depth : Int) :
    IsAway ⟨.escaped quote, depth⟩

/-- The scan is within quotes, and not behind a backslash. -/
inductive IsOpen : Scan → Prop
  | within {quote : Char} (hquote : Scan.isQuote quote = true) (depth : Int) : IsOpen ⟨.within quote, depth⟩

/-- Two quotes leave the scan outside of them. -/
theorem IsAway.pair {s : Scan} (h : IsAway s) : IsAway ((s.next '\'').next '\'') := by
  cases h with
  | outside depth => exact .outside depth
  | within hquote hne depth => simpa [Scan.next, hne.symm] using IsAway.within hquote hne depth
  | escaped hquote hne depth => simpa [Scan.next, hne.symm] using IsAway.within hquote hne depth

/-- So does every other character. -/
theorem IsAway.next {s : Scan} (h : IsAway s) {c : Char} (hc : c ≠ '\'') : IsAway (s.next c) := by
  cases h with
  | outside depth =>
    simp only [Scan.next]
    split
    · rename_i hquote
      exact .within hquote hc depth
    · split
      · exact .outside _
      · split <;> exact .outside _
  | within hquote hne depth =>
    simp only [Scan.next]
    split
    · exact .escaped hquote hne depth
    · split
      · exact .outside depth
      · exact .within hquote hne depth
  | escaped hquote hne depth => exact .within hquote hne depth

/-- A single quote opens a literal, or stands within other quotes. -/
theorem IsAway.next_quote {s : Scan} (h : IsAway s) : IsOpen (s.next '\'') := by
  cases h with
  | outside depth => exact .within (by decide) depth
  | within hquote hne depth => simpa [Scan.next, hne.symm] using IsOpen.within hquote depth
  | escaped hquote hne depth => exact .within hquote depth

theorem IsAway.run_doubled {s : Scan} {t : Text} (h : IsAway s) : IsAway (s.run (doubled t)) := by
  induction t generalizing s with
  | nil => exact h
  | cons c t ih =>
    rw [doubled_cons, Scan.run_append]
    split
    · exact ih h.pair
    · rename_i hc
      exact ih (h.next hc)

/-- What follows a run of odd length and a quote is taken for the outside of the literal, and its end for a start. -/
theorem isOpen_run_doubled {odd : Bool} {depth : Int} {t : Text} (h : hasEvenRuns odd t = false) :
    IsOpen ((inLiteral odd depth).run (doubled t ++ ['\''])) := by
  induction t generalizing odd with
  | nil =>
    obtain rfl : odd = true := by simpa [hasEvenRuns] using h
    exact .within (by decide) depth
  | cons c t ih =>
    rw [hasEvenRuns] at h
    rw [doubled_cons, List.append_assoc, Scan.run_append]
    split at h
    case isTrue hc =>
      rw [if_pos hc]
      cases odd with
      | false => exact ih (by simpa using h)
      | true =>
        have haway : IsAway ((inLiteral true depth).run ['\'', '\'']) := .outside depth
        rw [Scan.run_append]
        exact haway.run_doubled.next_quote
    case isFalse hc =>
      rw [if_neg hc, show (inLiteral odd depth).run [c] = (inLiteral odd depth).next c from rfl, inLiteral_next hc]
      exact ih h

/-! ## Columns with a literal -/

/-- What stands between the name of a column and its literal. -/
def textDefault : Text := " TEXT DEFAULT "

/-- A column of texts: its name in quotes of a dialect, and the literal that it has without a value. -/
structure TextColumn (dialect : Sql) where
  name : Text
  quotes : Char × Char
  quotes_mem : quotes ∈ dialect.quotePairs
  literal : Text
  unbroken : '\n' ∉ literal

namespace TextColumn

variable {dialect : Sql} (c : TextColumn dialect)

/-- The name in its quotes. -/
def quotedName : Text := c.quotes.1 :: (c.name ++ [c.quotes.2])

/-- The literal as it is written. -/
def quotedLiteral : Text := '\'' :: (doubled c.literal ++ ['\''])

/-- The text of the column. -/
def text : Text := c.quotedName ++ (textDefault ++ c.quotedLiteral)

/-- The name is a word, and the literal has no run of odd length. -/
structure IsSound : Prop where
  word : IsWord c.name
  even : hasEvenRuns false c.literal = true

end TextColumn

section Layouts

variable {dialect : Sql}

/-- The columns with commas between them, and a text behind each comma. -/
def joinColumns (gap : Text) (first : TextColumn dialect) (rest : List (TextColumn dialect)) : Text :=
  joinPieces first.text (rest.map fun c => (gap, c.text))

/-- A statement that makes a table with these columns. -/
def layout (gap : Text) (table : Name) (first : TextColumn dialect) (rest : List (TextColumn dialect)) : Text :=
  "CREATE TABLE " ++ (table.text ++ [' ']) ++ '(' :: (joinColumns gap first rest ++ [')'])

/-- The columns on one line and on a line each have the same schema, with one field for every column. -/
def Agrees (table : Name) (first : TextColumn dialect) (rest : List (TextColumn dialect)) : Prop :=
  ∃ schema, readSchema dialect (layout " " table first rest) = .ok schema ∧
    readSchema dialect (layout "\n" table first rest) = .ok schema ∧
      schema.fields.map (·.sourceName) = (first :: rest).map (·.name)

theorem readSchema_layout (gap : Text) (table : Name) (first : TextColumn dialect) (rest : List (TextColumn dialect)) :
    readSchema dialect (layout gap table first rest) =
      schemaOf table.text
        ((columnsOf dialect (bodyLines (joinColumns gap first rest))).mapM (ColumnText.toField dialect)) := by
  have hbody : joinColumns gap first rest ≠ [] := by
    cases rest <;> exact List.cons_ne_nil _ _
  exact readSchema_statementOf table hbody

end Layouts

/-! ## Sound columns -/

theorem text_mem_typeWords (dialect : Sql) : ("TEXT" : Text) ∈ dialect.typeWords := by cases dialect <;> decide

/-- No type goes on with a default. -/
theorem endsType_default (t : Text) : EndsType (" DEFAULT " ++ t) where
  startsBlank := fun _ h => by cases h; rfl
  noTypeWord := fun r h => by
    obtain rfl := eq_dropWhile_of_afterBlanks? h
    exact ⟨rfl, rfl, rfl, rfl⟩

namespace TextColumn

variable {dialect : Sql} {c : TextColumn dialect}

/-- What is read of a column. -/
def read (c : TextColumn dialect) : ColumnText := ⟨c.name, "TEXT", "DEFAULT " ++ c.quotedLiteral⟩

theorem mem_doubled {a : Char} {t : Text} (h : a ∈ doubled t) : a ∈ t ∨ a = '\'' := by
  obtain ⟨b, hb, ha⟩ := List.mem_flatMap.mp h
  split at ha
  · exact .inr (by simpa using ha)
  · rw [List.mem_singleton] at ha
    exact .inl (ha ▸ hb)

theorem newline_not_mem_text (hword : ∀ a ∈ c.name, isWordChar a = true) : '\n' ∉ c.text := by
  have hquotes : ∀ q ∈ dialect.quotePairs, '\n' ≠ q.1 ∧ '\n' ≠ q.2 := by cases dialect <;> decide
  have hname : '\n' ∉ c.name := not_mem_of_isWordChar hword (by decide)
  have hdefault : '\n' ∉ textDefault := by decide +kernel
  have hliteral : '\n' ∉ doubled c.literal := fun h => (mem_doubled h).elim c.unbroken (by decide)
  obtain ⟨hopen, hclose⟩ := hquotes c.quotes c.quotes_mem
  simp [text, quotedName, quotedLiteral, hname, hdefault, hliteral, hopen, hclose]

theorem endsInk_text : EndsInk c.text :=
  ⟨c.quotedName ++ (textDefault ++ '\'' :: doubled c.literal), '\'', by simp [text, quotedLiteral], by decide⟩

theorem trim_text : trim c.text = c.text := by
  obtain ⟨_, ⟨hblank, _⟩, _⟩ := quotePairs_spec dialect c.quotes c.quotes_mem
  exact trim_eq_self hblank c.endsInk_text

namespace IsSound

variable (h : c.IsSound)
include h

/-- A sound column is a piece. -/
theorem piece : Piece c.text := by
  obtain ⟨_, ⟨hblank, _⟩, _⟩ := quotePairs_spec dialect c.quotes c.quotes_mem
  have hdefault : Level textDefault := level_of_isPlain (by decide +kernel)
  have hlevel := (level_quoted c.quotes_mem h.word.chars).append (hdefault.append (level_doubled h.even))
  exact { hlevel with
    chunk := splitAtLineEnds_no_newline (newline_not_mem_text h.word.chars)
    start := ⟨c.quotes.1, _, rfl, hblank⟩ }

/-- A sound column is read as its name, its type and its default. -/
theorem column?_read : (Line.read dialect c.text).column? = some c.read := by
  let name : QuotedName dialect := ⟨⟨c.name, h.word.ne_nil, h.word.chars⟩, c.quotes, c.quotes_mem⟩
  have hname : ∀ t, dialect.readName? (c.quotedName ++ t) = some (c.name, t) := fun t =>
    (readName?_quoted dialect name t).trans (if_pos name.isQuotedFor_self)
  have hconstraint : dialect.isConstraint c.text = false := isConstraint_quoted dialect name _
  have htype := readTypeText?_typeWord (text_mem_typeWords dialect) (.inl rfl) (endsType_default c.quotedLiteral)
  rw [Sql.column?_read, hconstraint]
  exact readColumn?_eq_some.mpr ⟨_, _, _, hname _, rfl, htype, rfl⟩

end IsSound

/-- Texts are no slices. -/
theorem toField_read (c : TextColumn dialect) : ∃ f, c.read.toField dialect = .ok f := by
  have htext : ']' ∉ ("TEXT" : Text) := by decide
  have htype : dialect.goType c.read.type = .ok _ := goType_of_no_bracket htext
  exact ⟨_, by rw [ColumnText.toField, htype]; rfl⟩

end TextColumn

section Layouts

variable {dialect : Sql}

/-- Sound columns are on the lines, whatever white space stands between them. -/
theorem columnsOf_joinColumns {gap : Text} (hgap : ∀ a ∈ gap, isBlank a = true) {first : TextColumn dialect}
    {rest : List (TextColumn dialect)} (h : ∀ c ∈ first :: rest, c.IsSound) :
    columnsOf dialect (bodyLines (joinColumns gap first rest)) = (first :: rest).map TextColumn.read := by
  have hrest : ∀ x ∈ rest.map (fun c => (gap, c.text)), (∀ a ∈ x.1, isBlank a = true) ∧ Piece x.2 := by
    intro x hx
    obtain ⟨c, hc, rfl⟩ := List.mem_map.mp hx
    exact ⟨hgap, (h c (List.mem_cons_of_mem first hc)).piece⟩
  have hlines : bodyLines (joinColumns gap first rest) = (first :: rest).map TextColumn.text := by
    rw [joinColumns, bodyLines_joinPieces (h first List.mem_cons_self).piece hrest]
    simp [TextColumn.trim_text]
  rw [hlines, columnsOf, List.filterMap_map, ← List.filterMap_eq_map]
  exact List.filterMap_congr fun c hc => (h c hc).column?_read

/-- Sound columns are the same in both layouts. -/
theorem agrees_of_isSound {table : Name} {first : TextColumn dialect} {rest : List (TextColumn dialect)}
    (h : ∀ c ∈ first :: rest, c.IsSound) : Agrees table first rest := by
  have hfields : ∃ fields, ((first :: rest).map TextColumn.read).mapM (ColumnText.toField dialect) = .ok fields := by
    refine exists_mapM fun column hcolumn => ?_
    obtain ⟨c, -, rfl⟩ := List.mem_map.mp hcolumn
    exact c.toField_read
  obtain ⟨fields, hfields⟩ := hfields
  have hnames := map_sourceName_of_mapM hfields
  refine ⟨{ tableName := some table.text, fields }, ?_, ?_, ?_⟩
  · rw [readSchema_layout, columnsOf_joinColumns (by decide) h, hfields, schemaOf_ok]
  · rw [readSchema_layout, columnsOf_joinColumns (by decide) h, hfields, schemaOf_ok]
  · simpa [TextColumn.read, Function.comp_def] using hnames

end Layouts

/-! ## Columns behind a run of odd length -/

/-- Within quotes, a stretch in the same quotes is taken for what stands between two of them. -/
theorem scan_inverted {q : Char} (hquote : Scan.isQuote q = true) {d : Int} {t : Text}
    (ht : ∀ a ∈ t, isPlain a = true) :
    scanPieces ⟨.within q, d⟩ (q :: (t ++ [q])) = [q :: (t ++ [q])] ∧
      Scan.run ⟨.within q, d⟩ (q :: (t ++ [q])) = ⟨.within q, d⟩ := by
  obtain ⟨hpieces, hrun⟩ := scan_of_isPlain (d := d) ht
  have hne : ¬q = ',' ∧ ¬q = '\\' := by
    constructor <;> rintro rfl <;> cases hquote
  have hclose : Scan.next ⟨.within q, d⟩ q = ⟨.none, d⟩ := by simp [Scan.next, hne.2]
  have hopen : Scan.next ⟨.none, d⟩ q = ⟨.within q, d⟩ := by simp [Scan.next, hquote]
  refine ⟨?_, ?_⟩
  · rw [scanPieces_cons, if_neg (by simp [Scan.separates]), hclose, scanPieces_append, hpieces, hrun,
      scanPieces_cons, if_neg (by simp [Scan.separates, hne.1]), hopen]
    rfl
  · show (Scan.next ⟨.within q, d⟩ q).run (t ++ [q]) = _
    rw [hclose, Scan.run_append, hrun]
    exact hopen

namespace TextColumn

variable {dialect : Sql} {c : TextColumn dialect}

/-- The column with its comma and a space in front. -/
def added (c : TextColumn dialect) : Text := ',' :: ' ' :: c.text

theorem isQuote_cases {q : Char} (h : Scan.isQuote q = true) : q = '\'' ∨ q = '"' ∨ q = '\x60' := by
  simpa [Scan.isQuote, or_assoc] using h

/-- Within quotes, the scan passes over the name of a column, whose quotes are these or others. -/
theorem scan_quotedName {q : Char} (hquote : Scan.isQuote q = true) {d : Int} (hword : IsWord c.name) :
    scanPieces ⟨.within q, d⟩ c.quotedName = [c.quotedName] ∧
      Scan.run ⟨.within q, d⟩ c.quotedName = ⟨.within q, d⟩ := by
  obtain ⟨_, _, hquotes⟩ := quotePairs_spec dialect c.quotes c.quotes_mem
  have hplain : ∀ a ∈ c.name, isPlain a = true := fun a ha => isPlain_of_isWordChar (hword.chars a ha)
  have hnot : ¬isPlain q = true := by simp [isPlain, hquote]
  by_cases hsame : q = c.quotes.1
  · have hpair : q = c.quotes.2 := by
      rcases hquotes with ⟨heq, -⟩ | ⟨hopen, -⟩
      · rw [← heq, hsame]
      · exact absurd (hsame ▸ hopen) hnot
    rw [quotedName, ← hsame, ← hpair]
    exact scan_inverted hquote hplain
  · have hother : ¬q = c.quotes.2 := by
      rcases hquotes with ⟨heq, -⟩ | ⟨-, hshut⟩
      · rwa [← heq]
      · exact fun h => hnot (h ▸ hshut)
    have hname : q ∉ c.name := fun hmem => hnot (hplain q hmem)
    have hslash : '\\' ∉ c.name := not_mem_of_isWordChar hword.chars (by decide)
    have hends : ∀ p ∈ dialect.quotePairs, '\\' ≠ p.1 ∧ '\\' ≠ p.2 := by cases dialect <;> decide
    obtain ⟨hfirst, hlast⟩ := hends c.quotes c.quotes_mem
    exact scan_within (by simp [quotedName, hname, hsame, hother]) (by simp [quotedName, hslash, hfirst, hlast])

/-- So it does over the comma in front of a column, and all that stands in front of the literal. -/
theorem scan_front {q : Char} (hquote : Scan.isQuote q = true) {d : Int} (hword : IsWord c.name) :
    scanPieces ⟨.within q, d⟩ ([',', ' '] ++ (c.quotedName ++ textDefault)) =
        [[',', ' '] ++ (c.quotedName ++ textDefault)] ∧
      Scan.run ⟨.within q, d⟩ ([',', ' '] ++ (c.quotedName ++ textDefault)) = ⟨.within q, d⟩ := by
  have hcomma := scan_within (q := q) (d := d) (t := [',', ' '])
    (by rcases isQuote_cases hquote with rfl | rfl | rfl <;> decide) (by decide)
  have hname := scan_quotedName hquote (d := d) hword
  have hdefault := scan_within (q := q) (d := d) (t := textDefault)
    (by rcases isQuote_cases hquote with rfl | rfl | rfl <;> decide +kernel) (by decide +kernel)
  refine ⟨scanPieces_append_iff.mpr ⟨hcomma.1, ?_⟩, ?_⟩
  · rw [hcomma.2]
    refine scanPieces_append_iff.mpr ⟨hname.1, ?_⟩
    rw [hname.2, hdefault.1]
  · rw [Scan.run_append, hcomma.2, Scan.run_append, hname.2, hdefault.2]

theorem added_eq (c : TextColumn dialect) :
    c.added = [',', ' '] ++ (c.quotedName ++ textDefault) ++ c.quotedLiteral := by
  simp [added, text]

/-- Behind such a column, the scan is within quotes again. -/
theorem isOpen_run_added {s : Scan} (h : IsOpen s) (hword : IsWord c.name) : IsOpen (s.run c.added) := by
  obtain ⟨hquote, depth⟩ := h
  rename_i q
  have haway : IsAway (Scan.next ⟨.within q, depth⟩ '\'') := by
    by_cases hq : q = '\''
    · rw [hq]
      exact .outside depth
    · have hnext : Scan.next ⟨.within q, depth⟩ '\'' = ⟨.within q, depth⟩ := by simp [Scan.next, Ne.symm hq]
      rw [hnext]
      exact .within hquote hq depth
  rw [added_eq, Scan.run_append, (scan_front hquote hword).2, quotedLiteral,
    show ∀ t, Scan.run ⟨.within q, depth⟩ ('\'' :: t) = (Scan.next ⟨.within q, depth⟩ '\'').run t from fun _ => rfl,
    Scan.run_append]
  exact haway.run_doubled.next_quote

theorem isOpen_run_columns {s : Scan} (h : IsOpen s) {cs : List (TextColumn dialect)}
    (hword : ∀ c ∈ cs, IsWord c.name) : IsOpen (s.run (cs.flatMap added)) := by
  induction cs generalizing s with
  | nil => exact h
  | cons c cs ih =>
    rw [List.forall_mem_cons] at hword
    rw [List.flatMap_cons, Scan.run_append]
    exact ih (isOpen_run_added h hword.1) hword.2

/-- Behind a run of odd length, the scan is within quotes at the end of every column. -/
theorem isOpen_of_odd {cs : List (TextColumn dialect)} (hword : ∀ c ∈ cs, IsWord c.name)
    (hodd : ∃ c ∈ cs, hasEvenRuns false c.literal = false) : IsOpen (Scan.start.run (cs.flatMap added)) := by
  induction cs with
  | nil => obtain ⟨c, hc, -⟩ := hodd; cases hc
  | cons c cs ih =>
    rw [List.forall_mem_cons] at hword
    rw [List.flatMap_cons, Scan.run_append, show Scan.start.run c.added = Scan.start.run c.text from rfl]
    cases heven : hasEvenRuns false c.literal with
    | true =>
      have hsound : c.IsSound := ⟨hword.1, heven⟩
      rw [hsound.piece.closed]
      refine ih hword.2 ?_
      obtain ⟨d, hd, hodd⟩ := hodd
      rcases List.mem_cons.mp hd with rfl | hd
      · rw [heven] at hodd
        cases hodd
      · exact ⟨d, hd, hodd⟩
    | false =>
      have hname : Scan.start.run c.quotedName = Scan.start := (level_quoted c.quotes_mem hword.1.chars).closed
      have hdefault : Scan.start.run textDefault = Scan.start := (level_of_isPlain (by decide +kernel)).closed
      have hopen : IsOpen (Scan.start.run c.text) := by
        rw [text, Scan.run_append, hname, Scan.run_append, hdefault]
        exact isOpen_run_doubled heven
      exact isOpen_run_columns hopen hword.2

end TextColumn

section Layouts

variable {dialect : Sql} {first : TextColumn dialect} {rest : List (TextColumn dialect)}

theorem joinColumns_eq (first : TextColumn dialect) (rest : List (TextColumn dialect)) :
    joinColumns " " first rest = first.text ++ rest.flatMap TextColumn.added := by
  induction rest generalizing first with
  | nil => exact (List.append_nil _).symm
  | cons c rest ih =>
    have hrest : joinPieces c.text (rest.map fun c => (" ", c.text)) = c.text ++ rest.flatMap TextColumn.added := ih c
    rw [joinColumns, List.map_cons, joinPieces, hrest, List.flatMap_cons]
    rfl

/-- The lines of a text on one line are its pieces. -/
theorem bodyLines_of_no_newline {t : Text} (h : '\n' ∉ t) : bodyLines t = linesOf (scanPieces Scan.start t) := by
  rw [bodyLines_eq, splitAtLineEnds_no_newline h, List.flatMap_singleton, chunkLines_eq]

/-- Within quotes, a column without a text in its literal is no further piece. -/
theorem scanPieces_added {s : Scan} (h : IsOpen s) {c : TextColumn dialect} (hword : IsWord c.name)
    (hempty : c.literal = []) : scanPieces s c.added = [c.added] := by
  obtain ⟨hquote, depth⟩ := h
  rename_i q
  obtain ⟨hpieces, hrun⟩ := c.scan_front hquote (d := depth) hword
  have hliteral : c.quotedLiteral = ['\'', '\''] := by rw [TextColumn.quotedLiteral, hempty]; rfl
  rw [TextColumn.added_eq, hliteral]
  refine scanPieces_append_iff.mpr ⟨hpieces, ?_⟩
  rw [hrun]
  rcases TextColumn.isQuote_cases hquote with rfl | rfl | rfl <;> rfl

/-- So it only makes the last line longer. -/
theorem length_columnsOf_append {body : Text} {c : TextColumn dialect} (hbody : '\n' ∉ body)
    (hopen : IsOpen (Scan.start.run (body ++ ['\'']))) (hword : IsWord c.name) (hempty : c.literal = []) :
    (columnsOf dialect (bodyLines (body ++ '\'' :: c.added))).length =
      (columnsOf dialect (bodyLines (body ++ ['\'']))).length := by
  obtain ⟨ps, p, hps⟩ := (List.eq_nil_or_concat (scanPieces Scan.start body)).resolve_left (scanPieces_ne_nil _ _)
  rw [List.concat_eq_append] at hps
  have hseparates : ∀ s : Scan, s.separates '\'' = false := fun s => by simp [Scan.separates]
  have hnext : (Scan.start.run body).next '\'' = Scan.start.run (body ++ ['\'']) :=
    (Scan.run_append Scan.start body ['\'']).symm
  have hshort : scanPieces Scan.start (body ++ ['\'']) = ps ++ [p ++ ['\'']] := by
    rw [scanPieces_append, hps, scanPieces_cons, hseparates, hnext]
    exact glue_concat _ _ _ _
  have hlong : scanPieces Scan.start (body ++ '\'' :: c.added) = ps ++ [(p ++ ['\'']) ++ ',' :: ' ' :: c.text] := by
    rw [scanPieces_append, hps, scanPieces_cons, hseparates, hnext, scanPieces_added hopen hword hempty]
    refine (glue_concat _ _ _ _).trans ?_
    simp [TextColumn.added]
  have hadded : '\n' ∉ c.added := by simp [TextColumn.added, TextColumn.newline_not_mem_text hword.chars]
  have hsame : (Line.read dialect (trim ((p ++ ['\'']) ++ ',' :: ' ' :: c.text))).column?.isSome =
      (Line.read dialect (trim (p ++ ['\'']))).column?.isSome :=
    isSome_column?_stop dialect _ _ (by cases dialect <;> decide) (by cases dialect <;> decide) (by decide) (by decide)
  rw [bodyLines_of_no_newline (by simp [hbody, hadded]), bodyLines_of_no_newline (by simp [hbody]), hshort, hlong,
    linesOf_append, linesOf_append, columnsOf_append, columnsOf_append, columnsOf_linesOf, columnsOf_linesOf,
    List.length_append, List.length_append, Option.length_toList, Option.length_toList, hsame]

theorem map_name_of_agrees {table : Name} (h : Agrees table first rest) :
    (columnsOf dialect (bodyLines (joinColumns " " first rest))).map (·.name) = (first :: rest).map (·.name) := by
  obtain ⟨schema, hread, -, hnames⟩ := h
  rw [readSchema_layout] at hread
  cases hfields : (columnsOf dialect (bodyLines (joinColumns " " first rest))).mapM (ColumnText.toField dialect) with
  | error e =>
    rw [hfields] at hread
    cases hread
  | ok fields =>
    rw [hfields, schemaOf_ok] at hread
    cases hread
    rw [← hnames, map_sourceName_of_mapM hfields]

/-- The last column ends with the quote of its literal. -/
theorem exists_joinColumns_eq (first : TextColumn dialect) (rest : List (TextColumn dialect)) :
    ∃ body, joinColumns " " first rest = body ++ ['\''] := by
  have htext : ∀ c : TextColumn dialect, ∃ front, c.text = front ++ ['\''] := fun c =>
    ⟨c.quotedName ++ (textDefault ++ '\'' :: doubled c.literal), by simp [TextColumn.text, TextColumn.quotedLiteral]⟩
  rw [joinColumns_eq]
  obtain rfl | ⟨cs, c, rfl⟩ := List.eq_nil_or_concat rest
  · rw [List.flatMap_nil, List.append_nil]
    exact htext first
  · obtain ⟨front, hfront⟩ := htext c
    rw [List.concat_eq_append, List.flatMap_append, List.flatMap_singleton, TextColumn.added, hfront]
    exact ⟨first.text ++ (cs.flatMap TextColumn.added ++ ',' :: ' ' :: front), by simp⟩

/-- Behind a run of odd length, a further column without a text in its literal makes no further field. -/
theorem length_columnsOf_of_odd (hword : ∀ c ∈ first :: rest, IsWord c.name)
    (hodd : ∃ c ∈ first :: rest, hasEvenRuns false c.literal = false) {next : TextColumn dialect}
    (hnext : IsWord next.name) (hempty : next.literal = []) :
    (columnsOf dialect (bodyLines (joinColumns " " first (rest ++ [next])))).length =
      (columnsOf dialect (bodyLines (joinColumns " " first rest))).length := by
  obtain ⟨body, hbody⟩ := exists_joinColumns_eq first rest
  have hopen : IsOpen (Scan.start.run (joinColumns " " first rest)) := by
    rw [joinColumns_eq]
    exact TextColumn.isOpen_of_odd hword hodd
  have hlong : joinColumns " " first (rest ++ [next]) = body ++ '\'' :: next.added := by
    rw [joinColumns_eq, List.flatMap_append, List.flatMap_singleton, ← List.append_assoc, ← joinColumns_eq, hbody]
    simp
  have hline : '\n' ∉ body := fun hmem => by
    have hall : '\n' ∈ joinColumns " " first rest := hbody ▸ List.mem_append_left _ hmem
    rw [joinColumns_eq, List.mem_append, List.mem_flatMap] at hall
    have htext : ∀ c ∈ first :: rest, '\n' ∉ c.text := fun c hc => TextColumn.newline_not_mem_text (hword c hc).chars
    rcases hall with hfirst | ⟨c, hc, hadded⟩
    · exact htext first List.mem_cons_self hfirst
    · have hmore := htext c (List.mem_cons_of_mem first hc)
      simp [TextColumn.added, hmore] at hadded
  rw [hbody] at hopen
  rw [hlong, hbody]
  exact length_columnsOf_append hline hopen hnext hempty

theorem isWord_x : IsWord "x" := ⟨by decide, by decide⟩

/-- The columns are the same on one line and on a line each, whatever sound columns follow, exactly if they are sound
themselves. -/
theorem layouts_agree_iff (table : Name) (first : TextColumn dialect) (rest : List (TextColumn dialect)) :
    (∀ c ∈ first :: rest, c.IsSound) ↔
      ∀ more : List (TextColumn dialect), (∀ c ∈ more, c.IsSound) → Agrees table first (rest ++ more) := by
  constructor
  · intro h more hmore
    refine agrees_of_isSound fun c hc => ?_
    rw [← List.cons_append, List.mem_append] at hc
    exact hc.elim (h c) (hmore c)
  · intro h
    have hnames := map_name_of_agrees (h [] nofun)
    rw [List.append_nil] at hnames
    have hword : ∀ c ∈ first :: rest, IsWord c.name := fun c hc => by
      have hmem : c.name ∈ (first :: rest).map (·.name) := List.mem_map_of_mem hc
      rw [← hnames] at hmem
      obtain ⟨column, hcolumn, hname⟩ := List.mem_map.mp hmem
      obtain ⟨line, -, hline⟩ := List.mem_filterMap.mp hcolumn
      exact hname ▸ isWord_of_column? hline
    intro c hc
    refine ⟨hword c hc, ?_⟩
    by_contra hnot
    -- one more column, which the scan takes for a part of the last one
    let next : TextColumn dialect := ⟨"x", first.quotes, first.quotes_mem, [], List.not_mem_nil⟩
    have hnext : IsWord next.name := isWord_x
    have hmore := map_name_of_agrees (h [next] fun d hd => by
      obtain rfl := List.mem_singleton.mp hd
      exact ⟨hnext, rfl⟩)
    have hodd : hasEvenRuns false c.literal = false := Bool.eq_false_iff.mpr hnot
    have hlength := length_columnsOf_of_odd hword ⟨c, hc, hodd⟩ hnext rfl
    have hshort := congrArg List.length hnames
    have hlong := congrArg List.length hmore
    simp only [List.length_map, List.length_cons, List.length_append, List.length_nil] at hshort hlong
    omega

end Layouts

/-- A column whose literal ends with a backslash. -/
def pathColumn : TextColumn .postgresql := ⟨"path", ('"', '"'), doubleQuotes_mem, "C:\\", by decide⟩

/-- A column whose literal is a word. -/
def kindColumn : TextColumn .postgresql := ⟨"kind", ('"', '"'), doubleQuotes_mem, "dir", by decide⟩

/-- On one line, the second of the two columns is lost. -/
theorem not_agrees_pathColumn :
    layout " " usersName pathColumn [kindColumn] =
        "CREATE TABLE users (\"path\" TEXT DEFAULT 'C:\\', \"kind\" TEXT DEFAULT 'dir')".toList ∧
      ¬Agrees usersName pathColumn [kindColumn] := by
  refine ⟨by decide +kernel, fun h => ?_⟩
  have hnames := map_name_of_agrees h
  have hlost : (columnsOf .postgresql (bodyLines (joinColumns " " pathColumn [kindColumn]))).map (·.name) =
      ["path".toList] := by
    decide +kernel
  rw [hlost] at hnames
  cases hnames

end StructForge.Sql
