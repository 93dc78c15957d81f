import Mathlib.Data.List.TakeWhile
import StructForge.Proofs.Sql.Declarations
import StructForge.Proofs.Sql.Options

/-!
# Names in the quotes of another dialect

The readers of the dialects differ in the quotes that they take off a name. A name in quotes that a dialect does not
have is no name to its reader (`readName?_quoted`): a column of this name is no column (`columnName?_quoted`), and the
table has another name, that of the qualifier or the `IF` of a guard, or none (`Head.readHead?_text`).
-/

namespace StructForge.Sql

open Text

variable {dialect : Sql}

/-! ## Quoted names -/

/-- A name in the quotes of a dialect. -/
structure QuotedName (dialect : Sql) where
  name : Name
  quotes : Char × Char
  quotes_mem : quotes ∈ dialect.quotePairs

namespace QuotedName

/-- The name in its quotes. -/
def text (n : QuotedName dialect) : Text := n.quotes.1 :: (n.name.text ++ [n.quotes.2])

/-- Whether a dialect has the quotes of the name. -/
def IsQuotedFor (n : QuotedName dialect) (reader : Sql) : Prop := reader.nameOpeners.contains n.quotes.1 = true

instance (n : QuotedName dialect) (reader : Sql) : Decidable (n.IsQuotedFor reader) :=
  inferInstanceAs (Decidable (_ = true))

end QuotedName

/-- A dialect has the quotes of its own names. -/
theorem QuotedName.isQuotedFor_self (n : QuotedName dialect) : n.IsQuotedFor dialect :=
  (quotePairs_spec dialect n.quotes n.quotes_mem).1.1

/-- A dialect that has an opening quote has the closing one too. -/
theorem closer_of_opener (reader : Sql) : ∀ q ∈ dialect.quotePairs, reader.nameOpeners.contains q.1 = true →
    reader.nameClosers.contains q.2 = true := by
  cases dialect <;> cases reader <;> decide

/-- A quoted name is read by a dialect that has the quotes, and is no name to the others. -/
theorem readName?_quoted (reader : Sql) (n : QuotedName dialect) (u : Text) :
    reader.readName? (n.text ++ u) = if n.IsQuotedFor reader then some (n.name.text, u) else none := by
  obtain ⟨_, ⟨_, hopen, hclose, _⟩, _⟩ := quotePairs_spec dialect n.quotes n.quotes_mem
  have htext : n.text ++ u = n.quotes.1 :: (n.name.text ++ n.quotes.2 :: u) := by simp [QuotedName.text]
  have hword : takeWord (n.name.text ++ n.quotes.2 :: u) = (n.name.text, n.quotes.2 :: u) :=
    takeWord_append_of n.name.word (by simp [atWordEnd, hclose])
  by_cases h : reader.nameOpeners.contains n.quotes.1 = true
  · obtain ⟨c, w, hname⟩ := List.exists_cons_of_ne_nil n.name.nonempty
    have hcloser := closer_of_opener reader n.quotes n.quotes_mem h
    rw [if_pos (show n.IsQuotedFor reader from h), htext, readName?, skipOneOf, if_pos h, hword, hname]
    simp only [skipOneOf, hcloser, if_true]
  · have hnone : takeWord (n.quotes.1 :: (n.name.text ++ n.quotes.2 :: u)) =
        ([], n.quotes.1 :: (n.name.text ++ n.quotes.2 :: u)) := by
      rw [takeWord, List.takeWhile_cons_of_neg (by rw [hopen]; exact Bool.false_ne_true),
        List.dropWhile_cons_of_neg (by rw [hopen]; exact Bool.false_ne_true)]
    rw [if_neg (show ¬n.IsQuotedFor reader from h), htext, readName?, skipOneOf, if_neg h, hnone]

/-! ## Columns -/

/-- The name of the column on a line, for the reader of a dialect. -/
def columnName? (reader : Sql) (line : Text) : Option Text := (Line.read reader line).column?.map (·.name)

/-- Whether a type stands behind a name. -/
def startsType (t : Text) : Bool :=
  match afterBlanks? t with
  | none => false
  | some r => !(takeWord r).1.isEmpty

/-- The readers of the dialects differ in the constraints and names that they know. -/
theorem columnName?_eq (reader : Sql) (line : Text) :
    columnName? reader line =
      if reader.isConstraint line then none
      else ((reader.readName? line).filter fun x => startsType x.2).map Prod.fst := by
  rw [columnName?, column?_read]
  split
  · rfl
  · rw [readColumn?_eq]
    cases reader.readName? line with
    | none => rfl
    | some x =>
      rw [Option.bind_some, Option.filter_some, startsType]
      cases afterBlanks? x.2 with
      | none => rfl
      | some r =>
        have htype := isSome_readTypeText? reader r
        rw [Option.bind_some]
        cases hread : reader.readTypeText? r with
        | none =>
          rw [hread] at htype
          simp [← htype]
        | some y =>
          rw [hread] at htype
          simp [← htype]

/-- A line that starts with a quote is no constraint. -/
theorem isConstraint_quoted (reader : Sql) (n : QuotedName dialect) (u : Text) :
    reader.isConstraint (n.text ++ u) = false := by
  obtain ⟨_, ⟨hblank, hword, _⟩, _⟩ := quotePairs_spec dialect n.quotes n.quotes_mem
  have htext : n.text ++ u = [] ++ n.quotes.1 :: (n.name.text ++ n.quotes.2 :: u) := by simp [QuotedName.text]
  rw [htext, isConstraint_stop hblank hword]
  cases reader <;> decide

/-- A column with a quoted name is one to the dialects that have the quotes. -/
theorem columnName?_quoted (reader : Sql) (n : QuotedName dialect) (u : Text) :
    columnName? reader (n.text ++ u) = if n.IsQuotedFor reader && startsType u then some n.name.text else none := by
  rw [columnName?_eq, isConstraint_quoted, readName?_quoted]
  by_cases h : n.IsQuotedFor reader
  · by_cases ht : startsType u <;> simp [h, ht]
  · simp [h]

/-- The constraints of SQLite are constraints of every dialect. -/
theorem isConstraint_of_sqlite (reader : Sql) {line : Text} (h : Sql.sqlite.isConstraint line = true) :
    reader.isConstraint line = true := by
  have hmem : ∀ p ∈ Sql.sqlite.constraintPhrases, p ∈ reader.constraintPhrases := by cases reader <;> decide
  obtain ⟨p, hp, hsome⟩ := List.any_eq_true.mp h
  exact List.any_eq_true.mpr ⟨p, hmem p hp, hsome⟩

/-- More quotes to take off make no difference to a text that starts with none of them. -/
theorem skipOneOf_of_subset {cs ds : List Char} (hsub : ∀ c ∈ cs, ds.contains c = true) {t : Text}
    (hother : ∀ c ∈ t.head?, cs.contains c = false → ds.contains c = false) : skipOneOf ds t = skipOneOf cs t := by
  cases t with
  | nil => rfl
  | cons c t =>
    cases hc : cs.contains c with
    | true => simp only [skipOneOf, hc, hsub c (by simpa using hc)]
    | false => simp only [skipOneOf, hc, hother c rfl hc]

/-- A name in front of a type is the same to the reader of SQLite, which takes off the quotes of every dialect. -/
theorem readName?_sqlite {reader : Sql} {line : Text} {x : Text × Text} (h : reader.readName? line = some x)
    (htype : startsType x.2 = true) : Sql.sqlite.readName? line = some x := by
  have hopeners : ∀ c ∈ reader.nameOpeners, Sql.sqlite.nameOpeners.contains c = true := by cases reader <;> decide
  have hclosers : ∀ c ∈ reader.nameClosers, Sql.sqlite.nameClosers.contains c = true := by cases reader <;> decide
  have hblank : ∀ c ∈ Sql.sqlite.nameClosers, isBlank c = false := by decide
  rw [readName?] at h
  split at h
  · cases h
  · rename_i name behind hne hword
    simp only [Option.some.injEq] at h
    subst h
    -- the name starts with a word character, and the type with a blank
    have hstart : ∀ c ∈ line.head?, reader.nameOpeners.contains c = false →
        Sql.sqlite.nameOpeners.contains c = false := by
      intro c hc hno
      refine Bool.eq_false_iff.mpr fun hyes => hne ?_
      obtain ⟨l, rfl⟩ : ∃ l, line = c :: l := List.head?_eq_some_iff.mp hc
      have hc : ¬isWordChar c = true := by
        rw [not_isWordChar_of_opener hyes]
        exact Bool.false_ne_true
      have hname := congrArg Prod.fst hword
      simp only [skipOneOf, hno, Bool.false_eq_true, if_false, takeWord, List.takeWhile_cons_of_neg hc] at hname
      exact hname.symm
    have hend : ∀ c ∈ behind.head?, reader.nameClosers.contains c = false →
        Sql.sqlite.nameClosers.contains c = false := by
      intro c hc hno
      refine Bool.eq_false_iff.mpr fun hyes => ?_
      obtain ⟨b, rfl⟩ : ∃ b, behind = c :: b := List.head?_eq_some_iff.mp hc
      simp only [skipOneOf, hno, Bool.false_eq_true, if_false, startsType, afterBlanks?,
        hblank c (by simpa using hyes)] at htype
    rw [readName?, skipOneOf_of_subset hopeners hstart, hword]
    simp only [skipOneOf_of_subset hclosers hend]

/-- What is a column to any dialect is one to SQLite. -/
theorem columnName?_sqlite {reader : Sql} {line name : Text} (h : columnName? reader line = some name) :
    columnName? .sqlite line = some name := by
  rw [columnName?_eq] at h ⊢
  split at h
  · cases h
  · rename_i hconstraint
    rw [if_neg fun hsqlite => hconstraint (isConstraint_of_sqlite reader hsqlite)]
    obtain ⟨x, hx, rfl⟩ := Option.map_eq_some_iff.mp h
    obtain ⟨hread, htype⟩ := Option.filter_eq_some_iff.mp hx
    rw [readName?_sqlite hread htype, Option.filter_some, if_pos htype, Option.map_some]

/-- The fields of columns are named as these are. -/
theorem map_sourceName_of_mapM {reader : Sql} {cs : List ColumnText} {fields : List Field}
    (h : cs.mapM (ColumnText.toField reader) = .ok fields) : fields.map (·.sourceName) = cs.map (·.name) := by
  have hfields := mapM_eq_ok_iff.mp h
  clear h
  induction hfields with
  | nil => rfl
  | cons hfield _ ih =>
    obtain ⟨goType, -, rfl⟩ := exists_goType_of_toField hfield
    rw [List.map_cons, List.map_cons, ih]
    rfl

/-- The names of the columns among some lines. -/
theorem map_name_columnsOf (reader : Sql) (lines : List Text) :
    (columnsOf reader lines).map (·.name) = lines.filterMap (columnName? reader) := List.map_filterMap

/-! ## Names of tables -/

/-- What stands in front of the name of a table and a dot. -/
inductive Qualifier (dialect : Sql) where
  | bare (name : Name)
  | quoted (name : QuotedName dialect)

namespace Qualifier

/-- The qualifier as it is written. -/
def text : Qualifier dialect → Text
  | bare name => name.text
  | quoted n => n.text

/-- The qualifier without its quotes. -/
def name : Qualifier dialect → Name
  | bare name => name
  | quoted n => n.name

/-- Whether a dialect has the quotes of the qualifier, if there are any. -/
def IsQuotedFor (reader : Sql) : Qualifier dialect → Prop
  | bare _ => True
  | quoted n => n.IsQuotedFor reader

instance (reader : Sql) : (q : Qualifier dialect) → Decidable (q.IsQuotedFor reader)
  | bare _ => isTrue trivial
  | quoted n => inferInstanceAs (Decidable (n.IsQuotedFor reader))

theorem readName?_text (reader : Sql) (u : Text) : ∀ q : Qualifier dialect,
    reader.readName? (q.text ++ '.' :: u) = if q.IsQuotedFor reader then some (q.name.text, '.' :: u) else none
  | bare name => by
    have hdot : skipOneOf reader.nameClosers ('.' :: u) = '.' :: u := by cases reader <;> rfl
    rw [text, readName?_bare reader name.nonempty name.word (by rfl), hdot]
    exact (if_pos trivial).symm
  | quoted n => readName?_quoted reader n ('.' :: u)

end Qualifier

/-- The name of a table in quotes, perhaps with a qualifier in front. -/
structure TableName (dialect : Sql) where
  qualifier : Option (Qualifier dialect)
  name : QuotedName dialect

namespace TableName

/-- The name of the table as it is written. -/
def text (n : TableName dialect) : Text :=
  match n.qualifier with
  | none => n.name.text
  | some q => q.text ++ '.' :: n.name.text

/-- The name of the table for the reader of a dialect: a qualifier is taken for the table if there is no name behind
it. -/
def seen? (n : TableName dialect) (reader : Sql) : Option Text :=
  let name := if n.name.IsQuotedFor reader then some n.name.name.text else none
  match n.qualifier with
  | none => name
  | some q => if q.IsQuotedFor reader then name.or (some q.name.text) else none

/-- The name of a table is read as it is seen. -/
theorem readTableName?_text (reader : Sql) (n : TableName dialect) {rest : Text}
    (hrest : n.qualifier = none → rest.head? ≠ some '.') :
    (reader.readTableName? (n.text ++ rest)).map Prod.fst = n.seen? reader := by
  have hquoted := readName?_quoted reader n.name rest
  cases hq : n.qualifier with
  | none =>
    simp only [text, hq, readTableName?, hquoted, seen?]
    by_cases h : n.name.IsQuotedFor reader
    · have hdot := hrest hq
      rcases rest with _ | ⟨c, rest⟩
      · simp [h]
      · have hc : c ≠ '.' := fun e => hdot (by rw [e]; rfl)
        simp [h, hc]
    · simp [h]
  | some q =>
    have hqualifier := q.readName?_text reader (n.name.text ++ rest)
    simp only [text, hq, seen?, readTableName?, List.append_assoc, List.cons_append, hqualifier]
    by_cases h : q.IsQuotedFor reader
    · simp only [h, if_true, hquoted]
      by_cases hn : n.name.IsQuotedFor reader
      · simp [hn]
      · simp [hn]
    · simp [h]

/-- The name of a table starts with a quote, or with a bare qualifier. -/
theorem text_cases (n : TableName dialect) : (∃ c v, n.text = c :: v ∧ isBlank c = false ∧ isWordChar c = false) ∨
    ∃ name : Name, ∃ v, n.text = name.text ++ '.' :: v := by
  have hquoted : ∀ m : QuotedName dialect, isBlank m.quotes.1 = false ∧ isWordChar m.quotes.1 = false := fun m =>
    have hspec := (quotePairs_spec dialect m.quotes m.quotes_mem).2.1
    ⟨hspec.1, hspec.2.1⟩
  cases hq : n.qualifier with
  | none => exact .inl ⟨_, _, by rw [text, hq]; rfl, hquoted n.name⟩
  | some q =>
    cases q with
    | bare name => exact .inr ⟨name, _, by rw [text, hq]; rfl⟩
    | quoted m => exact .inl ⟨_, _, by rw [text, hq]; rfl, hquoted m⟩

/-- The name of a table starts with no blank. -/
theorem dropWhile_isBlank_text (n : TableName dialect) (u : Text) : (n.text ++ u).dropWhile isBlank = n.text ++ u := by
  rcases n.text_cases with ⟨c, v, htext, hblank, _⟩ | ⟨name, v, htext⟩
  · rw [htext, List.cons_append, List.dropWhile_cons_of_neg (by rw [hblank]; exact Bool.false_ne_true)]
  · obtain ⟨c, w, hname⟩ := List.exists_cons_of_ne_nil name.nonempty
    rw [htext, hname]
    exact dropWhile_isBlank_of_isWordChar (name.word c (hname ▸ List.mem_cons_self)) _

/-- The name of a table is no guard. -/
theorem afterPhrase?_text (n : TableName dialect) (u : Text) :
    afterPhrase? ["if", "not", "exists"] (n.text ++ u) = none := by
  rcases n.text_cases with ⟨c, v, htext, _, hword⟩ | ⟨name, v, htext⟩
  · rw [htext]
    exact afterPhrase?_of_not_word (by decide) (by decide) hword (v ++ u)
  · rw [htext, List.append_assoc, afterPhrase?_more (by decide) name.word (by rfl)]
    exact ite_self _

end TableName

/-! ## Heads -/

/-- A phrase with blanks behind it, in front of a text that starts with no blank. -/
theorem afterPhrase?_blanks_append {ws : List Text} (hws : IsPhrase ws) {t u : Text}
    (h : (afterPhrase? ws t).bind afterBlanks? = some []) (hu : u.dropWhile isBlank = u) :
    (afterPhrase? ws (t ++ u)).bind afterBlanks? = some u := by
  obtain ⟨b, hphrase, hblanks⟩ := Option.bind_eq_some_iff.mp h
  have hb : ∀ c ∈ b, isBlank c = true := List.dropWhile_eq_nil_iff.mp (eq_dropWhile_of_afterBlanks? hblanks).symm
  have hne : b ≠ [] := by
    rintro rfl
    cases hblanks
  rw [afterPhrase?_append hws hphrase hne, Option.bind_some, afterBlanks?_append hb hne hu]

/-- The head of a statement up to its first parenthesis: `CREATE TABLE`, perhaps a guard, and the name of the table in
quotes. -/
structure Head (dialect : Sql) where
  create : Text
  create_eq : (afterPhrase? ["create", "table"] create).bind afterBlanks? = some []
  guard : Text
  guard_eq : guard = [] ∨ (afterPhrase? ["if", "not", "exists"] guard).bind afterBlanks? = some []
  name : TableName dialect
  rest : Text
  rest_eq : name.qualifier = none → rest.head? ≠ some '.'
  closed : '(' ∉ create ++ (guard ++ (name.text ++ rest))

namespace Head

variable (h : Head dialect)

/-- The head as it is written. -/
def text : Text := h.create ++ (h.guard ++ (h.name.text ++ h.rest))

/-- The name of the table for the reader of a dialect: the first word of a guard is taken for the table if there is no
name behind it. -/
def seen? (reader : Sql) : Option Text :=
  (h.name.seen? reader).or (if h.guard = [] then none else some (takeWord h.guard).1)

/-- A guard is a word, a blank, and more. -/
theorem exists_guard (hne : h.guard ≠ []) : ∃ (w : Name) (c : Char) (v : Text),
    h.guard = w.text ++ c :: v ∧ isBlank c = true := by
  obtain ⟨b, hphrase, _⟩ := Option.bind_eq_some_iff.mp (h.guard_eq.resolve_left hne)
  have hfirst := firstWord_of_afterPhrase? (by decide) hphrase
  have hw : (takeWord h.guard).1 ≠ [] := fun e => by rw [e] at hfirst; cases hfirst
  have hchars : ∀ c ∈ (takeWord h.guard).1, isWordChar c = true := List.all_eq_true.mp List.all_takeWhile
  have happend := takeWord_append h.guard
  rw [← happend, afterPhrase?_more (by decide) hchars (atWordEnd_takeWord h.guard), if_pos hfirst] at hphrase
  obtain ⟨t, ht, _⟩ := Option.bind_eq_some_iff.mp hphrase
  cases hbehind : (takeWord h.guard).2 with
  | nil =>
    rw [hbehind] at ht
    cases ht
  | cons c v =>
    rw [hbehind] at ht happend
    refine ⟨⟨_, hw, hchars⟩, c, v, happend.symm, ?_⟩
    rw [afterBlanks?] at ht
    split at ht
    · assumption
    · cases ht

/-- Behind `CREATE TABLE`, the head goes on without a blank. -/
theorem dropWhile_isBlank_guard :
    (h.guard ++ (h.name.text ++ h.rest)).dropWhile isBlank = h.guard ++ (h.name.text ++ h.rest) := by
  by_cases hne : h.guard = []
  · rw [hne]
    exact h.name.dropWhile_isBlank_text h.rest
  · obtain ⟨w, c, v, hguard, _⟩ := h.exists_guard hne
    obtain ⟨d, u, hw⟩ := List.exists_cons_of_ne_nil w.nonempty
    rw [hguard, hw]
    exact dropWhile_isBlank_of_isWordChar (w.word d (hw ▸ List.mem_cons_self)) _

/-- The first word of a guard is a name to every dialect. -/
theorem readTableName?_guard (reader : Sql) (hne : h.guard ≠ []) (u : Text) :
    (reader.readTableName? (h.guard ++ u)).map Prod.fst = some (takeWord h.guard).1 := by
  obtain ⟨w, c, v, hguard, hc⟩ := h.exists_guard hne
  have hend : ∀ t, atWordEnd (c :: t) = true := fun t => by simp [atWordEnd, isWordChar_of_isBlank hc]
  have hquote : ∀ q ∈ reader.nameClosers, isBlank q = false := by cases reader <;> decide
  have hskip : skipOneOf reader.nameClosers (c :: (v ++ u)) = c :: (v ++ u) := by
    have hnot : ¬reader.nameClosers.contains c = true := fun hmem => by
      rw [hquote c (by simpa using hmem)] at hc
      cases hc
    rw [skipOneOf, if_neg hnot]
  have hname : reader.readName? (h.guard ++ u) = some (w.text, c :: (v ++ u)) := by
    rw [hguard, List.append_assoc, List.cons_append, readName?_bare reader w.nonempty w.word (hend _), hskip]
  have hdot : c ≠ '.' := fun e => absurd (e ▸ hc) (by decide)
  rw [readTableName?, hname, hguard, takeWord_append_of w.word (hend v)]
  simp [hdot]

/-- A dialect sees the name of the table in its own statements. -/
theorem seen?_self : h.seen? dialect = some h.name.name.name.text := by
  have hself := h.name.name.isQuotedFor_self
  rw [seen?, TableName.seen?]
  cases h.name.qualifier with
  | none => simp [hself]
  | some q =>
    have hq : q.IsQuotedFor dialect := by
      cases q with
      | bare name => trivial
      | quoted n => exact n.isQuotedFor_self
    simp [hself, hq]

/-- The head of a statement is read as it is seen. -/
theorem readHead?_text (reader : Sql) : (reader.readHead? h.text).map Prod.fst = h.seen? reader := by
  have hcreate := afterPhrase?_blanks_append (by decide) h.create_eq h.dropWhile_isBlank_guard
  have hname := h.name.readTableName?_text reader h.rest_eq
  rw [readHead?, text, Option.bind_eq_bind, hcreate, Option.bind_some, seen?, ← hname]
  rcases h.guard_eq with hguard | hguard
  · rw [hguard, List.nil_append, h.name.afterPhrase?_text]
    simp
  · have hbehind := afterPhrase?_blanks_append (by decide) hguard (h.name.dropWhile_isBlank_text h.rest)
    have hne : h.guard ≠ [] := by
      intro hnil
      rw [hnil] at hguard
      cases hguard
    have hword := h.readTableName?_guard reader hne (h.name.text ++ h.rest)
    simp only [hbehind, Option.bind_some, Option.map_or, hword, if_neg hne]

end Head

end StructForge.Sql
