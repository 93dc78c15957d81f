import StructForge.Detection
import StructForge.Proofs.Sql.Declarations

/-!
# Markers in names and literals

Markers are searched for in the whole text of a statement, within quotes too. No marker is read over a quote, so a text
has the markers that are in front of the quotes, between them and behind them (`isMarked_text`). A name is a marker as a
whole or not at all (`isMarked_name`), while a literal may have markers anywhere. So what stands between two quotes
decides the dialect together with what stands around them, and `sqlDialect_agree_iff` tells which names and which
contents of a literal can stand for each other.
-/

namespace StructForge.Detection

open Text

/-! ## Marked texts -/

/-- Whether a text has a marker of a dialect. -/
def isMarked (dialect : Sql) (t : Text) : Bool := (search (readMarker? dialect) false t).isSome

theorem isSome_search_map {read : Bool → Text → Option Text} (f : Text → Text → Text) : ∀ (b : Bool) (t : Text),
    (search (fun b here => (read b here).map (f here)) b t).isSome = (search read b t).isSome
  | _, [] => Option.isSome_map
  | b, c :: t => by
    simp only [search]
    cases read b (c :: t) with
    | some r => rfl
    | none => exact isSome_search_map f _ t

theorem isSome_marker? (dialect : Sql) (t : Text) : (marker? dialect t).isSome = isMarked dialect t :=
  isSome_search_map consumed false t

/-- A text marked for PostgreSQL is PostgreSQL, and a text marked for SQLite but not for MySQL is SQLite. -/
theorem sqlDialect_eq (t : Text) :
    sqlDialect t =
      if isMarked .postgresql t then .postgresql
      else if isMarked .sqlite t && !isMarked .mysql t then .sqlite else .mysql := by
  simp only [← isSome_marker?, sqlDialect, markedDialect?, List.findSome?_cons, List.findSome?_nil]
  cases marker? .postgresql t with
  | some m => rfl
  | none =>
    cases marker? .mysql t with
    | some m => simp
    | none =>
      cases marker? .sqlite t with
      | some m => rfl
      | none => rfl

/-! ## Words and longer markers -/

/-- The words that are markers by themselves. -/
def markerWords : Sql → List Text
  | .postgresql => ["serial", "bigserial", "smallserial", "uuid", "jsonb", "timestamptz"]
  | .mysql => ["auto_increment", "tinyint"]
  | .sqlite => ["autoincrement"]

/-- Reads a marker that is more than a word. -/
def readLongMarker? : Sql → Text → Option Text
  | .postgresql, t => (afterMarked? "text" "[]" t).or (afterWholePhrase? ["timestamp", "with", "time", "zone"] t)
  | .mysql, t => afterMarked? "comment" "'" t
  | .sqlite, _ => none

theorem readMarker?_eq (dialect : Sql) (t : Text) :
    readMarker? dialect false t =
      (anyWholePhrase? ((markerWords dialect).map ([·])) t).or (readLongMarker? dialect t) := by
  cases dialect with
  | postgresql => rfl
  | mysql => rfl
  | sqlite =>
    have hone : anyWholePhrase? [["autoincrement"]] t = afterWholePhrase? ["autoincrement"] t := by
      rw [anyWholePhrase?, List.findSome?_singleton]
    exact hone.symm.trans Option.or_none.symm

theorem isPhrase_markerWords (dialect : Sql) : ∀ w ∈ markerWords dialect, IsPhrase [w] := by
  cases dialect <;> decide

/-! ## Markers and quotes -/

/-- A quote that no marker is read over, with what stands behind it. Of the brackets in `TEXT[]` only an opening one
can be read over, and only if the other follows. -/
structure Ends (c : Char) (u : Text) : Prop where
  not_blank : isBlank c = false
  not_word : isWordChar c = false
  not_brackets : c = '[' → afterPrefix? "]" u = none

section Quote

variable {c : Char} {u : Text} (h : Ends c u)
include h

theorem afterMarked?_last {word mark : Text} (hword : ∀ d ∈ word, isWordChar d = true)
    (hmark : ∀ p s, mark = p ++ c :: s → s = [] ∨ afterPrefix? s u = none) (t : Text) :
    afterMarked? word mark (t ++ c :: u) = (afterMarked? word mark (t ++ [c])).map (· ++ u) := by
  have hfold := foldChar_not_mem h.not_word hword
  unfold afterMarked?
  rw [afterKeyword?_stop hfold t u, afterKeyword?_stop hfold t []]
  cases afterKeyword? word t with
  | none => rfl
  | some r =>
    simp only [Option.map_some, Option.bind_some, dropWhile_stop h.not_blank]
    exact afterPrefix?_last hmark _

theorem afterWholePhrase?_last {phrase : List Text} (hphrase : IsPhrase phrase) (t : Text) :
    afterWholePhrase? phrase (t ++ c :: u) = (afterWholePhrase? phrase (t ++ [c])).map (· ++ u) := by
  have hfold := hphrase.foldChar_not_mem h.not_word
  rw [afterWholePhrase?_stop h.not_blank h.not_word hfold t u,
    afterWholePhrase?_stop h.not_blank h.not_word hfold t []]
  cases afterWholePhrase? phrase t <;> simp

theorem anyWholePhrase?_last (t : Text) : ∀ {words : List Text}, (∀ w ∈ words, IsPhrase [w]) →
    anyWholePhrase? (words.map ([·])) (t ++ c :: u) = (anyWholePhrase? (words.map ([·])) (t ++ [c])).map (· ++ u)
  | [], _ => rfl
  | w :: words, hwords => by
    have ih := anyWholePhrase?_last t (fun v hv => hwords v (List.mem_cons_of_mem w hv))
    have hword := afterWholePhrase?_last h (hwords w List.mem_cons_self) t
    unfold anyWholePhrase? at ih ⊢
    rw [List.map_cons, List.findSome?_cons, List.findSome?_cons, hword, ih]
    cases afterWholePhrase? [w] (t ++ [c]) <;> rfl

theorem readLongMarker?_last (dialect : Sql) (t : Text) :
    readLongMarker? dialect (t ++ c :: u) = (readLongMarker? dialect (t ++ [c])).map (· ++ u) := by
  cases dialect with
  | postgresql =>
    have hbrackets : ∀ p s, ['[', ']'] = p ++ c :: s → s = [] ∨ afterPrefix? s u = none := by
      intro p s hps
      cases p with
      | nil =>
        obtain ⟨hopen, rfl⟩ := List.cons.inj hps
        exact .inr (h.not_brackets hopen.symm)
      | cons a p =>
        have hlength := congrArg List.length hps
        simp only [List.length_cons, List.length_append, List.length_nil] at hlength
        exact .inl (List.length_eq_zero_iff.mp (by omega))
    have harray : afterMarked? "text" "[]" (t ++ c :: u) = (afterMarked? "text" "[]" (t ++ [c])).map (· ++ u) :=
      afterMarked?_last h (by decide) hbrackets t
    have hzone : afterWholePhrase? ["timestamp", "with", "time", "zone"] (t ++ c :: u) =
        (afterWholePhrase? ["timestamp", "with", "time", "zone"] (t ++ [c])).map (· ++ u) :=
      afterWholePhrase?_last h (by decide) t
    rw [readLongMarker?, readLongMarker?, harray, hzone, Option.map_or]
  | mysql =>
    refine afterMarked?_last h (by decide) (fun p s hps => .inl ?_) t
    have hlength : ['\''].length = (p ++ c :: s).length := congrArg List.length hps
    simp only [List.length_cons, List.length_append, List.length_nil] at hlength
    exact List.length_eq_zero_iff.mp (by omega)
  | sqlite => rfl

/-- A marker that ends with a quote is read up to it, and every other one in front of it. -/
theorem readMarker?_last (dialect : Sql) (b : Bool) (t : Text) :
    readMarker? dialect b (t ++ c :: u) = (readMarker? dialect b (t ++ [c])).map (· ++ u) := by
  cases b with
  | true => rfl
  | false =>
    rw [readMarker?_eq, readMarker?_eq, anyWholePhrase?_last h t (isPhrase_markerWords dialect),
      readLongMarker?_last h, Option.map_or]

/-- A text has the markers in front of a quote and behind it. -/
theorem isMarked_quote (dialect : Sql) (t : Text) :
    isMarked dialect (t ++ c :: u) = (isMarked dialect (t ++ [c]) || isMarked dialect u) := by
  have hnil : ∀ b, readMarker? dialect b [] = none := by
    intro b
    cases dialect <;> cases b <;> rfl
  unfold isMarked
  rw [search_last (readMarker?_last h dialect) hnil, h.not_word, Option.isSome_or, Option.isSome_map]

end Quote

/-! ## Names between quotes -/

section Name

variable {c : Char}

/-- In front of a quote, a word that wants a mark behind it is the whole name, and the quote is the mark. -/
theorem isSome_afterMarked?_name (hblank : isBlank c = false) (hword : isWordChar c = false) {word mark : Text}
    (hmark : ∃ a m, mark = a :: m ∧ isWordChar a = false) (hchars : ∀ d ∈ word, isWordChar d = true) (name : Sql.Name) :
    (afterMarked? word mark (name.text ++ [c])).isSome = true ↔ name.text.map foldChar = word ∧ mark = [c] := by
  obtain ⟨a, m, rfl, ha⟩ := hmark
  have hfold := foldChar_not_mem hword hchars
  unfold afterMarked?
  rw [afterKeyword?_stop hfold name.text []]
  cases hread : afterKeyword? word name.text with
  | none =>
    refine iff_of_false (by simp) ?_
    rintro ⟨rfl, _⟩
    have happend := afterKeyword?_append name.text []
    rw [List.append_nil, hread] at happend
    cases happend
  | some r =>
    obtain ⟨k, rfl, hname⟩ := eq_append_of_afterKeyword? hread
    simp only [Option.map_some, Option.bind_some, dropWhile_stop hblank]
    cases r with
    | nil =>
      rw [List.append_nil] at hname
      cases m <;> simp [afterPrefix?, hname]
    | cons d r =>
      have hd : isWordChar d = true := name.word d (by simp [hname])
      have had : a ≠ d := fun e => by rw [e, hd] at ha; cases ha
      refine iff_of_false ?_ ?_
      · simp [dropWhile_isBlank_of_isWordChar hd, afterPrefix?, had]
      · rintro ⟨hfolds, _⟩
        have hlength := congrArg List.length hfolds
        simp only [hname, List.length_map, List.length_append, List.length_cons] at hlength
        omega

/-- In front of a quote, a word that is looked for is the whole name. -/
theorem isSome_anyWholePhrase?_name (hword : isWordChar c = false) {words : List Text}
    (hwords : ∀ w ∈ words, IsPhrase [w]) (name : Sql.Name) :
    (anyWholePhrase? (words.map ([·])) (name.text ++ [c])).isSome = true ↔ name.text.map foldChar ∈ words := by
  have hend : atWordEnd [c] = true := by simp [atWordEnd, hword]
  have hone : ∀ w ∈ words, ((afterWholePhrase? [w] (name.text ++ [c])).isSome = true ↔ name.text.map foldChar = w) :=
    fun w hw => afterWholePhrase?_one (hwords w hw w List.mem_cons_self).2 name.word hend
  rw [anyWholePhrase?, List.findSome?_isSome_iff]
  constructor
  · rintro ⟨p, hp, hsome⟩
    obtain ⟨w, hw, rfl⟩ := List.mem_map.mp hp
    rw [(hone w hw).mp hsome]
    exact hw
  · intro hmem
    exact ⟨_, List.mem_map_of_mem hmem, (hone _ hmem).mpr rfl⟩

/-- Whether a name in small letters is a marker in front of a quote. -/
def isNameMarker (dialect : Sql) (close : Char) (word : Text) : Bool :=
  (markerWords dialect).contains word || (dialect = .mysql && close = '\'' && word = ("comment" : Text))

theorem isSome_readLongMarker?_name (hblank : isBlank c = false) (hword : isWordChar c = false) (dialect : Sql)
    (name : Sql.Name) :
    (readLongMarker? dialect (name.text ++ [c])).isSome = true ↔
      dialect = .mysql ∧ c = '\'' ∧ name.text.map foldChar = "comment" := by
  cases dialect with
  | postgresql =>
    have harray : (afterMarked? "text" "[]" (name.text ++ [c])).isSome = true ↔
        name.text.map foldChar = "text" ∧ ("[]" : Text) = [c] :=
      isSome_afterMarked?_name hblank hword ⟨'[', [']'], rfl, by decide⟩ (by decide) name
    have hzone : afterWholePhrase? ["timestamp", "with", "time", "zone"] (name.text ++ [c]) = none := by
      rw [afterWholePhrase?_more (by decide) name.word (by simp [atWordEnd, hword])]
      simp only [afterBlanks?, hblank, Bool.false_eq_true, if_false, Option.bind_none, ite_self]
    rw [readLongMarker?, hzone, Option.or_none, harray]
    refine iff_of_false ?_ ?_
    · rintro ⟨_, hmark⟩
      cases hmark
    · rintro ⟨hdialect, _⟩
      cases hdialect
  | mysql =>
    have hcomment : (afterMarked? "comment" "'" (name.text ++ [c])).isSome = true ↔
        name.text.map foldChar = "comment" ∧ ("'" : Text) = [c] :=
      isSome_afterMarked?_name hblank hword ⟨'\'', [], rfl, by decide⟩ (by decide) name
    rw [readLongMarker?, hcomment]
    constructor
    · rintro ⟨hname, hmark⟩
      exact ⟨rfl, (List.cons.inj hmark).1.symm, hname⟩
    · rintro ⟨_, rfl, hname⟩
      exact ⟨hname, rfl⟩
  | sqlite =>
    refine iff_of_false Bool.false_ne_true ?_
    rintro ⟨hdialect, _⟩
    cases hdialect

/-- A name between quotes is a marker as a whole or not at all. -/
theorem isMarked_name (hblank : isBlank c = false) (hword : isWordChar c = false) (dialect : Sql) (name : Sql.Name) :
    isMarked dialect (name.text ++ [c]) = isNameMarker dialect c (name.text.map foldChar) := by
  have hnil : readMarker? dialect false [] = none := by cases dialect <;> rfl
  have hread : isMarked dialect (name.text ++ [c]) = (readMarker? dialect false (name.text ++ [c])).isSome := by
    obtain ⟨d, w, hname⟩ := List.exists_cons_of_ne_nil name.nonempty
    have hd : isWordChar d = true := name.word d (by simp [hname])
    have hskip : search (readMarker? dialect) true (w ++ [c]) = search (readMarker? dialect) true [c] :=
      search_within_word (fun _ => rfl) [c] fun a ha => name.word a (hname ▸ List.mem_cons_of_mem d ha)
    have hclose : search (readMarker? dialect) true [c] = none := by
      rw [search, hword]
      exact hnil
    rw [isMarked, hname, List.cons_append, search, hd, hskip, hclose]
    cases readMarker? dialect false (d :: (w ++ [c])) <;> rfl
  rw [hread, readMarker?_eq, Option.isSome_or, Bool.eq_iff_iff, Bool.or_eq_true,
    isSome_anyWholePhrase?_name hword (isPhrase_markerWords dialect), isSome_readLongMarker?_name hblank hword]
  simp only [isNameMarker, Bool.or_eq_true, List.contains_iff_mem, Bool.and_eq_true, decide_eq_true_eq, and_assoc]

end Name

/-! ## Statements with a place between quotes -/

/-- What is quoted: the content of a literal, or a name in the quotes of a dialect. -/
inductive Slot where
  | literal
  | name (quotes : Char × Char) (ofDialect : ∃ dialect : Sql, quotes ∈ dialect.quotePairs)

namespace Slot

/-- The quotes around it. -/
def quotes : Slot → Char × Char
  | literal => ('\'', '\'')
  | name quotes _ => quotes

/-- What may stand between the quotes: any content of a literal, and word characters as a name. -/
def Content : Slot → Type
  | literal => Text
  | name _ _ => Sql.Name

/-- The content as it is written. -/
def text : (s : Slot) → s.Content → Text
  | literal, x => x
  | name _ _, x => x.text

/-- Whether the content has a marker of a dialect: a literal somewhere, its closing quote included, and a name as a
whole. -/
def spells (dialect : Sql) : (s : Slot) → s.Content → Bool
  | literal, x => isMarked dialect (literal.text x ++ ['\''])
  | name quotes _, x => isNameMarker dialect quotes.2 (x.text.map foldChar)

/-- The quotes of names are neither blanks nor word characters, and only an opening one is an opening bracket. -/
theorem quotePairs_ends (dialect : Sql) : ∀ q ∈ dialect.quotePairs,
    (isBlank q.1 = false ∧ isWordChar q.1 = false) ∧ isBlank q.2 = false ∧ isWordChar q.2 = false ∧ q.2 ≠ '[' := by
  cases dialect <;> decide

/-- No marker is read over the opening quote: a name starts with a word character. -/
theorem ends_open : ∀ (s : Slot) (x : s.Content) (u : Text), Ends s.quotes.1 (s.text x ++ u)
  | literal, _, _ => ⟨by decide, by decide, nofun⟩
  | name quotes ⟨dialect, hmem⟩, x, u => by
    obtain ⟨⟨hblank, hword⟩, _⟩ := quotePairs_ends dialect quotes hmem
    refine ⟨hblank, hword, fun _ => ?_⟩
    obtain ⟨d, w, hname⟩ := List.exists_cons_of_ne_nil x.nonempty
    have hd : isWordChar d = true := x.word d (hname ▸ List.mem_cons_self)
    have hne : ']' ≠ d := fun e => absurd (e ▸ hd) (by decide)
    show afterPrefix? [']'] (x.text ++ u) = none
    rw [hname, List.cons_append, afterPrefix?, if_neg hne]

/-- No marker is read over the closing quote. -/
theorem ends_close : ∀ (s : Slot) (u : Text), Ends s.quotes.2 u
  | literal, _ => ⟨by decide, by decide, nofun⟩
  | name quotes ⟨dialect, hmem⟩, _ => by
    obtain ⟨_, hblank, hword, hopen⟩ := quotePairs_ends dialect quotes hmem
    exact ⟨hblank, hword, fun e => absurd e hopen⟩

/-- What the content spells is what is found in it up to the closing quote. -/
theorem isMarked_text (dialect : Sql) : ∀ (s : Slot) (x : s.Content),
    isMarked dialect (s.text x ++ [s.quotes.2]) = s.spells dialect x
  | literal, _ => rfl
  | name quotes ⟨dialect', hmem⟩, x =>
    have hclose := (quotePairs_ends dialect' quotes hmem).2
    isMarked_name hclose.1 hclose.2.1 dialect x

end Slot

/-- A text with a place in it where something is quoted. -/
structure Place where
  front : Text
  slot : Slot
  back : Text

namespace Place

variable (p : Place) (x y : p.slot.Content)

/-- The text with a content in its place. -/
def text : Text := p.front ++ p.slot.quotes.1 :: (p.slot.text x ++ p.slot.quotes.2 :: p.back)

/-- Whether there is a marker of a dialect around the place: in front, the opening quote included, or behind. -/
def around (dialect : Sql) : Bool := isMarked dialect (p.front ++ [p.slot.quotes.1]) || isMarked dialect p.back

/-- Whether the text is marked for PostgreSQL. -/
def isPostgresql : Bool := p.around .postgresql || p.slot.spells .postgresql x

/-- Whether the text is marked for SQLite and not for MySQL. -/
def isSqlite : Bool :=
  (p.around .sqlite || p.slot.spells .sqlite x) && !(p.around .mysql || p.slot.spells .mysql x)

/-- The markers of the text are around the place or in its content. -/
theorem isMarked_text (dialect : Sql) :
    isMarked dialect (p.text x) = (p.around dialect || p.slot.spells dialect x) := by
  rw [text, isMarked_quote (p.slot.ends_open x _), isMarked_quote (p.slot.ends_close _), p.slot.isMarked_text, around,
    Bool.or_assoc, Bool.or_comm (p.slot.spells dialect x)]

theorem sqlDialect_text :
    sqlDialect (p.text x) = if p.isPostgresql x then .postgresql else if p.isSqlite x then .sqlite else .mysql := by
  rw [sqlDialect_eq, p.isMarked_text, p.isMarked_text, p.isMarked_text]
  rfl

/-- Two contents leave the same dialect exactly if they agree on PostgreSQL and, without it, on SQLite. -/
theorem sqlDialect_agree_iff :
    sqlDialect (p.text x) = sqlDialect (p.text y) ↔
      p.isPostgresql x = p.isPostgresql y ∧ (p.isPostgresql x = true ∨ p.isSqlite x = p.isSqlite y) := by
  rw [p.sqlDialect_text, p.sqlDialect_text]
  cases p.isPostgresql x <;> cases p.isPostgresql y <;> cases p.isSqlite x <;> cases p.isSqlite y <;> simp

end Place

/-- A statement with one column. -/
def keyColumn : Place where
  front := "CREATE TABLE t ("
  slot := .name ('\x60', '\x60') ⟨.mysql, List.mem_singleton_self _⟩
  back := " VARCHAR(36))"

/-- A column that is named like a type of PostgreSQL makes the statement one of PostgreSQL. -/
theorem sqlDialect_keyColumn_uuid :
    keyColumn.text ⟨"id", by decide, by decide⟩ = "CREATE TABLE t (\x60id\x60 VARCHAR(36))" ∧
      keyColumn.text ⟨"uuid", by decide, by decide⟩ = "CREATE TABLE t (\x60uuid\x60 VARCHAR(36))" ∧
      sqlDialect (keyColumn.text ⟨"id", by decide, by decide⟩) = .mysql ∧
      sqlDialect (keyColumn.text ⟨"uuid", by decide, by decide⟩) = .postgresql := by
  decide

end StructForge.Detection
