import StructForge.Proofs.Sql.RoundTrip
import StructForge.Proofs.Sql.SingleColumns

/-!
# Comments and where their literals end

The scan that cuts a body and the reader of comments go over the same literals. The scan is told by every backslash
that the next character is hidden, so it leaves a literal at the quote behind its content
(`content?_of_isContent`). The reader only looks one character back: it takes a quote for hidden if that is a backslash,
which may be hidden itself. So the two end a literal at different quotes exactly if its content ends in a backslash
(`CommentText.ends_agree_iff`), and then the comment of the column goes on behind its literal.

In front of both, a body is cut at commas with a newline behind, whether they stand in a literal or not. So a column
keeps its comment, whatever else that is made of, exactly if it has no such comma
(`CommentedColumn.isOnlyField_comment_iff`).
-/

namespace StructForge.Sql

open Text

/-! ## Contents of literals -/

/-- What may stand in a literal: characters other than the quote and backslashes, and backslashes with the
character that they hide. -/
inductive IsContent (quote : Char) : Text → Prop
  | nil : IsContent quote []
  | plain {c : Char} {t : Text} : c ≠ quote → c ≠ '\\' → IsContent quote t → IsContent quote (c :: t)
  | hidden (c : Char) {t : Text} : IsContent quote t → IsContent quote ('\\' :: c :: t)

theorem isContent_of_not_mem {quote : Char} : ∀ {t : Text}, quote ∉ t → '\\' ∉ t → IsContent quote t
  | [], _, _ => .nil
  | c :: t, hquote, hbackslash => by
    rw [List.mem_cons, not_or] at hquote hbackslash
    exact .plain (Ne.symm hquote.1) (Ne.symm hbackslash.1) (isContent_of_not_mem hquote.2 hbackslash.2)

/-- The text up to the character at which a scan leaves its quotes. -/
def Scan.content? (s : Scan) : Text → Option Text
  | [] => none
  | c :: t => if (s.next c).quoting = .none then some [] else ((s.next c).content? t).map (c :: ·)

/-- The scan leaves a literal at the quote behind its content. -/
theorem content?_of_isContent {quote : Char} (hquote : quote ≠ '\\') {body : Text} (h : IsContent quote body)
    (d : Int) (following : Text) :
    Scan.content? ⟨.within quote, d⟩ (body ++ quote :: following) = some body := by
  induction h with
  | nil => simp [Scan.content?, Scan.next, hquote]
  | plain hc hbackslash _ ih => simp [Scan.content?, Scan.next, hc, hbackslash, ih]
  | hidden c _ ih => simp [Scan.content?, Scan.next, ih]

/-- The reader leaves a literal at the quote behind its content, unless that has a backslash in front. -/
theorem upToQuote?_of_isContent {quote : Char} (hquote : quote ≠ '\\') {body : Text} (h : IsContent quote body)
    (following : Text) : ∀ before : Char,
    upToQuote? quote before (body ++ quote :: following) =
      if body.getLast?.getD before = '\\' then (upToQuote? quote quote following).map (body ++ quote :: ·)
      else some body := by
  induction h with
  | nil =>
    intro before
    by_cases hbefore : before = '\\' <;> simp [upToQuote?, hbefore]
  | @plain c t hc _ _ ih =>
    intro before
    rw [List.cons_append, upToQuote?, if_neg (by simp [hc]), ih c, List.getLast?_cons, Option.getD_some]
    split
    · rw [Option.map_map]
      rfl
    · rfl
  | @hidden c t _ ih =>
    intro before
    rw [List.cons_append, List.cons_append, upToQuote?, if_neg (by simp [Ne.symm hquote]), upToQuote?,
      if_neg (by simp), ih c, List.getLast?_cons_cons, List.getLast?_cons, Option.getD_some]
    split
    · rw [Option.map_map, Option.map_map]
      rfl
    · rfl

/-- What the reader takes for a content ends in no backslash. -/
theorem getLast?_of_upToQuote? {quote : Char} : ∀ {before : Char} {t content : Text},
    upToQuote? quote before t = some content → content.getLast?.getD before ≠ '\\'
  | _, [], _, h => by cases h
  | before, c :: t, content, h => by
    rw [upToQuote?] at h
    split at h
    · rename_i hc
      simp only [Bool.and_eq_true, decide_eq_true_eq] at hc
      rw [← Option.some.inj h]
      exact hc.2
    · obtain ⟨rest, hrest, rfl⟩ := Option.map_eq_some_iff.mp h
      rw [List.getLast?_cons, Option.getD_some]
      exact getLast?_of_upToQuote? hrest

/-- What is read for the content of a comment ends in no backslash. -/
theorem getLast?_of_readComment? {afterWord : Bool} {t content : Text} (h : readComment? afterWord t = some content) :
    content.getLast? ≠ some '\\' := by
  rw [readComment?] at h
  split at h
  · cases h
  · split at h
    · split at h
      · intro hlast
        have hend := getLast?_of_upToQuote? h
        rw [hlast] at hend
        exact hend rfl
      · cases h
    · cases h

/-! ## The comment of a column -/

/-- A comment in one line, or the name of the column for a blank one. -/
def oneLine (column content : Text) : Text :=
  match words content with
  | [] => column
  | word :: more => join " " (word :: more)

theorem comment_mysql (column rest : Text) :
    comment .mysql column rest = ((search readComment? false rest).map (oneLine column)).getD column := by
  rw [comment]
  cases search readComment? false rest with
  | none => rfl
  | some content =>
    rw [Option.map_some, Option.map_some, Option.getD_some, oneLine]
    cases words content <;> rfl

theorem filter_join (pieces : List Text) :
    (join " " pieces).filter (!isBlank ·) = pieces.flatten.filter (!isBlank ·) := by
  induction pieces with
  | nil => rfl
  | cons piece rest ih =>
    cases rest with
    | nil => rw [join, List.flatten_singleton]
    | cons next more =>
      have hspace : (" " : Text).filter (!isBlank ·) = [] := by decide
      rw [join_cons_of_ne_nil " " piece (List.cons_ne_nil next more), List.flatten_cons]
      simp only [List.filter_append, hspace, List.append_nil, ih]

/-- On one line, a comment keeps all that is no blank. -/
theorem filter_oneLine {content : Text} (h : words content ≠ []) (column : Text) :
    (oneLine column content).filter (!isBlank ·) = content.filter (!isBlank ·) := by
  have hone : oneLine column content = join " " (words content) := by
    rw [oneLine]
    split
    · rename_i hwords
      exact absurd hwords h
    · rename_i hwords
      rw [hwords]
  rw [hone, filter_join, words, flatten_runsOf, List.filter_filter]
  simp

/-- A text with a character that is no blank has words. -/
theorem words_ne_nil {t : Text} {c : Char} (hc : c ∈ t) (hblank : isBlank c = false) : words t ≠ [] := by
  intro h
  have hmem : c ∈ (words t).flatten := by
    rw [words, flatten_runsOf]
    exact List.mem_filter.mpr ⟨hc, by rw [hblank]; rfl⟩
  rw [h] at hmem
  cases hmem

/-! ## Reading a comment -/

theorem isBlank_quote {quote : Char} (h : quote = '\'' ∨ quote = '"') : isBlank quote = false := by
  rcases h with rfl | rfl <;> decide

/-- Behind its keyword, a comment is read up to the end of its literal. -/
theorem readComment?_comment {quote : Char} (hquote : quote = '\'' ∨ quote = '"') (t : Text) :
    readComment? false ("COMMENT " ++ quote :: t) = upToQuote? quote quote t := by
  have hkeyword : afterKeyword? "comment" ("COMMENT " ++ quote :: t) = some (" " ++ quote :: t) :=
    afterKeyword?_append "COMMENT" (" " ++ quote :: t)
  have hblanks : afterBlanks? (" " ++ quote :: t) = some (quote :: t) :=
    afterBlanks?_append (b := [' ']) (by decide) (by decide)
      (List.dropWhile_cons_of_neg (by rw [isBlank_quote hquote]; exact Bool.false_ne_true))
  rw [readComment?, if_neg Bool.false_ne_true, hkeyword, Option.bind_some, hblanks]
  exact if_pos (by simpa using hquote)

theorem readComment?_of_not_keyword {c : Char} (hc : foldChar c ≠ 'c') (afterWord : Bool) (t : Text) :
    readComment? afterWord (c :: t) = none := by
  have hkeyword : afterKeyword? "comment" (c :: t) = none := if_neg hc
  rw [readComment?, hkeyword]
  exact ite_self _

/-- The first comment of a text that starts with one: that, or the next one behind its quote. -/
theorem search_comment {quote : Char} (hquote : quote = '\'' ∨ quote = '"') (t : Text) :
    search readComment? false ("COMMENT " ++ quote :: t) =
      (upToQuote? quote quote t).or (search readComment? false t) := by
  rw [← readComment?_comment hquote]
  cases hread : readComment? false ("COMMENT " ++ quote :: t) with
  | some content => exact search_of_read hread
  | none =>
    have hfold : foldChar quote ≠ 'c' := by rcases hquote with rfl | rfl <;> decide
    have hword : isWordChar quote = false := by rcases hquote with rfl | rfl <;> decide
    calc search readComment? false ("COMMENT " ++ quote :: t)
      _ = search readComment? true ("OMMENT" ++ ' ' :: quote :: t) := search_of_not_read hread
      _ = search readComment? true (' ' :: quote :: t) := search_within_word (fun _ => rfl) _ (by decide)
      _ = search readComment? false (quote :: t) := search_of_not_read rfl
      _ = search readComment? (isWordChar quote) t := search_of_not_read (readComment?_of_not_keyword hfold _ t)
      _ = search readComment? false t := by rw [hword]

/-- Behind a text without the word, the first comment is read from its own keyword on. -/
theorem search_front (u : Text) : ∀ {afterWord : Bool} {front : Text},
    search (wholePhrase? ["comment"]) afterWord front = none →
    search readComment? afterWord (front ++ ' ' :: u) = search readComment? false u
  | afterWord, [], _ => search_of_not_read (readComment?_of_not_keyword (by decide) afterWord u)
  | afterWord, c :: front, h => by
    rw [search] at h
    split at h
    · cases h
    · rename_i hphrase
      rw [List.cons_append, search_of_not_read, search_front u h]
      cases afterWord with
      | true => rfl
      | false =>
        have hkeyword := afterKeyword?_stop (c := ' ') (w := "comment") (by decide) (c :: front) u
        rw [wholePhrase?, if_neg Bool.false_ne_true, afterWholePhrase?, afterPhrase?] at hphrase
        rw [readComment?, if_neg Bool.false_ne_true, ← List.cons_append, hkeyword]
        cases hrest : afterKeyword? "comment" (c :: front) with
        | none => rfl
        | some r =>
          -- the word goes on behind the keyword
          rw [hrest, Option.filter_some] at hphrase
          obtain _ | ⟨d, r⟩ := r
          · cases hphrase
          · have hword : isWordChar d = true := by simpa [atWordEnd] using hphrase
            simp [afterBlanks?, isBlank_of_isWordChar hword]

/-! ## Where a literal ends -/

/-- A scan that meets no quotes stays outside of them. -/
theorem quoting_run {t : Text} (h : ∀ c ∈ t, Scan.isQuote c = false) {s : Scan} (hs : s.quoting = .none) :
    (s.run t).quoting = .none := by
  induction t generalizing s with
  | nil => exact hs
  | cons c t ih =>
    rw [List.forall_mem_cons] at h
    have hnext : (s.next c).quoting = .none := by
      simp only [Scan.next, hs, h.1, Bool.false_eq_true, if_false]
      split
      · rfl
      · split
        · rfl
        · exact hs
    exact ih h.2 hnext

/-- A literal with `COMMENT` in front of it, between two texts. The first text has not the word, and leaves the scan
outside quotes. -/
structure CommentText where
  front : Text
  opens : (Scan.start.run front).quoting = .none
  no_comment : hasPhrase ["comment"] front = false
  quote : Char
  quote_eq : quote = '\'' ∨ quote = '"'
  body : Text
  content : IsContent quote body
  following : Text

namespace CommentText

variable (s : CommentText)

/-- The text up to the literal, with the quote that opens it. -/
def opening : Text := s.front ++ ' ' :: ("COMMENT " ++ [s.quote])

/-- The text behind the quote that opens the literal. -/
def behind : Text := s.body ++ s.quote :: s.following

def text : Text := s.opening ++ s.behind

theorem quote_ne : s.quote ≠ '\\' := by
  rcases s.quote_eq with h | h <;> rw [h] <;> decide

/-- The scan leaves the literal at the quote behind its content. -/
theorem content?_behind : (Scan.start.run s.opening).content? s.behind = some s.body := by
  have hquote : Scan.isQuote s.quote = true := by
    rcases s.quote_eq with h | h <;> rw [h] <;> rfl
  obtain ⟨d, hfront⟩ : ∃ d, Scan.start.run s.front = ⟨.none, d⟩ := ⟨_, by rw [← s.opens]⟩
  have hword : Scan.run ⟨.none, d⟩ " COMMENT " = ⟨.none, d⟩ := (scan_of_isPlain (by decide)).2
  have hopening : Scan.start.run s.opening = ⟨.within s.quote, d⟩ := by
    rw [opening, Scan.run_append, hfront, show ' ' :: ("COMMENT " ++ [s.quote]) = " COMMENT " ++ [s.quote] from rfl,
      Scan.run_append, hword]
    exact if_pos hquote
  rw [hopening, behind, content?_of_isContent s.quote_ne s.content]

/-- The first comment of the text: up to the quote behind the content of its literal, unless a backslash stands in
front of that quote. Then it goes on up to a later quote, or it is no comment at all. -/
theorem search_text :
    search readComment? false s.text =
      if s.body.getLast? = some '\\' then
        ((upToQuote? s.quote s.quote s.following).map (s.body ++ s.quote :: ·)).or (search readComment? false s.behind)
      else some s.body := by
  have hnone : search (wholePhrase? ["comment"]) false s.front = none :=
    Option.not_isSome_iff_eq_none.mp (Bool.eq_false_iff.mp s.no_comment)
  have hlast : s.body.getLast?.getD s.quote = '\\' ↔ s.body.getLast? = some '\\' := by
    cases s.body.getLast? <;> simp [s.quote_ne]
  have htext : s.text = s.front ++ ' ' :: ("COMMENT " ++ s.quote :: s.behind) := by simp [text, opening]
  rw [htext, search_front _ hnone, search_comment s.quote_eq, behind, upToQuote?_of_isContent s.quote_ne s.content]
  simp only [hlast]
  split <;> rfl

/-- What is read for a comment is the content of the literal exactly if that ends in no backslash. -/
theorem search_text_iff : search readComment? false s.text = some s.body ↔ s.body.getLast? ≠ some '\\' := by
  rw [search_text]
  by_cases hlast : s.body.getLast? = some '\\'
  · rw [if_pos hlast]
    refine iff_of_false (fun h => ?_) (not_not_intro hlast)
    rcases Option.or_eq_some_iff.mp h with hlonger | ⟨-, hlater⟩
    · -- the content and more
      obtain ⟨more, -, hmore⟩ := Option.map_eq_some_iff.mp hlonger
      have hlength := congrArg List.length hmore
      simp at hlength
    · obtain ⟨_, _, hread⟩ := exists_read_of_search hlater
      exact getLast?_of_readComment? hread hlast
  · rw [if_neg hlast]
    exact iff_of_true rfl hlast

/-- A literal that goes on behind its content makes another comment. -/
theorem oneLine_append_ne (column more : Text) (h : s.body.getLast? = some '\\') :
    oneLine column (s.body ++ s.quote :: more) ≠ oneLine column s.body := by
  have hink : isBlank '\\' = false := by decide
  have hmem := List.mem_of_getLast? h
  intro heq
  have hfilter := congrArg (·.filter (!isBlank ·)) heq
  simp only [filter_oneLine (words_ne_nil hmem hink),
    filter_oneLine (words_ne_nil (List.mem_append_left (s.quote :: more) hmem) hink), List.filter_append,
    List.append_right_eq_self, List.filter_eq_nil_iff] at hfilter
  exact hfilter s.quote List.mem_cons_self (by rw [isBlank_quote s.quote_eq]; rfl)

/-- **Where a literal ends.** The scan leaves the literal of a comment at the quote behind its content. The reader of
comments does so exactly if the content ends in no backslash. Then the comment is the content on one line. Otherwise
it can only be the same by chance, if the text has no comment up to a later quote and the next comment reads like
this one. -/
theorem ends_agree_iff (column : Text) :
    (Scan.start.run s.opening).content? s.behind = some s.body ∧
    (search readComment? false s.text = some s.body ↔ s.body.getLast? ≠ some '\\') ∧
    (comment .mysql column s.text = oneLine column s.body ↔
      s.body.getLast? ≠ some '\\' ∨
        upToQuote? s.quote s.quote s.following = none ∧ comment .mysql column s.behind = oneLine column s.body) := by
  refine ⟨s.content?_behind, s.search_text_iff, ?_⟩
  rw [comment_mysql, comment_mysql, search_text]
  by_cases hlast : s.body.getLast? = some '\\'
  · rw [if_pos hlast]
    cases upToQuote? s.quote s.quote s.following with
    | none => simp [hlast]
    | some more => simp [hlast, s.oneLine_append_ne column more hlast]
  · simp [hlast]

end CommentText

/-- A path that ends in an escaped backslash. -/
def pathComment : CommentText where
  front := "NOT NULL"
  opens := quoting_run (by decide) rfl
  no_comment := by decide
  quote := '\''
  quote_eq := .inl rfl
  body := "C:\\\\"
  content := .plain (by decide) (by decide) (.plain (by decide) (by decide) (.hidden '\\' .nil))
  following := ""

/-- The reader finds no end of a literal that ends in an escaped backslash. -/
theorem comment_pathComment :
    pathComment.text = "NOT NULL COMMENT 'C:\\\\'" ∧ comment .mysql "path" pathComment.text = "path" ∧
      oneLine "path" pathComment.body = "C:\\\\" := by
  decide

/-! ## Comments and lines -/

theorem splitAtLineEnds_cons {c : Char} (hc : c ≠ ',') (t : Text) :
    splitAtLineEnds (c :: t) = putFirst c (splitAtLineEnds t) := by
  rw [splitAtLineEnds, chunksFrom_zero_cons, if_neg hc]
  rfl

/-- Behind the first of several chunks stands a comma. -/
theorem exists_comma_of_splitAtLineEnds {chunk next : Text} {more : List Text} : ∀ {t : Text},
    splitAtLineEnds t = chunk :: next :: more → ∃ u, t = chunk ++ ',' :: u
  | [], h => by cases h
  | c :: t, h => by
    rw [splitAtLineEnds, chunksFrom_zero_cons] at h
    split at h
    · rename_i n hn
      split at hn
      · rename_i hc
        obtain ⟨rfl, -⟩ := List.cons_eq_cons.mp h
        exact ⟨t, by rw [hc]; rfl⟩
      · cases hn
    · obtain ⟨first, rest, hchunks⟩ := List.exists_cons_of_ne_nil (splitAtLineEnds_ne_nil t)
      rw [splitAtLineEnds] at hchunks
      rw [hchunks, putFirst] at h
      obtain ⟨rfl, rfl⟩ := List.cons_eq_cons.mp h
      obtain ⟨u, rfl⟩ := exists_comma_of_splitAtLineEnds hchunks
      exact ⟨u, rfl⟩

theorem upToQuote?_of_not_mem {quote : Char} : ∀ {before : Char} {t : Text}, quote ∉ t →
    upToQuote? quote before t = none
  | _, [], _ => rfl
  | before, c :: t, h => by
    rw [List.mem_cons, not_or] at h
    rw [upToQuote?, if_neg (by simp [Ne.symm h.1]), upToQuote?_of_not_mem h.2]
    rfl

/-- A column of numbers with a comment, in the quotes of MySQL. -/
structure CommentedColumn where
  name : Name
  comment : Text
  no_quote : ∀ c ∈ comment, ¬(c = '\'' ∨ c = '"')
  no_backslash : '\\' ∉ comment

namespace CommentedColumn

variable (s : CommentedColumn)

/-- The column without its comment. -/
def typed : TypedColumn .mysql where
  name := .quoted ⟨s.name, ('\x60', '\x60'), backticks_mem⟩
  word := ⟨"INT", by decide, by decide⟩
  not_constraint := isConstraint_quoted .mysql _ _

/-- The column up to the literal of its comment. -/
def front : Text := s.typed.text " COMMENT "

def text : Text := s.front ++ '\'' :: (s.comment ++ ['\''])

theorem quote_not_mem : '\'' ∉ s.comment := fun h => s.no_quote _ h (.inl rfl)

theorem level_front : Level s.front := s.typed.level_text (level_of_isPlain (by decide))

theorem splitAtLineEnds_front : splitAtLineEnds s.front = [s.front] :=
  splitAtLineEnds_no_newline (s.typed.newline_not_mem_text (by decide))

theorem dropWhile_front : s.front.dropWhile isBlank = s.front := rfl

/-- The chunks of the column are those of its comment, with the front before the first and the closing quote behind the
last. -/
theorem splitAtLineEnds_text {chunk : Text} {more : List Text} (h : splitAtLineEnds s.comment = chunk :: more) :
    splitAtLineEnds s.text = glue ((s.front ++ '\'' :: chunk) :: more) [['\'']] := by
  have hquote : isBlank '\'' = false := by decide
  have hliteral : splitAtLineEnds ('\'' :: (s.comment ++ ['\''])) = glue (('\'' :: chunk) :: more) [['\'']] := by
    rw [← List.cons_append, splitAtLineEnds_append hquote, splitAtLineEnds_cons (by decide), h]
    rfl
  rw [text, splitAtLineEnds_append hquote, s.splitAtLineEnds_front, hliteral]
  cases more <;> simp [glue]

/-- The column as it is read, with whatever behind the quote that opens its comment. -/
theorem column?_front (u : Text) :
    (Line.read .mysql (s.front ++ '\'' :: u)).column? = some ⟨s.name.text, "INT", "COMMENT " ++ '\'' :: u⟩ := by
  have htext : s.front ++ '\'' :: u = s.typed.text (" COMMENT " ++ '\'' :: u) := (s.typed.text_append _ _).symm
  have hconstraint : Sql.mysql.isConstraint (s.typed.text (" COMMENT " ++ '\'' :: u)) = false :=
    isConstraint_quoted .mysql _ _
  rw [htext, s.typed.column?_text hconstraint (s.typed.readTypeText?_word (t := []) rfl rfl)]
  rfl

theorem comment_of_toField {rest : Text} {f : Field}
    (h : ColumnText.toField .mysql ⟨s.name.text, "INT", rest⟩ = .ok f) :
    f.comment = some (Sql.comment .mysql s.name.text rest) := by
  obtain ⟨goType, -, rfl⟩ := exists_goType_of_toField h
  rfl

/-- Without commas at line ends, the column is one line. -/
theorem bodyLines_text (h : splitAtLineEnds s.comment = [s.comment]) : bodyLines s.text = [s.text] := by
  have htext : s.text = s.typed.text (" COMMENT " ++ '\'' :: (s.comment ++ ['\''])) := (s.typed.text_append _ _).symm
  obtain ⟨hpieces, hrun⟩ := scan_quoted (q := '\'') rfl (d := 0) s.quote_not_mem s.no_backslash
  have hlevel : Level (" COMMENT " ++ '\'' :: (s.comment ++ ['\''])) :=
    (level_of_isPlain (by decide)).append ⟨hpieces, hrun⟩
  have hchunk : splitAtLineEnds s.text = [s.text] := by
    rw [s.splitAtLineEnds_text h]
    simp [glue, text]
  have hink : EndsInk s.text := ⟨s.front ++ '\'' :: s.comment, '\'', by simp [text], by decide⟩
  rw [htext] at hchunk hink ⊢
  exact s.typed.bodyLines_text hlevel.piece hchunk hink

/-- The comment of a column that is one line. -/
theorem comment_text :
    Sql.comment .mysql s.name.text ("COMMENT " ++ '\'' :: (s.comment ++ ['\''])) = oneLine s.name.text s.comment := by
  have hcontent : IsContent '\'' s.comment := isContent_of_not_mem s.quote_not_mem s.no_backslash
  have hlast : ¬s.comment.getLast?.getD '\'' = '\\' := by
    cases hlast : s.comment.getLast? with
    | none => decide
    | some c => exact fun hc => s.no_backslash (hc ▸ List.mem_of_getLast? hlast)
  rw [comment_mysql, search_comment (.inl rfl), upToQuote?_of_isContent (by decide) hcontent [], if_neg hlast]
  rfl

/-- Behind a comma at a line end, the literal has no end. What is in front of it is a line of its own, which has no
comment. -/
theorem columnsOf_cut {chunk next : Text} {more : List Text} (h : splitAtLineEnds s.comment = chunk :: next :: more) :
    ∃ rest others, columnsOf .mysql (bodyLines s.text) = ⟨s.name.text, "INT", rest⟩ :: others ∧
      Sql.comment .mysql s.name.text rest = s.name.text := by
  have hquote : isBlank '\'' = false := by decide
  obtain ⟨u, hu⟩ := exists_comma_of_splitAtLineEnds h
  have hchars : ∀ c ∈ chunk, c ∈ s.comment := fun c hc => hu ▸ List.mem_append_left _ hc
  have hpiece : scanPieces Scan.start (s.front ++ '\'' :: chunk) = [s.front ++ '\'' :: chunk] := by
    have hwithin := (scan_within (q := '\'') (d := 0) (fun hm => s.quote_not_mem (hchars _ hm))
      fun hm => s.no_backslash (hchars _ hm)).1
    refine scanPieces_append_iff.mpr ⟨s.level_front.piece, ?_⟩
    rw [s.level_front.closed]
    exact congrArg (putFirst '\'') hwithin
  have hline : chunkLines (s.front ++ '\'' :: chunk) = [s.front ++ '\'' :: dropEndWhile isBlank chunk] := by
    have htrim := trim_stop s.front chunk hquote
    rw [s.dropWhile_front] at htrim
    rw [chunkLines_of_ne hpiece (by rw [htrim]; simp), htrim]
    rfl
  refine ⟨"COMMENT " ++ '\'' :: dropEndWhile isBlank chunk,
    columnsOf .mysql ((glue (next :: more) [['\'']]).flatMap chunkLines), ?_, ?_⟩
  · rw [bodyLines_eq, s.splitAtLineEnds_text h, glue_cons _ (List.cons_ne_nil next more), List.flatMap_cons, hline,
      columnsOf_append, columnsOf, List.filterMap_cons, s.column?_front]
    rfl
  · have hrest : ∀ c ∈ dropEndWhile isBlank chunk, c ∈ s.comment := by
      obtain ⟨b, hb, -⟩ := dropEndWhile_append isBlank chunk
      exact fun c hc => hchars c (hb ▸ List.mem_append_left b hc)
    have hnone : search readComment? false (dropEndWhile isBlank chunk) = none := by
      refine Option.not_isSome_iff_eq_none.mp fun hsome => ?_
      obtain ⟨c, hc, hquote⟩ := quote_mem_of_search hsome
      exact s.no_quote c (hrest c hc) hquote
    rw [comment_mysql, search_comment (.inl rfl), upToQuote?_of_not_mem fun hm => s.quote_not_mem (hrest _ hm), hnone]
    rfl

/-- A comment with a comma is not the name of the column. -/
theorem oneLine_ne_name (h : ',' ∈ s.comment) : oneLine s.name.text s.comment ≠ s.name.text := by
  intro heq
  have hmem : ',' ∈ (oneLine s.name.text s.comment).filter (!isBlank ·) := by
    rw [filter_oneLine (words_ne_nil h (by decide))]
    exact List.mem_filter.mpr ⟨h, by decide⟩
  rw [heq] at hmem
  exact absurd (s.name.word ',' (List.mem_of_mem_filter hmem)) (by decide)

/-- **Comments of any text.** A table with one column that has a comment without quotes and backslashes is read as one
field with that comment on one line, whatever parentheses, commas and newlines it has, exactly if no comma of it stands
in front of blanks with a newline. -/
theorem isOnlyField_comment_iff (table : Name) :
    (∃ f, IsOnlyField .mysql table s.text f ∧ f.comment = some (oneLine s.name.text s.comment)) ↔
      ∀ t b u, s.comment = t ++ ',' :: (b ++ '\n' :: u) → ¬∀ c ∈ b, isBlank c = true := by
  have hne : s.text ≠ [] := by simp [text]
  constructor
  · rintro ⟨f, honly, hcomment⟩ t b u hu hb
    have hcut : splitAtLineEnds s.comment ≠ [s.comment] := fun h => not_isBlank_of_splitAtLineEnds h hu hb
    obtain ⟨chunk, rest, hchunks⟩ := List.exists_cons_of_ne_nil (splitAtLineEnds_ne_nil s.comment)
    obtain _ | ⟨next, more⟩ := rest
    · exact hcut (splitAtLineEnds_of_length (by rw [hchunks]; rfl))
    · obtain ⟨rest, others, hcolumns, hname⟩ := s.columnsOf_cut hchunks
      rw [isOnlyField_iff_mapM hne, hcolumns, mapM_eq_ok_iff] at honly
      obtain ⟨hfield, -⟩ := List.forall₂_cons.mp honly
      rw [s.comment_of_toField hfield, hname, Option.some.injEq] at hcomment
      exact s.oneLine_ne_name (hu ▸ by simp) hcomment.symm
  · intro h
    have hlines := s.bodyLines_text (splitAtLineEnds_eq_singleton s.comment h)
    refine ⟨_, (isOnlyField_iff hne hlines (s.column?_front _)).mpr rfl, ?_⟩
    exact congrArg some s.comment_text

end CommentedColumn

/-- A comment of two lines, with a comma at the end of the first one. -/
def stateNote : CommentedColumn where
  name := ⟨"state", by decide, by decide⟩
  comment := "new,\npaid later"
  no_quote := by decide
  no_backslash := by decide

/-- The second line is taken for a column, and the comment is lost. -/
theorem readSchema_stateNote :
    statementOf usersName stateNote.text = "CREATE TABLE users (\x60state\x60 INT COMMENT 'new,\npaid later')" ∧
      oneLine "state" stateNote.comment = "new, paid later" ∧
      (readSchema .mysql (statementOf usersName stateNote.text)).toOption.map
        (fun schema => schema.fields.map fun f => (f.sourceName, f.comment)) =
          some [(("state" : Text), some ("state" : Text)), ("paid", some "paid")] := by
  decide +kernel

end StructForge.Sql
