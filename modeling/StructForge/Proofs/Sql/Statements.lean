import StructForge.Proofs.Sql.Splitting
import StructForge.Proofs.Text.Phrases
import StructForge.Sql.Table

/-!
# Statements and their parts

A statement is a head with the name of the table, a body in parentheses, and options behind it. The readers of the
head stop at a parenthesis (`findHead?_stop`), and the body reaches from the first opening to the last closing
parenthesis (`body?_of_parts`), so that a statement put together from its parts is read as these parts
(`Statement.read_of_parts`).
-/

namespace StructForge.Sql

open Text

/-! ## The head -/

theorem skipOneOf_stop {c : Char} {cs : List Char} (h : cs.contains c = false) (t u : Text) :
    skipOneOf cs (t ++ c :: u) = skipOneOf cs t ++ c :: u := by
  cases t with
  | nil => simp only [List.nil_append, skipOneOf, h, Bool.false_eq_true, if_false]
  | cons d t => simp only [List.cons_append, skipOneOf]; split <;> rfl

/-- What a reader leaves, with more text behind it. -/
def leaving {α : Type} (u : Text) (r : α × Text) : α × Text := (r.1, r.2 ++ u)

theorem readName?_stop (dialect : Sql) {c : Char} (ho : dialect.nameOpeners.contains c = false)
    (hc : dialect.nameClosers.contains c = false) (hw : isWordChar c = false) (t u : Text) :
    dialect.readName? (t ++ c :: u) = (dialect.readName? t).map (leaving (c :: u)) := by
  unfold readName?
  rw [skipOneOf_stop ho, takeWord_stop hw]
  rcases takeWord (skipOneOf dialect.nameOpeners t) with ⟨_ | ⟨c, name⟩, rest⟩
  · rfl
  · simp only [Option.map_some, leaving, skipOneOf_stop hc]

/-- Parentheses are no quotes of any dialect. -/
theorem readName?_paren (dialect : Sql) {c : Char} (hc : c = '(' ∨ c = ')') (t u : Text) :
    dialect.readName? (t ++ c :: u) = (dialect.readName? t).map (leaving (c :: u)) := by
  rcases hc with rfl | rfl
  · exact readName?_stop dialect (by cases dialect <;> decide) (by cases dialect <;> decide) (by decide) t u
  · exact readName?_stop dialect (by cases dialect <;> decide) (by cases dialect <;> decide) (by decide) t u

theorem readTableName?_stop (dialect : Sql) (t u : Text) :
    dialect.readTableName? (t ++ '(' :: u) = (dialect.readTableName? t).map (leaving ('(' :: u)) := by
  have hname := readName?_paren dialect (c := '(') (.inl rfl)
  unfold readTableName?
  rw [hname]
  rcases dialect.readName? t with _ | ⟨name, _ | ⟨c, rest⟩⟩
  · rfl
  · rfl
  · by_cases hc : c = '.'
    · subst hc
      simp only [Option.map_some, leaving, List.cons_append, hname]
      cases dialect.readName? rest <;> rfl
    · simp [leaving, hc]

theorem readHead?_stop (dialect : Sql) (t u : Text) :
    dialect.readHead? (t ++ '(' :: u) = (dialect.readHead? t).map (leaving ('(' :: u)) := by
  have hblank : isBlank '(' = false := by decide
  unfold readHead?
  rw [afterPhrase?_stop hblank (by decide)]
  cases afterPhrase? ["create", "table"] t with
  | none => rfl
  | some r =>
    simp only [Option.map_some, Option.bind_some, afterBlanks?_stop hblank, Option.bind_eq_bind]
    cases afterBlanks? r with
    | none => rfl
    | some r =>
      simp only [Option.map_some, Option.bind_some]
      rw [afterPhrase?_stop hblank (by decide), readTableName?_stop]
      cases afterPhrase? ["if", "not", "exists"] r with
      | none => simp
      | some g =>
        simp only [Option.map_some, Option.bind_some, afterBlanks?_stop hblank]
        cases afterBlanks? g with
        | none => simp
        | some g =>
          simp only [Option.map_some, Option.bind_some, readTableName?_stop]
          cases dialect.readTableName? g <;> simp

/-- Where no statement starts, no head does. -/
theorem readHead?_of_afterPhrase? {dialect : Sql} {t : Text} (h : afterPhrase? ["create", "table"] t = none) :
    dialect.readHead? t = none := by
  rw [readHead?, h]
  rfl

/-- The head of a statement is found in front of the body. -/
theorem findHead?_stop {dialect : Sql} {head name rest : Text} (h : dialect.findHead? head = some (name, rest))
    (u : Text) : dialect.findHead? (head ++ '(' :: u) = some (name, rest ++ '(' :: u) := by
  unfold findHead? at h ⊢
  rw [search_stop (fun _ t => readHead?_stop dialect t u) (fun _ => rfl), h]
  rfl

/-- No quote of a dialect is a word character. -/
theorem not_isWordChar_of_opener {dialect : Sql} {c : Char} (h : dialect.nameOpeners.contains c = true) :
    isWordChar c = false := by
  have hall : ∀ q ∈ dialect.nameOpeners, isWordChar q = false := by cases dialect <;> decide
  exact hall c (by simpa using h)

/-- A name without quotes. -/
theorem readName?_bare (dialect : Sql) {name rest : Text} (hne : name ≠ []) (hw : ∀ c ∈ name, isWordChar c = true)
    (hend : atWordEnd rest = true) :
    dialect.readName? (name ++ rest) = some (name, skipOneOf dialect.nameClosers rest) := by
  obtain ⟨c, w, rfl⟩ := List.exists_cons_of_ne_nil hne
  have hc := hw c List.mem_cons_self
  have hopen : skipOneOf dialect.nameOpeners (c :: w ++ rest) = c :: w ++ rest := by
    simp only [List.cons_append, skipOneOf]
    split
    · rename_i ho
      rw [not_isWordChar_of_opener ho] at hc
      cases hc
    · rfl
  rw [readName?, hopen, takeWord_append_of hw hend]

/-- The head of a statement without a guard or a qualifier. -/
theorem findHead?_plain (dialect : Sql) {name : Text} (hne : name ≠ []) (hw : ∀ c ∈ name, isWordChar c = true) :
    dialect.findHead? ("CREATE TABLE " ++ (name ++ [' '])) = some (name, [' ']) := by
  have hname : dialect.readTableName? (name ++ [' ']) = some (name, [' ']) := by
    rw [readTableName?, readName?_bare dialect hne hw (by decide)]
    cases dialect <;> rfl
  have hguard : afterPhrase? ["if", "not", "exists"] (name ++ [' ']) = none := by
    rw [afterPhrase?_more (by decide) hw (by decide)]
    split <;> rfl
  have hphrase : (afterPhrase? ["create", "table"] ("CREATE TABLE " ++ (name ++ [' ']))).bind afterBlanks? =
      some (name ++ [' ']) := by
    obtain ⟨c, w, rfl⟩ := List.exists_cons_of_ne_nil hne
    have hstart := dropWhile_isBlank_of_isWordChar (hw c List.mem_cons_self) (w ++ [' '])
    have h := afterKeyword?_append "TABLE" (' ' :: (c :: (w ++ [' '])))
    have hb := afterBlanks?_append (b := [' ']) (t := c :: (w ++ [' '])) (by decide) (by decide) hstart
    show (afterPhrase? ["table"] ("TABLE" ++ ' ' :: (c :: (w ++ [' '])))).bind afterBlanks? = _
    rw [show afterPhrase? ["table"] ("TABLE" ++ ' ' :: (c :: (w ++ [' ']))) = some (' ' :: (c :: (w ++ [' ']))) from h]
    exact hb
  have hread : dialect.readHead? ("CREATE TABLE " ++ (name ++ [' '])) = some (name, [' ']) := by
    simp only [readHead?, hphrase, Option.bind_eq_bind, Option.bind_some, hguard, Option.bind_none, hname,
      Option.none_or]
  exact search_of_read hread

/-- A space opens no body. -/
theorem paren_not_mem_space : '(' ∉ (" " : Text) := by decide

/-! ## What the readers of the head leave -/

theorem suffix_of_afterKeyword? {w t r : Text} (h : afterKeyword? w t = some r) : r <:+ t := by
  obtain ⟨k, _, rfl⟩ := eq_append_of_afterKeyword? h
  exact List.suffix_append k r

theorem suffix_of_afterBlanks? {t r : Text} (h : afterBlanks? t = some r) : r <:+ t :=
  eq_dropWhile_of_afterBlanks? h ▸ List.dropWhile_suffix isBlank

theorem suffix_of_afterPhrase? : ∀ {ws : List Text} {t r : Text}, afterPhrase? ws t = some r → r <:+ t
  | [], _, _, h => Option.some.inj h ▸ List.suffix_refl _
  | [_], _, _, h => suffix_of_afterKeyword? h
  | w :: v :: ws, t, r, h => by
    simp only [afterPhrase?, Option.bind_eq_bind, Option.bind_eq_some_iff] at h
    obtain ⟨r₁, h₁, r₂, h₂, h₃⟩ := h
    exact (suffix_of_afterPhrase? h₃).trans ((suffix_of_afterBlanks? h₂).trans (suffix_of_afterKeyword? h₁))

theorem skipOneOf_suffix (cs : List Char) (t : Text) : skipOneOf cs t <:+ t := by
  cases t with
  | nil => exact List.suffix_refl _
  | cons c t =>
    rw [skipOneOf]
    split
    · exact List.suffix_cons c t
    · exact List.suffix_refl _

theorem suffix_of_readName? {dialect : Sql} {t : Text} {x : Text × Text} (h : dialect.readName? t = some x) :
    x.2 <:+ t := by
  rw [readName?] at h
  split at h
  · cases h
  · rename_i name rest _ hword
    cases h
    have hdrop : (skipOneOf dialect.nameOpeners t).dropWhile isWordChar = rest := congrArg Prod.snd hword
    have hrest : rest <:+ skipOneOf dialect.nameOpeners t := hdrop ▸ List.dropWhile_suffix isWordChar
    exact (skipOneOf_suffix _ rest).trans (hrest.trans (skipOneOf_suffix _ t))

theorem suffix_of_readTableName? {dialect : Sql} {t : Text} {x : Text × Text}
    (h : dialect.readTableName? t = some x) : x.2 <:+ t := by
  rw [readTableName?] at h
  split at h
  · rename_i name rest hname
    have hrest := suffix_of_readName? hname
    rcases Option.or_eq_some_iff.mp h with h | ⟨_, h⟩
    · exact (suffix_of_readName? h).trans ((List.suffix_cons '.' rest).trans hrest)
    · cases h
      exact hrest
  · exact suffix_of_readName? h

/-- The reader of a head leaves an end of the text. -/
theorem suffix_of_readHead? {dialect : Sql} {t : Text} {x : Text × Text} (h : dialect.readHead? t = some x) :
    x.2 <:+ t := by
  simp only [readHead?, Option.bind_eq_bind, Option.bind_eq_some_iff, Option.or_eq_some_iff] at h
  obtain ⟨r, ⟨s, hphrase, hblanks⟩, h⟩ := h
  have hr : r <:+ t := (suffix_of_afterBlanks? hblanks).trans (suffix_of_afterPhrase? hphrase)
  rcases h with ⟨g, ⟨p, hguard, hbehind⟩, hname⟩ | ⟨_, hname⟩
  · have hg : g <:+ r := (suffix_of_afterBlanks? hbehind).trans (suffix_of_afterPhrase? hguard)
    exact (suffix_of_readTableName? hname).trans (hg.trans hr)
  · exact (suffix_of_readTableName? hname).trans hr

/-! ## The body -/

/-- The body is what stands between the first opening and the last closing parenthesis. -/
theorem body?_of_parts {front body tail : Text} (hf : '(' ∉ front) (hb : body ≠ []) (ht : ')' ∉ tail) :
    body? (front ++ '(' :: (body ++ ')' :: tail)) = some body := by
  obtain ⟨c, body, rfl⟩ := List.exists_cons_of_ne_nil hb
  rw [body?, dropWhile_ne_append hf]
  simp only [dropEndWhile_ne_append ht, List.dropLast_concat]

/-- A statement that is put together from its parts is read as these parts. -/
theorem Statement.read_of_parts {dialect : Sql} {head name rest body tail : Text}
    (hhead : dialect.findHead? head = some (name, rest)) (hrest : '(' ∉ rest) (hbody : body ≠ []) (htail : ')' ∉ tail) :
    Statement.read dialect (head ++ '(' :: (body ++ ')' :: tail)) =
      .ok ⟨name, (bodyLines body).map (Line.read dialect)⟩ := by
  rw [Statement.read, findHead?_stop hhead]
  simp only [body?_of_parts hrest hbody htail]

end StructForge.Sql
