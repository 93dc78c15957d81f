import StructForge.Proofs.Sql.Statements

/-!
# Where the readers of a column stop

The readers of a column stop in front of a character that can be no part of a type (`Stops`), so a column whose type
is complete stays the same when such a character and further text follow (`readColumn?_stop`). A type is incomplete
if its parameters are open; then a closing parenthesis completes it.
-/

namespace StructForge.Sql

open Text

/-! ## Types -/

/-- A character that ends a type: it is no blank, no part of a word or an array suffix, and opens no parameters. -/
def Stops (c : Char) : Prop :=
  (isBlank c = false ∧ isWordChar c = false ∧ isDecimal c = false ∧ c ≠ '(' ∧ c ≠ '[' ∧ c ≠ ']') ∧
    (foldChar c ∉ ("precision" : Text) ∧ foldChar c ∉ ("varying" : Text)) ∧
    (∀ w ∈ (["without", "time", "zone"] : List Text), foldChar c ∉ w) ∧
    ∀ w ∈ (["with", "time", "zone"] : List Text), foldChar c ∉ w

instance (c : Char) : Decidable (Stops c) := inferInstanceAs (Decidable ((_ ∧ _) ∧ _))

/-- Parameters without a closing parenthesis. -/
def OpenParameters (t : Text) : Prop := t.head? = some '(' ∧ ')' ∉ t

instance (t : Text) : Decidable (OpenParameters t) := inferInstanceAs (Decidable (_ ∧ _))

/-- The parameters of a type reach up to the first closing parenthesis. -/
theorem skipParameters_closed {list : Text} (h : ')' ∉ list) (t : Text) :
    skipParameters ('(' :: (list ++ ')' :: t)) = t := by
  simp only [skipParameters, dropWhile_ne_append h]

theorem length_afterArraySuffix? {t r : Text} (h : afterArraySuffix? t = some r) : r.length < t.length := by
  unfold afterArraySuffix? at h
  split at h
  · rename_i t
    split at h
    · rename_i hdrop
      have hle := (List.dropWhile_sublist isDecimal (l := t)).length_le
      rw [hdrop] at hle
      cases h
      simp only [List.length_cons] at hle ⊢
      omega
    · cases h
  · cases h

section Stop

variable {c : Char} (hc : Stops c)
include hc

theorem skipSecondWord_stop (t u : Text) : skipSecondWord (t ++ c :: u) = skipSecondWord t ++ c :: u := by
  obtain ⟨⟨hb, _⟩, ⟨hprecision, hvarying⟩, _⟩ := hc
  unfold skipSecondWord
  rw [afterBlanks?_stop hb]
  cases afterBlanks? t with
  | none => rfl
  | some r =>
    simp only [Option.map_some, afterKeyword?_stop hprecision, afterKeyword?_stop hvarying]
    cases afterKeyword? "precision" r <;> cases afterKeyword? "varying" r <;> rfl

theorem skipTimeZone_stop (t u : Text) : skipTimeZone (t ++ c :: u) = skipTimeZone t ++ c :: u := by
  obtain ⟨⟨hb, _⟩, _, hwithout, hwith⟩ := hc
  unfold skipTimeZone
  rw [afterBlanks?_stop hb]
  cases afterBlanks? t with
  | none => rfl
  | some r =>
    simp only [Option.map_some, afterPhrase?_stop hb hwithout, afterPhrase?_stop hb hwith]
    cases afterPhrase? ["without", "time", "zone"] r <;> cases afterPhrase? ["with", "time", "zone"] r <;> rfl

end Stop

section Behind

variable {c : Char} (hdecimal : isDecimal c = false) (hopen : c ≠ '[') (hclose : c ≠ ']')
include hdecimal hopen hclose

theorem afterArraySuffix?_stop (t u : Text) :
    afterArraySuffix? (t ++ c :: u) = (afterArraySuffix? t).map (· ++ c :: u) := by
  cases t with
  | nil => simp [afterArraySuffix?, hopen]
  | cons d t =>
    by_cases hd : d = '['
    · subst hd
      simp only [List.cons_append, afterArraySuffix?, dropWhile_stop hdecimal]
      cases h : t.dropWhile isDecimal with
      | nil => simp [hclose]
      | cons e r => by_cases he : e = ']' <;> simp [he]
    · simp [afterArraySuffix?, hd]

/-- The array suffixes end at the same place, however many of them may be read. -/
theorem skipArraySuffixes_stop (u : Text) : ∀ (n m : Nat) (t : Text), t.length ≤ n → t.length ≤ m →
    skipArraySuffixes n (t ++ c :: u) = skipArraySuffixes m t ++ c :: u
  | 0, m, [], _, _ => by
    cases m <;> rfl
  | n + 1, m, t, hn, hm => by
    rw [skipArraySuffixes, afterArraySuffix?_stop hdecimal hopen hclose]
    cases h : afterArraySuffix? t with
    | none => cases m <;> simp [skipArraySuffixes, h]
    | some r =>
      have hlength := length_afterArraySuffix? h
      obtain ⟨m, rfl⟩ : ∃ k, m = k + 1 := ⟨m - 1, by omega⟩
      rw [skipArraySuffixes, h]
      exact skipArraySuffixes_stop u n m r (by omega) (by omega)

end Behind

theorem skipParameters_open {t : Text} (h : OpenParameters t) : skipParameters t = t := by
  obtain ⟨hfirst, hlast⟩ := h
  unfold skipParameters
  split
  · rename_i inner
    rw [List.mem_cons, not_or] at hlast
    have hdrop : inner.dropWhile (· ≠ ')') = [] :=
      dropWhile_eq_nil (ne_of_not_mem hlast.2)
    rw [hdrop]
  · rfl

/-- The parameters of a type end at the same place, unless they are open. -/
theorem skipParameters_stop {c : Char} (hc : c ≠ '(') {t : Text} (hopen : ¬OpenParameters t) (u : Text) :
    skipParameters (t ++ c :: u) = skipParameters t ++ c :: u := by
  cases t with
  | nil => simp [skipParameters, hc]
  | cons d t =>
    by_cases hd : d = '('
    · subst hd
      have hmem : ')' ∈ t := Classical.byContradiction (fun h => hopen ⟨rfl, by simpa using h⟩)
      obtain ⟨list, rest, rfl, hlist⟩ := List.eq_append_cons_of_mem hmem
      rw [List.cons_append, List.append_assoc, List.cons_append, skipParameters_closed hlist,
        skipParameters_closed hlist]
    · simp [skipParameters, hd]

/-! ## Columns -/

/-- What follows the words of a type, and what its parameters start at. -/
def behindTypeWords (dialect : Sql) (t : Text) : Text :=
  match dialect with
  | .mysql | .sqlite => (takeWord t).2
  | .postgresql => skipSecondWord (takeWord t).2

theorem skipTypeTail_stop (dialect : Sql) {c : Char} (hc : Stops c) {t : Text}
    (hopen : ¬OpenParameters (behindTypeWords dialect t)) (u : Text) :
    skipTypeTail dialect ((takeWord t).2 ++ c :: u) = skipTypeTail dialect (takeWord t).2 ++ c :: u := by
  obtain ⟨⟨_, _, hdecimal, hparen, hbracket, hclose⟩, _⟩ := id hc
  cases dialect with
  | mysql | sqlite => exact skipParameters_stop hparen hopen u
  | postgresql =>
    have hopen : ¬OpenParameters (skipSecondWord (takeWord t).2) := hopen
    simp only [skipTypeTail, skipSecondWord_stop hc, skipParameters_stop hparen hopen, skipTimeZone_stop hc]
    exact skipArraySuffixes_stop hdecimal hbracket hclose u _ _ _ (by simp) (Nat.le_refl _)

/-- A text whose word and tail end in front of another text is read as a type up to there. -/
theorem readTypeText?_append {dialect : Sql} {t v : Text}
    (hword : takeWord (t ++ v) = ((takeWord t).1, (takeWord t).2 ++ v))
    (htail : skipTypeTail dialect ((takeWord t).2 ++ v) = skipTypeTail dialect (takeWord t).2 ++ v) :
    dialect.readTypeText? (t ++ v) = (dialect.readTypeText? t).map (leaving v) := by
  rw [readTypeText?, readTypeText?, hword]
  rcases hw : takeWord t with ⟨_ | ⟨d, w⟩, rest⟩
  · rfl
  · rw [hw] at htail
    have hlength : (t ++ v).length - (skipTypeTail dialect rest ++ v).length =
        t.length - (skipTypeTail dialect rest).length := by
      simp only [List.length_append]
      omega
    simp only [htail, consumed, hlength, List.take_append_of_le_length (Nat.sub_le _ _), Option.map_some, leaving]

/-- A complete type is read up to the same place. -/
theorem readTypeText?_stop {dialect : Sql} {c : Char} (hc : Stops c) {t : Text}
    (hopen : ¬OpenParameters (behindTypeWords dialect t)) (u : Text) :
    dialect.readTypeText? (t ++ c :: u) = (dialect.readTypeText? t).map (leaving (c :: u)) :=
  readTypeText?_append (takeWord_stop hc.1.2.1 t u) (skipTypeTail_stop dialect hc hopen u)

/-- A name is a word. -/
theorem isWordChar_of_readName? {dialect : Sql} {t : Text} {x : Text × Text} (h : dialect.readName? t = some x) :
    ∀ c ∈ x.1, isWordChar c = true := by
  rw [readName?] at h
  split at h
  · cases h
  · rename_i name rest _ hword
    cases h
    have hname : (skipOneOf dialect.nameOpeners t).takeWhile isWordChar = name := congrArg Prod.fst hword
    exact hname ▸ List.all_eq_true.mp List.all_takeWhile

/-- A name that something follows is read up to the same place whatever follows that. -/
theorem readName?_append {dialect : Sql} {t name rest : Text} (h : dialect.readName? t = some (name, rest))
    (hrest : rest ≠ []) (u : Text) : dialect.readName? (t ++ u) = some (name, rest ++ u) := by
  have hskip : ∀ {cs : List Char} {t : Text}, t ≠ [] → skipOneOf cs (t ++ u) = skipOneOf cs t ++ u := by
    intro cs t hne
    obtain ⟨c, t, rfl⟩ := List.exists_cons_of_ne_nil hne
    simp only [List.cons_append, skipOneOf]
    split <;> rfl
  have hnil : ∀ cs, skipOneOf cs [] = [] := fun _ => rfl
  have hchars := isWordChar_of_readName? h
  rw [readName?] at h
  split at h
  · cases h
  · rename_i name behind hne hword
    simp only [Option.some.injEq, Prod.mk.injEq] at h
    obtain ⟨rfl, rfl⟩ := h
    -- something stands behind the name, and so the name ends in the text itself
    have hbehind : behind ≠ [] := fun e => hrest (by rw [e, hnil])
    have happend := takeWord_append (skipOneOf dialect.nameOpeners t)
    rw [hword] at happend
    have ht : t ≠ [] := fun e => hbehind (by rw [e, hnil] at happend; exact (List.append_eq_nil_iff.mp happend).2)
    have hend := atWordEnd_takeWord (skipOneOf dialect.nameOpeners t)
    rw [hword] at hend
    have hstop : atWordEnd (behind ++ u) = true := by
      obtain ⟨c, behind, rfl⟩ := List.exists_cons_of_ne_nil hbehind
      exact hend
    rw [readName?, hskip ht, ← happend, List.append_assoc, takeWord_append_of hchars hstop]
    cases name with
    | nil => exact absurd rfl hne
    | cons c w => simp only [hskip hbehind]

/-- Where the type of a column starts. -/
def typeStart? (dialect : Sql) (line : Text) : Option Text := (dialect.readName? line).bind (afterBlanks? ·.2)

/-- A column of which only the start is there: the parameters of its type are open. -/
def OpenType (dialect : Sql) (line : Text) : Prop :=
  ∃ t ∈ dialect.typeStart? line, OpenParameters (dialect.behindTypeWords t)

instance (dialect : Sql) (line : Text) : Decidable (OpenType dialect line) :=
  inferInstanceAs (Decidable (∃ t ∈ dialect.typeStart? line, OpenParameters (dialect.behindTypeWords t)))

/-- A column as its name and what is read behind it. -/
theorem readColumn?_eq (dialect : Sql) (line : Text) :
    dialect.readColumn? line =
      (dialect.readName? line).bind fun x =>
        ((afterBlanks? x.2).bind dialect.readTypeText?).map fun y => ⟨x.1, y.1, y.2.dropWhile isBlank⟩ := by
  rw [readColumn?]
  cases dialect.readName? line with
  | none => rfl
  | some x =>
    simp only [Option.bind_eq_bind, Option.bind_some]
    cases afterBlanks? x.2 with
    | none => rfl
    | some t =>
      simp only [Option.bind_some]
      cases dialect.readTypeText? t <;> rfl

/-- The three parts of a column, each read behind the one before. -/
theorem readColumn?_eq_some {dialect : Sql} {line : Text} {column : ColumnText} :
    dialect.readColumn? line = some column ↔ ∃ behindName t behind,
      dialect.readName? line = some (column.name, behindName) ∧ afterBlanks? behindName = some t ∧
        dialect.readTypeText? t = some (column.type, behind) ∧ column.rest = behind.dropWhile isBlank := by
  simp only [readColumn?_eq, Option.bind_eq_some_iff, Option.map_eq_some_iff, Prod.exists]
  constructor
  · rintro ⟨name, behindName, hname, type, behind, ⟨t, ht, htype⟩, rfl⟩
    exact ⟨behindName, t, behind, hname, ht, htype, rfl⟩
  · rintro ⟨behindName, t, behind, hname, ht, htype, hrest⟩
    refine ⟨_, behindName, hname, _, behind, ⟨t, ht, htype⟩, ?_⟩
    rw [← hrest]

/-- A column with a complete type is read up to the same place. -/
theorem readColumn?_stop {dialect : Sql} {c : Char} (hc : Stops c) {line : Text} {column : ColumnText}
    (h : dialect.readColumn? line = some column) (hopen : ¬OpenType dialect line) (u : Text) :
    dialect.readColumn? (line ++ c :: u) = some { column with rest := column.rest ++ c :: u } := by
  obtain ⟨behindName, t, behind, hname, ht, htype, hrest⟩ := readColumn?_eq_some.mp h
  have htne : t ≠ [] := by
    rintro rfl
    rw [readTypeText?] at htype
    cases htype
  have hbne : behindName ≠ [] := by
    rintro rfl
    cases ht
  have hcomplete : ¬OpenParameters (dialect.behindTypeWords t) :=
    fun ho => hopen ⟨t, by rw [typeStart?, hname]; exact ht, ho⟩
  have htype' := readTypeText?_stop hc hcomplete u
  rw [htype] at htype'
  refine readColumn?_eq_some.mpr
    ⟨_, _, _, readName?_append hname hbne (c :: u), afterBlanks?_append_of_ne ht htne (c :: u), htype', ?_⟩
  rw [dropWhile_stop hc.1.1, hrest]

/-! ## Table constraints -/

theorem constraintPhrases_spec (dialect : Sql) : ∀ p ∈ dialect.constraintPhrases, p ≠ [] ∧ IsPhrase p := by
  cases dialect <;> decide

theorem isConstraint_congr {dialect : Sql} {t t' : Text}
    (h : ∀ p ∈ dialect.constraintPhrases, (afterWholePhrase? p t).isSome = (afterWholePhrase? p t').isSome) :
    dialect.isConstraint t = dialect.isConstraint t' := by
  rw [isConstraint, isConstraint, Bool.eq_iff_iff, List.any_eq_true, List.any_eq_true]
  exact ⟨fun ⟨p, hp, ht⟩ => ⟨p, hp, (h p hp).symm.trans ht⟩, fun ⟨p, hp, ht⟩ => ⟨p, hp, (h p hp).trans ht⟩⟩

/-- A phrase for constraints at the start of a line does not reach over a character that is in no phrase. -/
theorem isConstraint_stop {dialect : Sql} {c : Char} (hb : isBlank c = false) (hw : isWordChar c = false)
    (t u : Text) : dialect.isConstraint (t ++ c :: u) = dialect.isConstraint t := by
  refine isConstraint_congr fun p hp => ?_
  have hfold := (constraintPhrases_spec dialect p hp).2.foldChar_not_mem hw
  rw [afterWholePhrase?_stop hb hw hfold, Option.isSome_map]

/-- Blanks at the end of a line do not matter for whether it is a constraint. -/
theorem isConstraint_append_blanks {dialect : Sql} {b : Text} (hb : ∀ c ∈ b, isBlank c = true) (t : Text) :
    dialect.isConstraint (t ++ b) = dialect.isConstraint t :=
  isConstraint_congr fun p hp => afterWholePhrase?_append_blanks hb (constraintPhrases_spec dialect p hp).2 t

theorem column?_read (dialect : Sql) (line : Text) :
    (Line.read dialect line).column? = if dialect.isConstraint line then none else dialect.readColumn? line := by
  rw [Line.read]
  split
  · rfl
  · cases dialect.readColumn? line <;> rfl

end StructForge.Sql
