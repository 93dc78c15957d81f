import StructForge.Proofs.Sql.ColumnStops
import StructForge.Proofs.Sql.TypeTable

/-!
# Lines that go on behind a parenthesis

A line that goes on with a character that is no part of a column, such as a closing parenthesis, is a column or a
constraint as it was without (`isSome_column?_stop`). A column with a type that is nested too deep keeps this type in
front of a parenthesis (`column?_continued_tooDeep`): only open parameters could change it, and a type with open
parameters is flat (`goType_of_openType`). What is read of the line is not changed by the blanks in front either.
-/

namespace StructForge.Sql

open Text

/-! ## Blanks at the end -/

section Blanks

variable {b : Text} (hb : ∀ c ∈ b, isBlank c = true)

/-- Blanks are no decimal digits. -/
theorem isDecimal_of_isBlank {c : Char} (h : isBlank c = true) : isDecimal c = false := by
  have hc := Ranges.of_contains (P := fun n => !decimalRanges.contains n) (by decide) h
  simpa [isDecimal] using hc

theorem skipSecondWord_eq (t : Text) :
    skipSecondWord t =
      ((afterBlanks? t).bind fun r => afterKeyword? "precision" r <|> afterKeyword? "varying" r).getD t := by
  rw [skipSecondWord]
  cases afterBlanks? t <;> rfl

theorem skipTimeZone_eq (t : Text) :
    skipTimeZone t =
      ((afterBlanks? t).bind fun r =>
        afterPhrase? ["without", "time", "zone"] r <|> afterPhrase? ["with", "time", "zone"] r).getD t := by
  rw [skipTimeZone]
  cases afterBlanks? t <;> rfl

include hb

/-- One of two readings with blanks behind them, or the text itself. -/
theorem getD_append_blanks {read₁ read₂ : Text → Option Text} (h₁ : ∀ t, read₁ (t ++ b) = (read₁ t).map (· ++ b))
    (h₂ : ∀ t, read₂ (t ++ b) = (read₂ t).map (· ++ b)) (hnil : (read₁ [] <|> read₂ []) = none) (t : Text) :
    ((afterBlanks? (t ++ b)).bind fun r => read₁ r <|> read₂ r).getD (t ++ b) =
      ((afterBlanks? t).bind fun r => read₁ r <|> read₂ r).getD t ++ b := by
  have hread : ∀ t, (read₁ (t ++ b) <|> read₂ (t ++ b)) = (read₁ t <|> read₂ t).map (· ++ b) := by
    intro t
    rw [h₁, h₂]
    cases read₁ t <;> cases read₂ t <;> rfl
  rw [afterBlanks?_bind_append_blanks hb hread hnil]
  cases (afterBlanks? t).bind fun r => read₁ r <|> read₂ r <;> rfl

theorem skipSecondWord_append_blanks (t : Text) : skipSecondWord (t ++ b) = skipSecondWord t ++ b := by
  rw [skipSecondWord_eq, skipSecondWord_eq]
  exact getD_append_blanks hb (afterKeyword?_append_blanks hb (by decide))
    (afterKeyword?_append_blanks hb (by decide)) rfl t

theorem skipTimeZone_append_blanks (t : Text) : skipTimeZone (t ++ b) = skipTimeZone t ++ b := by
  rw [skipTimeZone_eq, skipTimeZone_eq]
  exact getD_append_blanks hb (afterPhrase?_append_blanks hb (by decide))
    (afterPhrase?_append_blanks hb (by decide)) rfl t

theorem skipParameters_append_blanks (t : Text) : skipParameters (t ++ b) = skipParameters t ++ b := by
  by_cases hopen : OpenParameters t
  · have hopen' : OpenParameters (t ++ b) := by
      obtain ⟨hfirst, hlast⟩ := hopen
      refine ⟨by rw [List.head?_append, hfirst]; rfl, fun hm => ?_⟩
      rcases List.mem_append.mp hm with hm | hm
      · exact hlast hm
      · exact absurd (hb _ hm) (by decide)
    rw [skipParameters_open hopen, skipParameters_open hopen']
  · cases b with
    | nil => simp
    | cons c b => exact skipParameters_stop (ne_of_isBlank (hb c List.mem_cons_self) (by decide)) hopen b

theorem skipTypeTail_append_blanks (dialect : Sql) (t : Text) :
    skipTypeTail dialect (t ++ b) = skipTypeTail dialect t ++ b := by
  cases dialect with
  | mysql | sqlite => exact skipParameters_append_blanks hb t
  | postgresql =>
    simp only [skipTypeTail, skipSecondWord_append_blanks hb, skipParameters_append_blanks hb,
      skipTimeZone_append_blanks hb]
    cases b with
    | nil => simp
    | cons c b =>
      have hc := hb c List.mem_cons_self
      exact skipArraySuffixes_stop (isDecimal_of_isBlank hc) (ne_of_isBlank hc (by decide))
        (ne_of_isBlank hc (by decide))
        b _ _ _ (by simp) (Nat.le_refl _)

theorem readTypeText?_append_blanks (dialect : Sql) (t : Text) :
    dialect.readTypeText? (t ++ b) = (dialect.readTypeText? t).map (leaving b) :=
  readTypeText?_append (takeWord_append_blanks hb t) (skipTypeTail_append_blanks hb dialect _)

theorem readName?_append_blanks (dialect : Sql) (t : Text) :
    dialect.readName? (t ++ b) = (dialect.readName? t).map (leaving b) := by
  cases b with
  | nil => cases h : dialect.readName? t <;> simp [h, leaving]
  | cons c b =>
    have hc := hb c List.mem_cons_self
    have hquote : ∀ q ∈ dialect.nameOpeners ++ dialect.nameClosers, isBlank q = false := by cases dialect <;> decide
    have hnot : c ∉ dialect.nameOpeners ++ dialect.nameClosers := fun h => ne_of_isBlank hc (hquote c h) rfl
    rw [List.mem_append, not_or] at hnot
    exact readName?_stop dialect (by simpa using hnot.1) (by simpa using hnot.2) (isWordChar_of_isBlank hc) t b

/-- The name and the type of a column end where they did without the blanks. -/
theorem readColumn?_append_blanks (dialect : Sql) (line : Text) :
    (dialect.readColumn? (line ++ b)).map (fun c => (c.name, c.type)) =
      (dialect.readColumn? line).map (fun c => (c.name, c.type)) := by
  rw [readColumn?_eq, readColumn?_eq, readName?_append_blanks hb]
  cases dialect.readName? line with
  | none => rfl
  | some x =>
    simp only [Option.map_some, Option.bind_some, leaving,
      afterBlanks?_bind_append_blanks hb (readTypeText?_append_blanks hb dialect) rfl x.2]
    cases (afterBlanks? x.2).bind dialect.readTypeText? <;> rfl

end Blanks

/-! ## Characters that are no part of a column -/

theorem isSome_readTypeText? (dialect : Sql) (t : Text) :
    (dialect.readTypeText? t).isSome = !(takeWord t).1.isEmpty := by
  rw [readTypeText?]
  rcases takeWord t with ⟨_ | ⟨c, w⟩, rest⟩ <;> rfl

/-- A line is a column with or without a character that is no part of one and more behind it. -/
theorem isSome_readColumn?_stop (dialect : Sql) {c : Char} (hopen : dialect.nameOpeners.contains c = false)
    (hclose : dialect.nameClosers.contains c = false) (hblank : isBlank c = false) (hword : isWordChar c = false)
    (line u : Text) : (dialect.readColumn? (line ++ c :: u)).isSome = (dialect.readColumn? line).isSome := by
  rw [readColumn?_eq, readColumn?_eq, readName?_stop dialect hopen hclose hword]
  cases dialect.readName? line with
  | none => rfl
  | some x =>
    simp only [Option.map_some, Option.bind_some, leaving, afterBlanks?_stop hblank, Option.isSome_map]
    cases afterBlanks? x.2 with
    | none => rfl
    | some t =>
      have hname := takeWord_stop hword t u
      simp only [Option.map_some, Option.bind_some, isSome_readTypeText?, hname]

/-! ## Open parameters -/

/-- What is skipped for the second word of a type are blanks and word characters. -/
theorem skipSecondWord_split (t : Text) :
    ∃ front, t = front ++ skipSecondWord t ∧ ∀ c ∈ front, isBlank c = true ∨ isWordChar c = true := by
  have hskip : ∀ {w r : Text}, (∀ c ∈ w, isWordChar c = true) → afterKeyword? w (t.dropWhile isBlank) = some r →
      ∃ front, t = front ++ r ∧ ∀ c ∈ front, isBlank c = true ∨ isWordChar c = true := by
    intro w r hw h
    obtain ⟨k, rfl, hk⟩ := eq_append_of_afterKeyword? h
    refine ⟨t.takeWhile isBlank ++ k, ?_, fun c hc => ?_⟩
    · rw [List.append_assoc, ← hk, List.takeWhile_append_dropWhile]
    · rcases List.mem_append.mp hc with hc | hc
      · exact .inl (List.all_eq_true.mp List.all_takeWhile c hc)
      · exact .inr (isWordChar_of_foldChar (hw _ (List.mem_map_of_mem hc)))
  rw [skipSecondWord]
  cases hblanks : afterBlanks? t with
  | none => exact ⟨[], rfl, fun _ h => nomatch h⟩
  | some r =>
    obtain rfl := eq_dropWhile_of_afterBlanks? hblanks
    simp only
    cases hprecision : afterKeyword? "precision" (t.dropWhile isBlank) with
    | some r => exact hskip (by decide) hprecision
    | none =>
      cases hvarying : afterKeyword? "varying" (t.dropWhile isBlank) with
      | some r => exact hskip (by decide) hvarying
      | none => exact ⟨[], rfl, fun _ h => nomatch h⟩

/-- The words of a type are blanks and word characters. -/
theorem behindTypeWords_split (dialect : Sql) (t : Text) :
    ∃ front, t = front ++ behindTypeWords dialect t ∧ ∀ c ∈ front, isBlank c = true ∨ isWordChar c = true := by
  have hword : ∀ c ∈ (takeWord t).1, isWordChar c = true := List.all_eq_true.mp List.all_takeWhile
  cases dialect with
  | mysql | sqlite => exact ⟨(takeWord t).1, (takeWord_append t).symm, fun c hc => .inr (hword c hc)⟩
  | postgresql =>
    obtain ⟨front, hfront, hchars⟩ := skipSecondWord_split (takeWord t).2
    refine ⟨(takeWord t).1 ++ front, ?_, fun c hc => ?_⟩
    · have happend := takeWord_append t
      rw [hfront] at happend
      rw [List.append_assoc]
      exact happend.symm
    · rcases List.mem_append.mp hc with hc | hc
      · exact .inr (hword c hc)
      · exact hchars c hc

theorem skipTypeTail_open {dialect : Sql} {t : Text} (h : OpenParameters (behindTypeWords dialect t)) :
    skipTypeTail dialect (takeWord t).2 = behindTypeWords dialect t := by
  have hparameters := skipParameters_open h
  obtain ⟨inner, hinner⟩ := List.head?_eq_some_iff.mp h.1
  cases dialect with
  | mysql | sqlite => exact hparameters
  | postgresql =>
    have hzone : skipTimeZone ('(' :: inner) = '(' :: inner := rfl
    have harrays : ∀ n, skipArraySuffixes n ('(' :: inner) = '(' :: inner := fun n => by cases n <;> rfl
    rw [hinner] at hparameters ⊢
    simp only [behindTypeWords] at hinner
    simp only [skipTypeTail, hinner, hparameters, hzone, harrays]

/-- A type with open parameters is flat. -/
theorem goType_of_openType {dialect : Sql} {line : Text} {column : ColumnText}
    (h : dialect.readColumn? line = some column) (hopen : OpenType dialect line) :
    ∃ goType, dialect.goType column.type = .ok goType := by
  obtain ⟨behindName, t, behind, hname, ht, htype, _⟩ := readColumn?_eq_some.mp h
  obtain ⟨t', ht', hparameters⟩ := hopen
  have hsame : t = t' := by
    rw [typeStart?, hname] at ht'
    exact Option.some.inj (ht.symm.trans ht')
  rw [← hsame] at hparameters
  obtain ⟨front, hfront, hchars⟩ := behindTypeWords_split dialect t
  have hcolumn : column.type = front := by
    rw [readTypeText?] at htype
    split at htype
    · cases htype
    · rename_i rest hword
      have htail := skipTypeTail_open hparameters
      rw [hword] at htail
      simp only [htail, Option.some.injEq, Prod.mk.injEq] at htype
      have hlength := congrArg List.length hfront
      rw [List.length_append] at hlength
      rw [← htype.1, consumed, show t.length - (behindTypeWords dialect t).length = front.length by omega, hfront,
        List.take_left']
      rfl
  refine ⟨_, goType_of_no_bracket (fun hm => ?_)⟩
  rcases hchars _ (hcolumn ▸ hm) with hc | hc
  · exact absurd hc (by decide)
  · exact absurd hc (by decide)

/-! ## Lines -/

section Line

variable (dialect : Sql) (p u : Text)

/-- The text of a line that goes on behind a character other than a blank. -/
theorem trim_stop {c : Char} (hblank : isBlank c = false) :
    trim (p ++ c :: u) = p.dropWhile isBlank ++ c :: dropEndWhile isBlank u := by
  rw [trim, dropWhile_stop hblank, dropEndWhile_stop hblank]

/-- The text of a line that goes on behind a parenthesis. -/
theorem trim_continued : trim (p ++ ')' :: u) = p.dropWhile isBlank ++ ')' :: dropEndWhile isBlank u :=
  trim_stop p u (by decide)

/-- A line is a constraint with or without a character that is in no phrase and more behind it. -/
theorem isConstraint_trim_stop {c : Char} (hblank : isBlank c = false) (hword : isWordChar c = false) :
    dialect.isConstraint (trim (p ++ c :: u)) = dialect.isConstraint (trim p) := by
  obtain ⟨b, hb, hblanks⟩ := trim_append_of_blanks p
  rw [trim_stop p u hblank, isConstraint_stop hblank hword, hb, isConstraint_append_blanks hblanks]

/-- A line is a constraint with or without a closing parenthesis and more behind it. -/
theorem isConstraint_continued :
    dialect.isConstraint (trim (p ++ ')' :: u)) = dialect.isConstraint (trim p) :=
  isConstraint_trim_stop dialect p u (by decide) (by decide)

/-- A line is a column with or without a character that is no part of one and more behind it. -/
theorem isSome_column?_stop {c : Char} (hopen : dialect.nameOpeners.contains c = false)
    (hclose : dialect.nameClosers.contains c = false) (hblank : isBlank c = false) (hword : isWordChar c = false) :
    (Line.read dialect (trim (p ++ c :: u))).column?.isSome = (Line.read dialect (trim p)).column?.isSome := by
  obtain ⟨b, hb, hblanks⟩ := trim_append_of_blanks p
  have hcolumn := congrArg Option.isSome (readColumn?_append_blanks hblanks dialect (trim p))
  rw [Option.isSome_map, Option.isSome_map] at hcolumn
  rw [column?_read, column?_read, isConstraint_trim_stop dialect p u hblank hword]
  split
  · rfl
  · rw [trim_stop p u hblank, isSome_readColumn?_stop dialect hopen hclose hblank hword, hb, hcolumn]

/-- A line is a column with or without a closing parenthesis and more behind it. -/
theorem isSome_column?_continued :
    (Line.read dialect (trim (p ++ ')' :: u))).column?.isSome = (Line.read dialect (trim p)).column?.isSome :=
  isSome_column?_stop dialect p u (by cases dialect <;> decide) (by cases dialect <;> decide) (by decide) (by decide)

theorem toField_tooDeep_iff {c : ColumnText} :
    c.toField dialect = .error .tooDeep ↔ dialect.goType c.type = .error .tooDeep := by
  rw [ColumnText.toField]
  cases dialect.goType c.type <;> simp [Except.map]

/-- A column whose type is nested too deep keeps it. -/
theorem column?_continued_tooDeep {c : ColumnText} (h : (Line.read dialect (trim p)).column? = some c)
    (hdeep : c.toField dialect = .error .tooDeep) :
    ∃ c', (Line.read dialect (trim (p ++ ')' :: u))).column? = some c' ∧ c'.toField dialect = .error .tooDeep := by
  obtain ⟨b, hb, hblank⟩ := trim_append_of_blanks p
  rw [column?_read] at h
  split at h
  · cases h
  · rename_i hconstraint
    have hcolumn := readColumn?_append_blanks hblank dialect (trim p)
    rw [h, ← hb] at hcolumn
    obtain ⟨c₁, hc₁, hcore⟩ := Option.map_eq_some_iff.mp hcolumn
    have htype : c₁.type = c.type := congrArg Prod.snd hcore
    rw [toField_tooDeep_iff, ← htype] at hdeep
    have hcomplete : ¬OpenType dialect (p.dropWhile isBlank) := by
      intro hopen
      obtain ⟨goType, hgo⟩ := goType_of_openType hc₁ hopen
      rw [hgo] at hdeep
      cases hdeep
    have hstop := readColumn?_stop (c := ')') (by decide) hc₁ hcomplete (dropEndWhile isBlank u)
    refine ⟨{ c₁ with rest := c₁.rest ++ ')' :: dropEndWhile isBlank u }, ?_, (toField_tooDeep_iff dialect).mpr hdeep⟩
    rw [column?_read, isConstraint_continued, if_neg hconstraint, trim_continued, hstop]

end Line

end StructForge.Sql
