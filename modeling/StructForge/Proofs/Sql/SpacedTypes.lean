import StructForge.Proofs.Sql.ArraySuffixes
import StructForge.Proofs.Sql.Fields
import StructForge.Proofs.Sql.RoundTrip
import StructForge.Proofs.Sql.SingleColumns

/-!
# Blanks within types

A type ends at the first blank behind its word, so parameters or array suffixes behind a blank are no part of it. For
parameters this makes no difference where a dialect looks up the word alone: in PostgreSQL, in MySQL except for
`TINYINT(1)`, and in SQLite where the word has a key, or the parameters add no affinity that ranks before its own
(`ParametersDoNotCount`). Array suffixes behind a blank are always lost (`sameType_iff`).
-/

namespace StructForge.Sql

open Text

/-! ## Parameters -/

theorem Scan.depth_next {s : Scan} {c : Char} (hopen : c ≠ '(') (hclose : c ≠ ')') : (s.next c).depth = s.depth := by
  simp only [Scan.next, if_neg hopen, if_neg hclose]
  split
  · rfl
  · split
    · rfl
    · split <;> rfl
  · split <;> rfl

/-- Up to where the parentheses around it close, a text is one piece, whatever quotes it has. -/
theorem scanPieces_inside {t : Text} (hopen : '(' ∉ t) (hclose : ')' ∉ t) {s : Scan} (hs : 0 < s.depth) :
    scanPieces s (t ++ [')']) = [t ++ [')']] := by
  induction t generalizing s with
  | nil =>
    rw [List.nil_append, scanPieces_cons, if_neg (by simp [Scan.separates])]
    rfl
  | cons c t ih =>
    rw [List.mem_cons, not_or] at hopen hclose
    have hdepth : (s.next c).depth = s.depth := Scan.depth_next (Ne.symm hopen.1) (Ne.symm hclose.1)
    have hseparates : ¬s.separates c = true := by
      have hdeep : ¬s.depth ≤ 0 := by omega
      simp [Scan.separates, hdeep]
    rw [List.cons_append, scanPieces_cons, if_neg hseparates, ih hopen.2 hclose.2 (hdepth ▸ hs)]
    rfl

/-- The parameters of a type: a text without parentheses and newlines. -/
structure Parameters where
  text : Text
  no_open : '(' ∉ text
  no_close : ')' ∉ text
  no_newline : '\n' ∉ text

namespace Parameters

variable (p : Parameters)

/-- The parameters in their parentheses. -/
def written : Text := '(' :: (p.text ++ [')'])

/-- The parameters as they are looked up. -/
def normal : Text := collapseBlanks (upper p.text)

theorem piece_written : scanPieces Scan.start p.written = [p.written] :=
  congrArg (putFirst '(') (scanPieces_inside p.no_open p.no_close (by decide))

theorem endsInk_written : EndsInk p.written := ⟨'(' :: p.text, ')', rfl, by decide⟩

theorem newline_not_mem_written : '\n' ∉ p.written := by
  simp [written, p.no_newline]

end Parameters

/-! ## Normal forms -/

section Word

variable {w : Text} (hw : ∀ c ∈ w, isWordChar c = true)
include hw

theorem normalType_word : normalType w = collapseBlanks (upper w) := by
  rw [normalType, trim_of_forall fun c hc => isBlank_of_isWordChar (hw c hc)]

/-- The normal form of a word with more behind it that ends in ink. -/
theorem normalType_word_append (hne : w ≠ []) {d : Char} (hd : isBlank d = false) (hupper : upperChar d = [d])
    {t : Text} (hink : EndsInk (d :: t)) :
    normalType (w ++ d :: t) = normalType w ++ collapseBlanks (d :: upper t) := by
  obtain ⟨c, v, rfl⟩ := List.exists_cons_of_ne_nil hne
  have hc := isBlank_of_isWordChar (hw c List.mem_cons_self)
  have htrim : trim (c :: v ++ d :: t) = c :: v ++ d :: t := trim_eq_self hc (hink.append (c :: v))
  have hsplit : upper (c :: v ++ d :: t) = upper (c :: v) ++ d :: upper t := by simp [upper, hupper]
  rw [normalType_word hw, normalType, htrim, hsplit, collapseBlanks_append hd]

end Word

namespace Parameters

variable (w : Name) (p : Parameters)

/-- The normal form of a word with parameters. -/
theorem normalType_written :
    normalType (w.text ++ p.written) = normalType w.text ++ '(' :: (p.normal ++ [')']) := by
  have hclose : collapseBlanks (upper p.text ++ [')']) = p.normal ++ [')'] := collapseBlanks_append (by decide) [] _
  have hopen : collapseBlanks ('(' :: upper (p.text ++ [')'])) = '(' :: (p.normal ++ [')']) := by
    have hupper : upper (p.text ++ [')']) = upper p.text ++ [')'] := by
      rw [upper, List.flatMap_append]
      rfl
    rw [collapseBlanks.eq_def]
    simp only [show isBlank '(' = false by decide, Bool.false_eq_true, if_false, hupper, hclose]
  rw [← hopen]
  exact normalType_word_append w.word w.nonempty (by decide) (by decide) p.endsInk_written

theorem paren_not_mem_word : '(' ∉ normalType w.text := by
  rw [normalType_word w.word]
  exact not_mem_normalForm (by decide) (by decide) (by decide) (not_mem_of_isWordChar w.word (by decide))

theorem paren_not_mem_normal : ')' ∉ p.normal :=
  not_mem_normalForm (by decide) (by decide) (by decide) p.no_close

end Parameters

/-! ## Types with parameters -/

/-- A text that ends in something else than a bracket has no array suffix. -/
theorem dropArraySuffix?_trim_concat {d : Char} (hd : isBlank d = false) (hne : d ≠ ']') (t : Text) :
    dropArraySuffix? (trim (t ++ [d])) = none := by
  cases hdrop : dropArraySuffix? (trim (t ++ [d])) with
  | none => rfl
  | some base =>
    obtain ⟨digits, -, ht⟩ := dropArraySuffix?_eq_some_iff.mp hdrop
    have hends : t.dropWhile isBlank ++ [d] = base ++ '[' :: digits ++ [']'] := by
      rw [trim_stop t [] hd] at ht
      simpa [dropEndWhile] using ht
    exact absurd (List.singleton_inj.mp (List.append_inj' hends rfl).2) hne

theorem goType_word (dialect : Sql) (w : Name) :
    dialect.goType w.text = .ok ((dialect.lookup? (normalType w.text)).getD Go.TypeName.string) :=
  goType_of_no_bracket (not_mem_of_isWordChar w.word (by decide))

theorem goType_written (dialect : Sql) (w : Name) (p : Parameters) :
    dialect.goType (w.text ++ p.written) =
      .ok ((dialect.lookup? (normalType (w.text ++ p.written))).getD Go.TypeName.string) := by
  refine goType_of_no_suffix ?_
  rw [p.normalType_written w, ← List.cons_append, ← List.append_assoc]
  exact dropArraySuffix?_trim_concat (by decide) (by decide) _

/-- For keys without parentheses, parameters do not matter. -/
theorem longestEligible?_written {α : Type} {table : List (Text × α)} (h : ∀ e ∈ table, '(' ∉ e.1) (w : Name)
    (p : Parameters) :
    longestEligible? table (normalType (w.text ++ p.written)) = longestEligible? table (normalType w.text) := by
  rw [p.normalType_written w]
  exact longestEligible?_congr fun e he => eligible_stop (by decide) (h e he) _ _

theorem occursIn_stop {c : Char} {part : Text} (hc : c ∉ part) (hne : part ≠ []) (t u : Text) :
    occursIn part (t ++ c :: u) = (occursIn part t || occursIn part u) := by
  have hstart : ∀ v, startsWith (v ++ c :: u) part = startsWith v part := by
    intro v
    rw [startsWith, afterPrefix?_stop hc, Option.isSome_map, startsWith]
  induction t with
  | nil =>
    have hnil := hstart []
    rw [List.nil_append] at hnil
    obtain ⟨a, part, rfl⟩ := List.exists_cons_of_ne_nil hne
    change (startsWith (c :: u) (a :: part) || occursIn (a :: part) u) = _
    rw [hnil]
    rfl
  | cons d t ih => rw [List.cons_append, occursIn, ← List.cons_append, hstart, ih, occursIn, Bool.or_assoc]

/-- The Go type of the first affinity that one of the texts has, and that of texts without one. -/
def affinityType (texts : List Text) : Text :=
  ((affinityRules.find? fun rule => rule.1.any fun part => texts.any (occursIn part)).map (·.2)).getD Go.TypeName.string

theorem affinityType_word (t : Text) : (affinity? t).getD Go.TypeName.string = affinityType [t] := by
  simp [affinity?, affinityType]

/-- A type with parameters has the affinities of the word and those of the parameters. -/
theorem affinityType_written (w : Name) (p : Parameters) :
    (affinity? (normalType (w.text ++ p.written))).getD Go.TypeName.string =
      affinityType [normalType w.text, p.normal] := by
  have hparts : ∀ rule ∈ affinityRules, ∀ part ∈ rule.1, ('(' ∉ part ∧ ')' ∉ part) ∧ part ≠ [] := by decide
  have hoccurs : ∀ rule ∈ affinityRules, (rule.1.any (occursIn · (normalType (w.text ++ p.written)))) =
      rule.1.any fun part => [normalType w.text, p.normal].any (occursIn part) := by
    intro rule hrule
    rw [Bool.eq_iff_iff, List.any_eq_true, List.any_eq_true]
    refine exists_congr fun part => and_congr_right fun hpart => ?_
    obtain ⟨⟨hopen, hclose⟩, hne⟩ := hparts rule hrule part hpart
    have hnil : occursIn part [] = false := by
      rw [occursIn]
      simpa using hne
    rw [p.normalType_written w, occursIn_stop hopen hne, occursIn_stop hclose hne, hnil]
    simp
  rw [affinity?, affinityType, ← List.head?_filter, List.filter_congr hoccurs, List.head?_filter]

/-- Whether the parameters behind a word are of no account for its Go type. -/
def ParametersDoNotCount (dialect : Sql) (w : Name) (p : Parameters) : Prop :=
  match dialect with
  | .mysql => normalType (w.text ++ p.written) ≠ "TINYINT(1)"
  | .postgresql => True
  | .sqlite =>
    (longestEligible? sqliteTypes (normalType w.text)).isSome = true ∨
      affinityType [normalType w.text] = affinityType [normalType w.text, p.normal]

theorem not_eligible_tinyint {t : Text} (h : '(' ∉ t) : ¬eligible "TINYINT(1)" t = true := by
  intro helig
  unfold eligible at helig
  cases hrest : afterPrefix? "TINYINT(1)" t with
  | none =>
    rw [hrest] at helig
    cases helig
  | some rest =>
    rw [eq_append_of_afterPrefix? hrest] at h
    exact h (List.mem_append_left rest (by decide))

/-- The only key with parameters is that of `TINYINT(1)`, which has another Go type than `TINYINT`. -/
theorem lookup?_written_mysql (w : Name) (p : Parameters) :
    (lookup? .mysql (normalType (w.text ++ p.written))).getD Go.TypeName.string =
        (lookup? .mysql (normalType w.text)).getD Go.TypeName.string ↔
      normalType (w.text ++ p.written) ≠ "TINYINT(1)" := by
  have hplain : ∀ e ∈ plainTypes .mysql, '(' ∉ e.1 := fun e he => by simpa using (List.mem_filter.mp he).2
  have hword : longestEligible? (types .mysql) (normalType w.text) =
      longestEligible? (plainTypes .mysql) (normalType w.text) :=
    longestEligible?_cons_of_not (not_eligible_tinyint (Parameters.paren_not_mem_word w))
  by_cases h : eligible "TINYINT(1)" (normalType (w.text ++ p.written)) = true
  · rw [p.normalType_written w] at h ⊢
    obtain ⟨hw, hp⟩ := eq_of_eligible_tinyint (Parameters.paren_not_mem_word w) p.paren_not_mem_normal h
    rw [hw, hp]
    exact iff_of_false (by decide) (by decide)
  · have htype : longestEligible? (types .mysql) (normalType (w.text ++ p.written)) =
        longestEligible? (plainTypes .mysql) (normalType (w.text ++ p.written)) := longestEligible?_cons_of_not h
    have hsame : longestEligible? (types .mysql) (normalType (w.text ++ p.written)) =
        longestEligible? (types .mysql) (normalType w.text) :=
      htype.trans ((longestEligible?_written hplain w p).trans hword.symm)
    refine iff_of_true ?_ fun heq => h (by rw [heq]; decide)
    rw [lookup?, lookup?, hsame]
    rfl

/-- A type with parameters is looked up like its word exactly if the parameters are of no account. -/
theorem lookup?_written_iff (dialect : Sql) (w : Name) (p : Parameters) :
    (dialect.lookup? (normalType (w.text ++ p.written))).getD Go.TypeName.string =
      (dialect.lookup? (normalType w.text)).getD Go.TypeName.string ↔ ParametersDoNotCount dialect w p := by
  cases dialect with
  | mysql => exact lookup?_written_mysql w p
  | postgresql =>
    refine iff_of_true ?_ trivial
    rw [lookup?, lookup?, longestEligible?_written (by decide)]
    rfl
  | sqlite =>
    rw [lookup?, lookup?, longestEligible?_written (by decide), ParametersDoNotCount]
    simp only [types]
    cases longestEligible? sqliteTypes (normalType w.text) with
    | some goType => simp
    | none =>
      simp only [if_true, Option.isSome_none, Bool.false_eq_true, false_or]
      rw [affinityType_written, affinityType_word]
      exact eq_comm

/-! ## Types with array suffixes -/

/-- Slices are no Go types of columns without array suffixes. -/
theorem slices_not_mem_columnTypes {depth : Nat} (hdepth : 0 < depth) {element : Text} (h : element ∈ columnTypes) :
    Go.TypeName.slices depth element ∉ columnTypes := by
  have hslice : ∀ type ∈ columnTypes, type.take 2 = "[]" → type.drop 2 = "byte" := by decide
  obtain ⟨depth, rfl⟩ := Nat.exists_eq_succ_of_ne_zero (Nat.pos_iff_ne_zero.mp hdepth)
  intro hmem
  have hbyte : Go.TypeName.slices depth element = "byte" := hslice _ hmem rfl
  cases depth with
  | zero =>
    have hno : ("byte" : Text) ∉ columnTypes := by decide
    exact hno (hbyte ▸ h)
  | succ depth => cases hbyte

theorem not_mem_columnTypes_of_hasSuffixes {type goType : Text} (h : Sql.postgresql.goType type = .ok goType)
    (hsuffixes : HasSuffixes 1 (normalType type)) : goType ∉ columnTypes := by
  rw [Sql.goType, TypeReading.goType] at h
  split at h
  · cases h
  · cases h
    exact slices_not_mem_columnTypes (le_depth_iff.mpr hsuffixes) (goType?_mem_columnTypes .postgresql type)

theorem piece_arraySuffixes (n : Nat) : scanPieces Scan.start (arraySuffixes n) = [arraySuffixes n] := by
  have hplain : ∀ c ∈ ("[]" : Text), isPlain c = true := by decide
  exact (level_of_isPlain fun c hc => hplain c (mem_arraySuffixes hc)).piece

theorem isBlank_of_mem_arraySuffixes (n : Nat) : ∀ c ∈ arraySuffixes n, isBlank c = false := by
  have hall : ∀ c ∈ ("[]" : Text), isBlank c = false := by decide
  exact fun c hc => hall c (mem_arraySuffixes hc)

theorem endsInk_arraySuffixes (n : Nat) : EndsInk (arraySuffixes (n + 1)) :=
  endsInk_of_forall (List.cons_ne_nil _ _) (isBlank_of_mem_arraySuffixes (n + 1))

/-- The suffixes behind a word are suffixes of the type in normal form. -/
theorem hasSuffixes_word (w : Name) (n : Nat) : HasSuffixes 1 (normalType (w.text ++ arraySuffixes (n + 1))) := by
  have hupper : ∀ c ∈ ("[]" : Text), upperChar c = [c] := by decide
  have hsuffixes : collapseBlanks ('[' :: upper (']' :: arraySuffixes n)) = arraySuffixes (n + 1) := by
    have hmem : ∀ c ∈ ']' :: arraySuffixes n, c ∈ arraySuffixes (n + 1) := fun c hc => List.mem_cons_of_mem _ hc
    rw [upper_eq_self fun c hc => hupper c (mem_arraySuffixes (hmem c hc))]
    exact collapseBlanks_of_forall (isBlank_of_mem_arraySuffixes (n + 1))
  have hnormal : normalType (w.text ++ arraySuffixes (n + 1)) = normalType w.text ++ arraySuffixes n ++ ['[', ']'] := by
    rw [List.append_assoc, ← arraySuffixes_succ]
    exact (normalType_word_append w.word w.nonempty (by decide) (by decide) (endsInk_arraySuffixes n)).trans
      (congrArg (normalType w.text ++ ·) hsuffixes)
  rw [hnormal]
  have hdigits : ∀ c ∈ ([] : Text), isDecimal c = true := by simp
  exact .succ (.zero _) hdigits (trim_stop _ [']'] (by decide))

/-! ## Columns with blanks within their types -/

namespace TypedColumn

variable {dialect : Sql} (c : TypedColumn dialect) {table : Name}

/-- What stands behind a blank and is no word is no part of the type. -/
theorem isOnlyField_blank {d : Char} (hblank : isBlank d = false) (hword : isWordChar d = false) {t : Text}
    (hpiece : scanPieces Scan.start (d :: t) = [d :: t]) (hline : '\n' ∉ d :: t) (hink : EndsInk (d :: t)) {f : Field} :
    IsOnlyField dialect table (c.text (' ' :: d :: t)) f ↔
      ColumnText.toField dialect ⟨c.name.name.text, c.word.text, d :: t⟩ = .ok f := by
  have hspace : scanPieces Scan.start (' ' :: d :: t) = [' ' :: d :: t] := congrArg (putFirst ' ') hpiece
  have hends := endsType_of_not_word hblank hword t
  have htype : dialect.readTypeText? (c.word.text ++ ' ' :: d :: t) = some (c.word.text ++ [], ' ' :: d :: t) :=
    c.readTypeText?_word (t := []) hends.startsBlank.atWordEnd (skipTypeTail_append dialect (.inl rfl) hends)
  have hdrop : (' ' :: d :: t).dropWhile isBlank = d :: t := by
    rw [List.dropWhile_cons_of_pos (by decide), List.dropWhile_cons_of_neg (by rw [hblank]; exact Bool.false_ne_true)]
  have hend : EndsInk (c.word.text ++ ' ' :: d :: t) := by
    rw [show c.word.text ++ ' ' :: d :: t = c.word.text ++ [' '] ++ d :: t by simp]
    exact hink.append _
  rw [c.isOnlyField_iff_toField hspace (by simpa using hline) hend
    (c.isConstraint_text (b := [' ']) (by decide) hblank hword t) htype, hdrop, List.append_nil]

/-- What stands directly behind the word, up to the end of the column, may all belong to the type. -/
theorem isOnlyField_whole {d : Char} (hblank : isBlank d = false) (hword : isWordChar d = false) {t : Text}
    (hpiece : scanPieces Scan.start (d :: t) = [d :: t]) (hline : '\n' ∉ d :: t) (hink : EndsInk (d :: t))
    (htail : dialect.skipTypeTail (d :: t) = []) {f : Field} :
    IsOnlyField dialect table (c.text (d :: t)) f ↔
      ColumnText.toField dialect ⟨c.name.name.text, c.word.text ++ d :: t, []⟩ = .ok f := by
  have hend : atWordEnd (d :: t ++ []) = true := by simp [atWordEnd, hword]
  have htype := c.readTypeText?_word hend (by rw [List.append_nil]; exact htail)
  rw [List.append_nil] at htype
  exact c.isOnlyField_iff_toField hpiece hline (hink.append c.word.text)
    (c.isConstraint_text (b := []) (by simp) hblank hword t) htype

/-- A column that ends with its type has no other field with a blank behind it. -/
theorem isOnlyField_word {f : Field} :
    (IsOnlyField dialect table (c.text []) f ↔ ColumnText.toField dialect ⟨c.name.name.text, c.word.text, []⟩ = .ok f) ∧
      (IsOnlyField dialect table (c.text [' ']) f ↔
        ColumnText.toField dialect ⟨c.name.name.text, c.word.text, []⟩ = .ok f) := by
  have hink : EndsInk (c.word.text ++ []) := by
    rw [List.append_nil]
    exact endsInk_of_isWordChar c.word.nonempty c.word.word
  have hconstraint : dialect.isConstraint (c.text []) = false := by
    rw [text, List.append_nil, c.not_constraint]
  have htype : dialect.readTypeText? (c.word.text ++ []) = some (c.word.text, []) := by
    have hend : dialect.skipTypeTail ([] ++ []) = [] := by cases dialect <;> rfl
    simpa using c.readTypeText?_word (t := []) rfl hend
  have hfront : EndsInk (c.text []) := by
    rw [text, show c.name.text ++ ' ' :: (c.word.text ++ []) = c.name.text ++ [' '] ++ (c.word.text ++ []) by simp]
    exact hink.append _
  have htrim : trim (c.text [' ']) = c.text [] := by
    obtain ⟨a, u, hname, ha⟩ := c.exists_start
    have hstart : c.text [] = a :: (u ++ ' ' :: (c.word.text ++ [])) := by rw [text, hname, List.cons_append]
    rw [← List.nil_append [' '], c.text_append]
    rw [hstart] at hfront ⊢
    exact trim_append_of_ends ha hfront (by decide)
  have hline : bodyLines (c.text [' ']) = [c.text []] := by
    rw [bodyLines_singleton (splitAtLineEnds_no_newline (c.newline_not_mem_text (by decide))) (c.piece_text rfl)
      (by rw [htrim]; exact c.text_ne_nil []), htrim]
  exact ⟨c.isOnlyField_iff_toField rfl (by simp) hink hconstraint htype,
    isOnlyField_iff (c.text_ne_nil _) hline (c.column?_text hconstraint htype)⟩

end TypedColumn

theorem skipTypeTail_written (dialect : Sql) (p : Parameters) : dialect.skipTypeTail p.written = [] := by
  have hparameters : skipParameters p.written = [] := skipParameters_closed p.no_close []
  cases dialect with
  | mysql | sqlite => exact hparameters
  | postgresql =>
    have hsecond : skipSecondWord p.written = p.written := rfl
    simp only [skipTypeTail, hsecond, hparameters]
    rfl

theorem toField_of_goType {dialect : Sql} {column : ColumnText} {goType : Text}
    (h : dialect.goType column.type = .ok goType) : column.toField dialect = .ok (column.fieldOf dialect goType) := by
  rw [ColumnText.toField, h]
  rfl

/-- **Blanks within types.** A column with parameters at the word of its type, and one with a blank between them, are
the only fields of their tables, and have the same Go type exactly if the parameters are of no account. With array
suffixes in the place of parameters they have the same Go type only if there are none. -/
theorem sameType_iff (table : Name) :
    (∀ (dialect : Sql) (c : TypedColumn dialect) (p : Parameters), ∃ f g,
      IsOnlyField dialect table (c.text p.written) f ∧ IsOnlyField dialect table (c.text (' ' :: p.written)) g ∧
        (f.targetType = g.targetType ↔ ParametersDoNotCount dialect c.word p)) ∧
    ∀ (c : TypedColumn .postgresql) (n : Nat),
      (∃ f g, IsOnlyField .postgresql table (c.text (arraySuffixes n)) f ∧
        IsOnlyField .postgresql table (c.text (' ' :: arraySuffixes n)) g ∧ f.targetType = g.targetType) ↔ n = 0 := by
  constructor
  · intro dialect c p
    exact ⟨_, _,
      (c.isOnlyField_whole (by decide) (by decide) p.piece_written p.newline_not_mem_written p.endsInk_written
        (skipTypeTail_written dialect p)).mpr (toField_of_goType (goType_written dialect c.word p)),
      (c.isOnlyField_blank (by decide) (by decide) p.piece_written p.newline_not_mem_written p.endsInk_written).mpr
        (toField_of_goType (goType_word dialect c.word)),
      lookup?_written_iff dialect c.word p⟩
  · intro c n
    cases n with
    | zero =>
      have hfield : ColumnText.toField .postgresql ⟨c.name.name.text, c.word.text, []⟩ = .ok _ :=
        toField_of_goType (goType_word .postgresql c.word)
      exact iff_of_true ⟨_, _, c.isOnlyField_word.1.mpr hfield, c.isOnlyField_word.2.mpr hfield, rfl⟩ rfl
    | succ n =>
      have hline : '\n' ∉ arraySuffixes (n + 1) := fun h => absurd (mem_arraySuffixes h) (by decide)
      refine iff_of_false ?_ (Nat.succ_ne_zero n)
      rintro ⟨f, g, hf, hg, htype⟩
      obtain ⟨slices, hslices, rfl⟩ := exists_goType_of_toField
        ((c.isOnlyField_whole (by decide) (by decide) (piece_arraySuffixes (n + 1)) hline (endsInk_arraySuffixes n)
          (skipTypeTail_arraySuffixes (n + 1))).mp hf)
      obtain ⟨element, helement, rfl⟩ := exists_goType_of_toField
        ((c.isOnlyField_blank (by decide) (by decide) (piece_arraySuffixes (n + 1)) hline
          (endsInk_arraySuffixes n)).mp hg)
      -- the suffixes make slices, and the word alone has a type without slices
      refine not_mem_columnTypes_of_hasSuffixes hslices (hasSuffixes_word c.word n) ?_
      obtain rfl : slices = element := htype
      rw [goType_word, Except.ok.injEq] at helement
      exact helement ▸ lookup?_mem_columnTypes .postgresql _

/-- A column of texts for PostgreSQL. -/
def tagsColumn : TypedColumn .postgresql where
  name := .quoted ⟨⟨"tags", by decide, by decide⟩, ('"', '"'), doubleQuotes_mem⟩
  word := ⟨"TEXT", by decide, by decide⟩
  not_constraint := by decide

/-- The Go types of the fields of a statement. -/
def targetTypes? (dialect : Sql) (t : Text) : Option (List Text) :=
  (readSchema dialect t).toOption.map fun schema => schema.fields.map (·.targetType)

/-- Behind a blank, the array suffix is lost. -/
theorem targetTypes?_tagsColumn :
    statementOf usersName (tagsColumn.text " []") = "CREATE TABLE users (\"tags\" TEXT [])" ∧
      targetTypes? .postgresql (statementOf usersName (tagsColumn.text "[]")) = some [("[]string" : Text)] ∧
      targetTypes? .postgresql (statementOf usersName (tagsColumn.text " []")) = some [("string" : Text)] := by
  decide +kernel

end StructForge.Sql
