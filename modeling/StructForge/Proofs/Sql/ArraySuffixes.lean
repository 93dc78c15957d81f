import StructForge.Proofs.Nesting
import StructForge.Proofs.Sql.ColumnReading
import StructForge.Proofs.Sql.ContinuedLines
import StructForge.Proofs.Sql.Statements

/-!
# Array suffixes

The array suffixes at the end of a type are counted one by one (`HasSuffixes`). Peeling has fuel for all of them
(`le_peelArrays_iff`), so the depth of a type of PostgreSQL is the number of its suffixes, and a type is too deep
exactly if it has more than `maxArrayDepth` (`goType_tooDeep_iff`). A statement is refused for its types exactly if it
has a column with such a type (`readSchema_tooDeep_iff`).

A column may have any number of suffixes (`read_arrayTable`).
-/

namespace StructForge.Sql

open Text

/-! ## Suffixes of a text -/

/-- At least some number of array suffixes stand at the end of a text, blanks between them allowed. -/
inductive HasSuffixes : Nat → Text → Prop
  | zero (t : Text) : HasSuffixes 0 t
  | succ {n : Nat} {base digits t : Text} (hbase : HasSuffixes n base) (hdigits : ∀ c ∈ digits, isDecimal c = true)
      (ht : trim t = base ++ '[' :: (digits ++ [']'])) : HasSuffixes (n + 1) t

/-- What is dropped is an array suffix. -/
theorem dropArraySuffix?_eq_some_iff {t base : Text} :
    dropArraySuffix? t = some base ↔
      ∃ digits, (∀ c ∈ digits, isDecimal c = true) ∧ t = base ++ '[' :: (digits ++ [']']) := by
  constructor
  · intro h
    rw [dropArraySuffix?] at h
    split at h
    · rename_i back hback
      split at h
      · rename_i front hfront
        obtain ⟨digits, hdigits, hsplit⟩ :
            ∃ digits, (∀ c ∈ digits, isDecimal c = true) ∧ back = digits ++ '[' :: front :=
          ⟨back.takeWhile isDecimal, List.all_eq_true.mp List.all_takeWhile,
            by rw [← hfront, List.takeWhile_append_dropWhile]⟩
        refine ⟨digits.reverse, fun c hc => hdigits c (List.mem_reverse.mp hc), ?_⟩
        rw [← List.reverse_reverse t, hback, hsplit, ← Option.some.inj h]
        simp
      · cases h
    · cases h
  · rintro ⟨digits, hdigits, rfl⟩
    have hreverse : (base ++ '[' :: (digits ++ [']'])).reverse = ']' :: (digits.reverse ++ '[' :: base.reverse) := by
      simp
    have hdrop : (digits.reverse ++ '[' :: base.reverse).dropWhile isDecimal = '[' :: base.reverse := by
      rw [List.dropWhile_append_of_pos fun c hc => hdigits c (List.mem_reverse.mp hc)]
      rfl
    rw [dropArraySuffix?, hreverse]
    simp only [hdrop, List.reverse_reverse]

theorem hasSuffixes_succ_iff {n : Nat} {t : Text} :
    HasSuffixes (n + 1) t ↔ ∃ base, dropArraySuffix? (trim t) = some base ∧ HasSuffixes n base := by
  constructor
  · rintro (_ | ⟨hbase, hdigits, ht⟩)
    exact ⟨_, dropArraySuffix?_eq_some_iff.mpr ⟨_, hdigits, ht⟩, hbase⟩
  · rintro ⟨base, hdrop, hbase⟩
    obtain ⟨digits, hdigits, ht⟩ := dropArraySuffix?_eq_some_iff.mp hdrop
    exact .succ hbase hdigits ht

theorem length_trim_le (t : Text) : (trim t).length ≤ t.length := by
  obtain ⟨b, hb, -⟩ := dropEndWhile_append isBlank (t.dropWhile isBlank)
  have hdrop := (List.dropWhile_suffix isBlank (l := t)).length_le
  rw [hb, List.length_append] at hdrop
  rw [trim]
  omega

/-- What is left without a suffix is shorter. -/
theorem length_lt_of_dropArraySuffix? {t base : Text} (h : dropArraySuffix? (trim t) = some base) :
    base.length < t.length := by
  obtain ⟨digits, -, ht⟩ := dropArraySuffix?_eq_some_iff.mp h
  have hle := length_trim_le t
  rw [ht, List.length_append, List.length_cons] at hle
  omega

/-- All suffixes are peeled off, by induction on the fuel, of which a text needs no more than its length. -/
theorem le_peelArrays_iff {n fuel : Nat} {t : Text} (hfuel : t.length ≤ fuel) :
    n ≤ (peelArrays fuel t).1 ↔ HasSuffixes n t := by
  induction fuel generalizing n t with
  | zero =>
    obtain rfl := List.eq_nil_of_length_eq_zero (Nat.le_zero.mp hfuel)
    cases n with
    | zero => exact iff_of_true (Nat.le_refl 0) (.zero [])
    | succ n =>
      rw [hasSuffixes_succ_iff]
      refine iff_of_false (Nat.not_succ_le_zero n) ?_
      rintro ⟨base, hdrop, -⟩
      cases hdrop
  | succ fuel ih =>
    cases n with
    | zero => exact iff_of_true (Nat.zero_le _) (.zero t)
    | succ n =>
      rw [hasSuffixes_succ_iff, peelArrays]
      cases hdrop : dropArraySuffix? (trim t) with
      | none =>
        refine iff_of_false (Nat.not_succ_le_zero n) ?_
        rintro ⟨base, hbase, -⟩
        cases hbase
      | some base =>
        have hlt := length_lt_of_dropArraySuffix? hdrop
        have hbase := ih (n := n) (t := base) (by omega)
        simp only [Nat.add_le_add_iff_right, Option.some.injEq, exists_eq_left']
        exact hbase

theorem HasSuffixes.of_le {m n : Nat} {t : Text} (h : HasSuffixes n t) (hle : m ≤ n) : HasSuffixes m t := by
  rw [← le_peelArrays_iff (Nat.le_refl _)] at h ⊢
  exact Nat.le_trans hle h

/-! ## Types that are too deep -/

/-- The depth of a type of PostgreSQL is the number of its suffixes. -/
theorem le_depth_iff {n : Nat} {type : Text} :
    n ≤ (readType .postgresql type).depth ↔ HasSuffixes n (normalType type) := by
  rw [← le_peelArrays_iff (Nat.le_refl _), readType]
  simp only [if_true]
  split
  · rename_i h
    rw [h]
  · rename_i h
    rw [h]

/-- The other dialects count none. -/
theorem depth_of_ne_postgresql {dialect : Sql} (h : dialect ≠ .postgresql) (type : Text) :
    (readType dialect type).depth = 0 := by
  rw [readType]
  simp only [if_neg h]

/-- A type is too deep exactly if it has more suffixes than there is room for. -/
theorem goType_tooDeep_iff {dialect : Sql} {type : Text} :
    dialect.goType type = .error .tooDeep ↔
      dialect = .postgresql ∧ HasSuffixes (maxArrayDepth + 1) (normalType type) := by
  have hdepth : dialect.goType type = .error .tooDeep ↔ maxArrayDepth < (readType dialect type).depth := by
    rw [goType, TypeReading.goType]
    split
    · rename_i h
      exact iff_of_true rfl h
    · rename_i h
      exact iff_of_false (by simp) h
  rw [hdepth]
  by_cases hpostgresql : dialect = .postgresql
  · subst hpostgresql
    exact le_depth_iff.trans (iff_and_self.mpr fun _ => rfl)
  · rw [depth_of_ne_postgresql hpostgresql]
    exact iff_of_false (Nat.not_lt_zero _) fun h => hpostgresql h.1

/-! ## Statements with types that are too deep -/

theorem Statement.read_ne_typeTooDeep (dialect : Sql) (t : Text) :
    Statement.read dialect t ≠ .error .typeTooDeep := by
  rw [Statement.read]
  split
  · simp
  · split <;> simp

/-- A text is refused for its types exactly if a column of its statement has a type that is too deep. -/
theorem readSchema_tooDeep_iff {dialect : Sql} {t : Text} :
    readSchema dialect t = .error .typeTooDeep ↔
      ∃ s, Statement.read dialect t = .ok s ∧ ∃ c ∈ s.columns, dialect.goType c.type = .error .tooDeep := by
  rw [readSchema]
  cases hread : Statement.read dialect t with
  | error e =>
    refine iff_of_false (fun h => ?_) nofun
    obtain rfl : e = .typeTooDeep := Except.error.inj h
    exact Statement.read_ne_typeTooDeep dialect t hread
  | ok s =>
    have hfields : s.columns.mapM (ColumnText.toField dialect) = .error .tooDeep ↔
        ∃ c ∈ s.columns, dialect.goType c.type = .error .tooDeep :=
      mapM_eq_tooDeep_iff.trans (exists_congr fun c => and_congr_right fun _ => toField_tooDeep_iff dialect)
    simp only [Except.ok.injEq, exists_eq_left', ← hfields, Except.bind, Statement.toSchema]
    rcases s.columns.mapM (ColumnText.toField dialect) with ⟨⟨⟩⟩ | fields
    · exact iff_of_true rfl rfl
    · exact iff_of_false nofun nofun

/-! ## Columns with suffixes -/

/-- That many array suffixes. -/
def arraySuffixes : Nat → Text
  | 0 => []
  | n + 1 => '[' :: ']' :: arraySuffixes n

theorem arraySuffixes_succ (n : Nat) : arraySuffixes (n + 1) = arraySuffixes n ++ ['[', ']'] := by
  induction n with
  | zero => rfl
  | succ n ih => exact congrArg (fun t => '[' :: ']' :: t) ih

theorem mem_arraySuffixes {c : Char} {n : Nat} (h : c ∈ arraySuffixes n) : c ∈ ("[]" : Text) := by
  induction n with
  | zero => cases h
  | succ n ih =>
    rw [arraySuffixes_succ] at h
    exact (List.mem_append.mp h).elim ih id

theorem length_arraySuffixes (n : Nat) : n ≤ (arraySuffixes n).length := by
  induction n with
  | zero => exact Nat.zero_le _
  | succ n ih => exact Nat.succ_le_succ (Nat.le_succ_of_le ih)

/-- The type with that many suffixes behind the word `INT`. -/
def arrayType (n : Nat) : Text := "INT" ++ arraySuffixes n

theorem mem_arrayType {c : Char} {n : Nat} (h : c ∈ arrayType n) : c ∈ ("INT[]" : Text) := by
  have hword : ∀ c ∈ ("INT" : Text), c ∈ ("INT[]" : Text) := by decide
  have hsuffix : ∀ c ∈ ("[]" : Text), c ∈ ("INT[]" : Text) := by decide
  exact (List.mem_append.mp h).elim (hword c) fun h => hsuffix c (mem_arraySuffixes h)

theorem isBlank_of_mem_arrayType (n : Nat) : ∀ c ∈ arrayType n, isBlank c = false := by
  have hall : ∀ c ∈ ("INT[]" : Text), isBlank c = false := by decide
  exact fun c hc => hall c (mem_arrayType hc)

/-- Without blanks there is nothing to collapse. -/
theorem collapseBlanks_of_forall {t : Text} (h : ∀ c ∈ t, isBlank c = false) : collapseBlanks t = t := by
  induction t with
  | nil => rfl
  | cons c t ih =>
    rw [List.forall_mem_cons] at h
    rw [collapseBlanks.eq_def]
    simp only [h.1, Bool.false_eq_true, if_false, ih h.2]

theorem normalType_arrayType (n : Nat) : normalType (arrayType n) = arrayType n := by
  have hupper : ∀ c ∈ ("INT[]" : Text), upperChar c = [c] := by decide
  rw [normalType, trim_of_forall (isBlank_of_mem_arrayType n), upper_eq_self fun c hc => hupper c (mem_arrayType hc),
    collapseBlanks_of_forall (isBlank_of_mem_arrayType n)]

theorem hasSuffixes_arrayType (n : Nat) : HasSuffixes n (arrayType n) := by
  induction n with
  | zero => exact .zero _
  | succ n ih =>
    have hlast : trim (arrayType (n + 1)) = arrayType n ++ '[' :: ([] ++ [']']) := by
      rw [trim_of_forall (isBlank_of_mem_arrayType _), arrayType, arraySuffixes_succ, ← List.append_assoc]
      rfl
    exact .succ ih (fun c hc => absurd hc List.not_mem_nil) hlast

/-- All suffixes are read with the type. -/
theorem skipArraySuffixes_arraySuffixes {n fuel : Nat} (h : n ≤ fuel) :
    skipArraySuffixes fuel (arraySuffixes n) = [] := by
  induction n generalizing fuel with
  | zero => cases fuel <;> rfl
  | succ n ih =>
    cases fuel with
    | zero => cases h
    | succ fuel => exact ih (Nat.le_of_succ_le_succ h)

/-- The array suffixes behind the word of a type are all that belongs to it. -/
theorem skipTypeTail_arraySuffixes (n : Nat) : skipTypeTail .postgresql (arraySuffixes n) = [] := by
  have hsecond : skipSecondWord (arraySuffixes n) = arraySuffixes n := by cases n <;> rfl
  have hparameters : skipParameters (arraySuffixes n) = arraySuffixes n := by cases n <;> rfl
  have hzone : skipTimeZone (arraySuffixes n) = arraySuffixes n := by cases n <;> rfl
  simp only [skipTypeTail, hsecond, hparameters, hzone]
  exact skipArraySuffixes_arraySuffixes (length_arraySuffixes n)

theorem readTypeText?_arrayType (n : Nat) : Sql.postgresql.readTypeText? (arrayType n) = some (arrayType n, []) := by
  have hend : atWordEnd (arraySuffixes n) = true := by cases n <;> rfl
  have hword : ∀ c ∈ ("INT" : Text), isWordChar c = true := by decide
  have htake : takeWord (arrayType n ++ []) = (("INT" : Text), arraySuffixes n) := by
    rw [List.append_nil]
    exact takeWord_append_of hword hend
  have hread : Sql.postgresql.readTypeText? (arrayType n ++ []) = some (arrayType n, []) :=
    readTypeText?_of (by rw [htake]; exact List.cons_ne_nil _ _) (by rw [htake]; exact skipTypeTail_arraySuffixes n)
  rwa [List.append_nil] at hread

/-- A column with that type. -/
def arrayColumn (n : Nat) : Text := 'a' :: ' ' :: arrayType n

theorem readColumn?_arrayColumn (n : Nat) :
    Sql.postgresql.readColumn? (arrayColumn n) = some ⟨"a", arrayType n, []⟩ := by
  refine readColumn?_eq_some.mpr ⟨' ' :: arrayType n, arrayType n, [], ?_, ?_, readTypeText?_arrayType n, rfl⟩
  · exact readName?_bare .postgresql (List.cons_ne_nil 'a' []) (by decide) rfl
  · exact afterBlanks?_append (b := [' ']) (by decide) (by decide) rfl

theorem line_arrayColumn (n : Nat) :
    Line.read .postgresql (arrayColumn n) = .column ⟨"a", arrayType n, []⟩ := by
  have hconstraint : Sql.postgresql.isConstraint (arrayColumn n) = false := by
    cases n with
    | zero => decide +kernel
    | succ n =>
      have hstop : Sql.postgresql.isConstraint (arrayColumn (n + 1)) = Sql.postgresql.isConstraint "a INT" :=
        isConstraint_stop (by decide) (by decide) "a INT" (']' :: arraySuffixes n)
      exact hstop.trans (by decide +kernel)
  rw [Line.read, hconstraint, readColumn?_arrayColumn]
  rfl

theorem mem_arrayColumn {c : Char} {n : Nat} (h : c ∈ arrayColumn n) : c ∈ ("a INT[]" : Text) := by
  have htype : ∀ c ∈ ("INT[]" : Text), c ∈ ("a INT[]" : Text) := by decide
  rcases List.mem_cons.mp h with rfl | h
  · decide
  · rcases List.mem_cons.mp h with rfl | h
    · decide
    · exact htype c (mem_arrayType h)

/-- The column is one line of a body. -/
theorem bodyLines_arrayColumn (n : Nat) : bodyLines (arrayColumn n) = [arrayColumn n] := by
  have hplain : ∀ c ∈ ("a INT[]" : Text), isPlain c = true := by decide
  have hlevel : Level (arrayColumn n) := level_of_isPlain fun c hc => hplain c (mem_arrayColumn hc)
  have hcomma : ',' ∉ arrayColumn n := fun h => absurd (mem_arrayColumn h) (by decide)
  have hne : arrayType n ≠ [] := List.append_ne_nil_of_left_ne_nil (by decide) _
  have hink : EndsInk (arrayColumn n) := (endsInk_of_forall hne (isBlank_of_mem_arrayType n)).append ['a', ' ']
  have htrim : trim (arrayColumn n) = arrayColumn n := trim_eq_self (by decide) hink
  rw [bodyLines_singleton (splitAtLineEnds_no_comma hcomma) hlevel.piece (trim_ne_nil (by decide) _), htrim]

/-- A table with one column, which has that many array suffixes. -/
def arrayTable (n : Nat) : Text := "CREATE TABLE t " ++ '(' :: (arrayColumn n ++ [')'])

theorem read_arrayTable (n : Nat) :
    Statement.read .postgresql (arrayTable n) = .ok ⟨"t", [.column ⟨"a", arrayType n, []⟩]⟩ := by
  have hhead : Sql.postgresql.findHead? "CREATE TABLE t " = some (("t" : Text), [' ']) := by decide +kernel
  have hcolumn : arrayColumn n ≠ [] := List.cons_ne_nil 'a' _
  have hparts := Statement.read_of_parts hhead (by decide) hcolumn (List.not_mem_nil (a := ')'))
  rw [bodyLines_arrayColumn, List.map_singleton, line_arrayColumn] at hparts
  exact hparts

theorem goType_arrayType {n : Nat} (h : maxArrayDepth < n) :
    Sql.postgresql.goType (arrayType n) = .error .tooDeep := by
  rw [goType_tooDeep_iff, normalType_arrayType]
  exact ⟨rfl, (hasSuffixes_arrayType n).of_le h⟩

end StructForge.Sql
