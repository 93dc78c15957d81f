import StructForge.Proofs.Naming
import StructForge.Proofs.Sql.Splitting
import StructForge.Sql.ColumnType

/-!
# The types of the type table

A column type that is a word of a dialect's type table, with or without a list of numbers in parentheses, is given
the Go type of the table (`goType_typeWord`). The normal form of such a type is the type itself but for the blanks in
the list (`normalType_typeWord`), it has no array suffix, and no key but the word itself is eligible for it, unless the
whole type is a key (`longestEligible?_typeWord`).
-/

namespace StructForge.Sql

open Text

/-! ## Words and parameters -/

/-- The words of a dialect's type table: its keys without parameters. -/
def typeWords (dialect : Sql) : List Text := (dialect.types.map (·.1)).filter (!·.contains '(')

/-- The characters of a list of numbers. -/
def listChars : Text := "0123456789+-, "

/-- The parameters of a type: nothing, or a list of numbers in parentheses. -/
def IsParameters (u : Text) : Prop := u = [] ∨ ∃ list, u = '(' :: (list ++ [')']) ∧ ∀ c ∈ list, c ∈ listChars

/-- The characters of parameters. -/
theorem IsParameters.mem_chars {u : Text} (hu : IsParameters u) {c : Char} (hc : c ∈ u) :
    c ∈ '(' :: (listChars ++ [')']) := by
  rcases hu with rfl | ⟨list, rfl, hl⟩
  · cases hc
  · simp only [List.mem_cons, List.mem_append, List.not_mem_nil, or_false] at hc ⊢
    exact hc.imp_right (Or.imp_left (hl c))

/-- The characters of the words of type tables. -/
def typeWordChars : Text := "ABCDEFGHIJKLMNOPQRSTUVWXYZ "

/-- The entries without parameters. -/
def plainTypes (dialect : Sql) : List (Text × Text) := dialect.types.filter (!·.1.contains '(')

/-- What is read off the tables: how their words look, and that each word is the longest key for itself. -/
theorem typeWord_spec (dialect : Sql) : ∀ w ∈ dialect.typeWords,
    ((∀ c ∈ w, c ∈ typeWordChars) ∧ w.dropWhile isBlank = w ∧ dropEndWhile isBlank w = w ∧ collapseBlanks w = w) ∧
      longestEligible? dialect.types w = dialect.types.lookup w ∧
      longestEligible? dialect.plainTypes w = dialect.types.lookup w ∧ (dialect.types.lookup w).isSome = true := by
  cases dialect <;> decide +kernel

/-- Only MySQL's table has a key with parameters. -/
theorem types_eq (dialect : Sql) :
    dialect.types =
      (if dialect = .mysql then [(("TINYINT(1)" : Text), Go.TypeName.bool)] else []) ++ dialect.plainTypes := by
  cases dialect <;> decide

theorem paren_not_mem_typeWord {dialect : Sql} {w : Text} (hw : w ∈ dialect.typeWords) : '(' ∉ w := by
  simpa using (List.mem_filter.mp hw).2

theorem paren_not_mem_list {list : Text} (h : ∀ c ∈ list, c ∈ listChars) : ')' ∉ list := by
  intro hm
  have := h _ hm
  revert this
  decide

/-! ## Normal form -/

theorem upper_eq_self {t : Text} (h : ∀ c ∈ t, upperChar c = [c]) : upper t = t := by
  induction t with
  | nil => rfl
  | cons c t ih =>
    rw [upper, List.flatMap_cons, h c List.mem_cons_self, ← upper, ih (fun d hd => h d (List.mem_cons_of_mem _ hd))]
    rfl

/-- What a character becomes, and then the rest. -/
theorem collapseBlanks_cons_cons (d e : Char) (t : Text) :
    collapseBlanks (d :: e :: t) =
      (if isBlank d then if isBlank e then [] else [' '] else [d]) ++ collapseBlanks (e :: t) := by
  rw [collapseBlanks.eq_def]
  by_cases hd : isBlank d = true
  · by_cases he : isBlank e = true <;> simp [hd, he]
  · simp [hd]

/-- In front of a character that is no blank, the blanks of a text collapse by themselves. -/
theorem collapseBlanks_append {c : Char} (hc : isBlank c = false) (u : Text) : ∀ t : Text,
    collapseBlanks (t ++ c :: u) = collapseBlanks t ++ collapseBlanks (c :: u)
  | [] => rfl
  | [d] => by
    rw [List.singleton_append, collapseBlanks_cons_cons, hc]
    by_cases hd : isBlank d = true <;> simp [collapseBlanks, hd]
  | d :: e :: t => by
    have ih := collapseBlanks_append hc u (e :: t)
    rw [List.cons_append, List.cons_append, collapseBlanks_cons_cons, ← List.cons_append, ih, collapseBlanks_cons_cons,
      List.append_assoc]

theorem mem_collapseBlanks {c : Char} : ∀ {t : Text}, c ∈ collapseBlanks t → c ∈ t ∨ c = ' '
  | [], h => by cases h
  | [d], h => by
    by_cases hd : isBlank d = true
    · simp only [collapseBlanks, hd, if_true, List.mem_singleton] at h
      exact .inr h
    · simp only [collapseBlanks, hd, Bool.false_eq_true, if_false] at h
      exact .inl h
  | d :: e :: t, h => by
    rw [collapseBlanks_cons_cons] at h
    rcases List.mem_append.mp h with h | h
    · split at h
      · split at h
        · cases h
        · exact .inr (List.mem_singleton.mp h)
      · exact .inl (List.mem_singleton.mp h ▸ List.mem_cons_self)
    · exact (mem_collapseBlanks h).imp_left (List.mem_cons_of_mem d)

/-- Parameters stay parameters when their blanks collapse. -/
theorem IsParameters.collapseBlanks {u : Text} (hu : IsParameters u) : IsParameters (collapseBlanks u) := by
  rcases hu with rfl | ⟨list, rfl, hl⟩
  · exact .inl rfl
  · refine .inr ⟨Text.collapseBlanks list, ?_, fun c hc => ?_⟩
    · rw [Text.collapseBlanks.eq_def]
      simp only [show isBlank '(' = false by decide, Bool.false_eq_true, if_false]
      rw [collapseBlanks_append (by decide)]
      rfl
    · rcases mem_collapseBlanks hc with hc | rfl
      · exact hl c hc
      · decide

theorem trim_typeWord {dialect : Sql} {w u : Text} (hw : w ∈ dialect.typeWords) (hu : IsParameters u) :
    trim (w ++ u) = w ++ u := by
  obtain ⟨⟨_, hfirst, hlast, _⟩, _⟩ := typeWord_spec dialect w hw
  rcases hu with rfl | ⟨list, rfl, _⟩
  · rw [List.append_nil, trim, hfirst, hlast]
  · rw [trim, dropWhile_stop (by decide), hfirst, ← List.cons_append, ← List.append_assoc,
      dropEndWhile_stop (by decide)]
    rfl

/-- The normal form of a type of the table. -/
theorem normalType_typeWord {dialect : Sql} {w u : Text} (hw : w ∈ dialect.typeWords) (hu : IsParameters u) :
    normalType (w ++ u) = w ++ collapseBlanks u := by
  obtain ⟨⟨hchars, _, _, hcollapse⟩, _⟩ := typeWord_spec dialect w hw
  have hupper : ∀ c ∈ w ++ u, upperChar c = [c] := by
    have hword : ∀ c ∈ typeWordChars, upperChar c = [c] := by decide
    have hlist : ∀ c ∈ '(' :: (listChars ++ [')']), upperChar c = [c] := by decide
    intro c hc
    rcases List.mem_append.mp hc with hc | hc
    · exact hword c (hchars c hc)
    · exact hlist c (hu.mem_chars hc)
  rw [normalType, trim_typeWord hw hu, upper_eq_self hupper]
  rcases hu with rfl | ⟨list, rfl, _⟩
  · rw [List.append_nil, hcollapse]
    exact (List.append_nil w).symm
  · rw [collapseBlanks_append (by decide), hcollapse]

/-! ## Look-up -/

/-- What follows a character that is neither in a key nor a letter does not matter for the key. -/
theorem eligible_stop {c : Char} (hc : isLetter c = false) {k : Text} (hk : c ∉ k) (t u : Text) :
    eligible k (t ++ c :: u) = eligible k t := by
  unfold eligible
  rw [afterPrefix?_stop hk]
  rcases afterPrefix? k t with _ | _ | ⟨d, r⟩ <;> simp [hc]

/-- Only the entries whose keys are eligible matter. -/
theorem longestEligible?_congr {α : Type} {table : List (Text × α)} {t t' : Text}
    (h : ∀ e ∈ table, eligible e.1 t = eligible e.1 t') : longestEligible? table t = longestEligible? table t' := by
  unfold longestEligible?
  rw [List.filter_congr h]

theorem longestEligible?_cons_of_not {α : Type} {e : Text × α} {table : List (Text × α)} {t : Text}
    (h : ¬eligible e.1 t = true) : longestEligible? (e :: table) t = longestEligible? table t := by
  unfold longestEligible?
  rw [List.filter_cons, if_neg h]

theorem longestEligible?_plainTypes {dialect : Sql} {w : Text} (hw : w ∈ dialect.typeWords) (u : Text) :
    longestEligible? dialect.plainTypes (w ++ '(' :: u) = dialect.types.lookup w := by
  obtain ⟨_, _, hplain, _⟩ := typeWord_spec dialect w hw
  have hcongr : longestEligible? dialect.plainTypes (w ++ '(' :: u) = longestEligible? dialect.plainTypes w := by
    refine longestEligible?_congr fun e he => eligible_stop (by decide) ?_ w u
    simpa using (List.mem_filter.mp he).2
  rw [hcongr, hplain]

/-- The type words with a list of numbers that are keys. -/
theorem eq_of_eligible_tinyint {w list : Text} (hw : '(' ∉ w) (hl : ')' ∉ list)
    (h : eligible "TINYINT(1)" (w ++ '(' :: (list ++ [')'])) = true) : w = "TINYINT" ∧ list = "1" := by
  unfold eligible at h
  cases hr : afterPrefix? "TINYINT(1)" (w ++ '(' :: (list ++ [')'])) with
  | none => rw [hr] at h; cases h
  | some r =>
    have hprefix := eq_append_of_afterPrefix? hr
    have he : w ++ '(' :: (list ++ [')']) = ("TINYINT" : Text) ++ '(' :: (("1" : Text) ++ ')' :: r) := hprefix
    obtain ⟨rfl, h₁⟩ := append_cons_inj hw (by decide) he
    obtain ⟨rfl, _⟩ := append_cons_inj hl (by decide) h₁
    exact ⟨rfl, rfl⟩

/-- The Go type that the table gives a word with parameters: that of the whole type, with one space for every run of
blanks, if it is a key, else that of the word. -/
def tableType (dialect : Sql) (w u : Text) : Text :=
  ((dialect.types.lookup (w ++ collapseBlanks u)).or (dialect.types.lookup w)).getD Go.TypeName.string

theorem lookup_plainTypes {dialect : Sql} {t : Text} (ht : '(' ∈ t) : dialect.plainTypes.lookup t = none := by
  rw [List.lookup_eq_none_iff]
  intro e he
  have hne : '(' ∉ e.1 := by simpa using (List.mem_filter.mp he).2
  simpa using fun h : t = e.1 => hne (h ▸ ht)

theorem longestEligible?_typeWord {dialect : Sql} {w u : Text} (hw : w ∈ dialect.typeWords) (hu : IsParameters u) :
    longestEligible? dialect.types (w ++ u) = (dialect.types.lookup (w ++ u)).or (dialect.types.lookup w) := by
  obtain ⟨_, hword, _, _⟩ := typeWord_spec dialect w hw
  rcases hu with rfl | ⟨list, rfl, hlist⟩
  · rw [List.append_nil, hword, Option.or_self]
  · have hplain := longestEligible?_plainTypes hw (list ++ [')'])
    have hnone : dialect.plainTypes.lookup (w ++ '(' :: (list ++ [')'])) = none := lookup_plainTypes (by simp)
    have htypes := types_eq dialect
    by_cases h : dialect = .mysql ∧ eligible "TINYINT(1)" (w ++ '(' :: (list ++ [')'])) = true
    · obtain ⟨rfl, h⟩ := h
      obtain ⟨rfl, rfl⟩ := eq_of_eligible_tinyint (paren_not_mem_typeWord hw) (paren_not_mem_list hlist) h
      decide
    · -- no key with parameters is eligible
      have hfront : longestEligible? dialect.types (w ++ '(' :: (list ++ [')'])) =
            longestEligible? dialect.plainTypes (w ++ '(' :: (list ++ [')'])) ∧
          dialect.types.lookup (w ++ '(' :: (list ++ [')'])) = none := by
        rw [htypes]
        split
        · rename_i hd
          have hne : ¬eligible "TINYINT(1)" (w ++ '(' :: (list ++ [')'])) = true := fun e => h ⟨hd, e⟩
          refine ⟨longestEligible?_cons_of_not hne, ?_⟩
          have hkey : w ++ '(' :: (list ++ [')']) ≠ "TINYINT(1)" := fun e => hne (by rw [e]; decide)
          rw [List.singleton_append, List.lookup_cons, beq_false_of_ne hkey, hnone]
        · exact ⟨rfl, hnone⟩
      rw [hfront.1, hfront.2, hplain, Option.none_or]

/-! ## Array suffixes -/

/-- A character of ASCII that is no blank and no capital is in a normal form only if it was there before. -/
theorem not_mem_normalForm {c : Char} (hascii : c.toNat < 0x80) (hcapital : Naming.isCapital c = false) (hc : c ≠ ' ')
    {t : Text} (h : c ∉ t) : c ∉ collapseBlanks (upper t) := by
  intro hm
  rcases mem_collapseBlanks hm with hm | hm
  · obtain ⟨d, hd, hm⟩ := List.mem_flatMap.mp hm
    rcases mem_upperChar hm hascii with hnew | ⟨rfl, -⟩
    · rw [hcapital] at hnew
      cases hnew
    · exact h hd
  · exact hc hm

theorem bracket_not_mem_normalType {type : Text} (h : ']' ∉ type) : ']' ∉ normalType type :=
  not_mem_normalForm (by decide) (by decide) (by decide) fun hm => h (mem_of_mem_trim hm)

theorem dropArraySuffix?_of_no_bracket {type : Text} (h : ']' ∉ type) : dropArraySuffix? type = none := by
  simp only [dropArraySuffix?]
  split
  · rename_i back hback
    exact absurd (List.mem_reverse.mp (hback ▸ List.mem_cons_self)) h
  · rfl

/-- A type without an array suffix at its end is looked up as a whole. -/
theorem goType_of_no_suffix {dialect : Sql} {type : Text} (h : dropArraySuffix? (trim (normalType type)) = none) :
    dialect.goType type = .ok ((dialect.lookup? (normalType type)).getD Go.TypeName.string) := by
  have hpeel : ∀ n, peelArrays n (normalType type) = (0, normalType type) := by
    intro n
    cases n with
    | zero => rfl
    | succ n => rw [peelArrays, h]
  rw [goType, readType, hpeel]
  cases dialect <;> rfl

/-- A type without brackets is looked up as a whole. -/
theorem goType_of_no_bracket {dialect : Sql} {type : Text} (h : ']' ∉ type) :
    dialect.goType type = .ok ((dialect.lookup? (normalType type)).getD Go.TypeName.string) :=
  goType_of_no_suffix (dropArraySuffix?_of_no_bracket fun hm => bracket_not_mem_normalType h (mem_of_mem_trim hm))

/-- A type of the table has the Go type of the table. -/
theorem goType_typeWord {dialect : Sql} {w u : Text} (hw : w ∈ dialect.typeWords) (hu : IsParameters u) :
    dialect.goType (w ++ u) = .ok (dialect.tableType w u) := by
  obtain ⟨⟨hchars, _⟩, _, _, hsome⟩ := typeWord_spec dialect w hw
  have hbracket : ']' ∉ w ++ u := by
    intro hm
    rcases List.mem_append.mp hm with hm | hm
    · exact absurd (hchars _ hm) (by decide)
    · exact absurd (hu.mem_chars hm) (by decide)
  have hlookup : lookup? dialect (w ++ collapseBlanks u) =
      (dialect.types.lookup (w ++ collapseBlanks u)).or (dialect.types.lookup w) := by
    obtain ⟨v, hv⟩ := Option.isSome_iff_exists.mp hsome
    rw [lookup?, longestEligible?_typeWord hw hu.collapseBlanks, hv]
    cases dialect.types.lookup (w ++ collapseBlanks u) <;> rfl
  rw [goType_of_no_bracket hbracket, normalType_typeWord hw hu, hlookup, tableType]

end StructForge.Sql
