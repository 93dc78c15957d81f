import StructForge.Proofs.Naming.FileNames
import StructForge.Proofs.Naming.Spelling

/-!
# File names of snake-case tables

The file for the struct of a snake-case table is named like the table. In the name of the struct every word starts with a
capital and has something else behind it (`exists_capitalised`), so that no two capitals are neighbours and no acronym is
broken (`breakAcronyms_flatMap`), and an underscore comes back in front of each word but the first (`breakWords_flatMap`).
Lower case undoes the capitals (`lower_join_capitalise`), and there is nothing to trim.
-/

namespace StructForge

namespace Text

/-! ## Lower case in ASCII -/

theorem lowerChar_of_ascii {c : Char} (h : c.toNat < 0x80) (before after : Text) :
    lowerChar before c after = [c.toLower] := by
  have hsigma : c ≠ 'Σ' := by
    rintro rfl
    simp at h
  have halone : lowerChar [] c [] = [c.toLower] :=
    of_ascii (P := fun c => lowerChar [] c [] = [c.toLower]) (by decide +kernel) h
  rw [lowerChar, if_neg hsigma] at halone ⊢
  exact halone

theorem lowerFrom_of_ascii : ∀ (before : Text) {t : Text}, (∀ c ∈ t, c.toNat < 0x80) →
    lowerFrom before t = t.map Char.toLower
  | _, [], _ => rfl
  | before, c :: t, h => by
    rw [List.forall_mem_cons] at h
    rw [lowerFrom, lowerChar_of_ascii h.1, lowerFrom_of_ascii _ h.2]
    rfl

/-- In ASCII, lower case does not depend on what is around a character. -/
theorem lower_of_ascii {t : Text} (h : ∀ c ∈ t, c.toNat < 0x80) : lower t = t.map Char.toLower :=
  lowerFrom_of_ascii [] h

end Text

namespace Naming

open Text

/-! ## Words of snake case -/

/-- A small letter or a digit of ASCII. -/
def isSnakeChar (c : Char) : Bool := isSmall c || c.isDigit

/-- A small letter with at least one more small letter or digit behind it, all of ASCII. -/
def isSnakeWord : Text → Bool
  | [] => false
  | c :: t => isSmall c && !t.isEmpty && t.all isSnakeChar

/-- What is known of the characters of such words. -/
structure SnakeChar (c : Char) : Prop where
  ascii : c.toNat < 0x80
  decimal : (isSmall c || isDecimal c) = true
  alphanumeric : isAlphanumeric c = true
  not_capital : isCapital c = false
  toLower_eq : c.toLower = c
  ne_underscore : c ≠ '_'

theorem snakeChar_of_isSnakeChar {c : Char} (h : isSnakeChar c = true) : SnakeChar c := by
  have hascii : c.toNat < 0x80 := by
    rcases Bool.or_eq_true_iff.mp h with hsmall | hdigit
    · exact toNat_lt_of_isSmall hsmall
    · simp [Char.isDigit, UInt32.le_iff_toNat_le] at hdigit
      omega
  have hfacts : (isSmall c || isDecimal c) = true ∧ isAlphanumeric c = true ∧ isCapital c = false ∧ c.toLower = c ∧
      c ≠ '_' := by
    revert h
    exact of_ascii (P := fun c => isSnakeChar c = true → (isSmall c || isDecimal c) = true ∧ isAlphanumeric c = true ∧
      isCapital c = false ∧ c.toLower = c ∧ c ≠ '_') (by decide +kernel) hascii
  obtain ⟨hdecimal, halnum, hcapital, hlower, hne⟩ := hfacts
  exact ⟨hascii, hdecimal, halnum, hcapital, hlower, hne⟩

/-- A word and its capitalised form, which starts with a capital and goes on with the rest of the word. -/
theorem exists_capitalised {word : Text} (h : isSnakeWord word = true) : ∃ c d e t, word = c :: e :: t ∧
    isSmall c = true ∧ capitalise word = d :: e :: t ∧ isCapital d = true ∧ d.toLower = c ∧
    ∀ x ∈ e :: t, SnakeChar x := by
  obtain _ | ⟨c, _ | ⟨e, t⟩⟩ := word
  · simp [isSnakeWord] at h
  · simp [isSnakeWord] at h
  · obtain ⟨hc, ht⟩ : isSmall c = true ∧ ∀ x ∈ e :: t, isSnakeChar x = true := by simpa [isSnakeWord] using h
    obtain ⟨d, hd, hcapital, hback, -⟩ := exists_upperChar_of_isSmall hc
    have hlower : d.toLower = Char.ofNat (d.toNat + 0x20) :=
      of_isCapital (P := fun d => d.toLower = Char.ofNat (d.toNat + 0x20)) (by decide +kernel) hcapital
    exact ⟨c, d, e, t, rfl, hc, by simp [capitalise, hd], hcapital, by rw [hlower, hback],
      fun x hx => snakeChar_of_isSnakeChar (ht x hx)⟩

theorem snakeChar_of_mem {word : Text} (h : isSnakeWord word = true) {c : Char} (hc : c ∈ word) : SnakeChar c := by
  obtain ⟨d, -, e, t, rfl, hd, -, -, -, ht⟩ := exists_capitalised h
  rcases List.mem_cons.mp hc with rfl | hc
  · exact snakeChar_of_isSnakeChar (by simp [isSnakeChar, hd])
  · exact ht c hc

theorem isLowerWord_of_isSnakeWord {word : Text} (h : isSnakeWord word = true) : isLowerWord word = true := by
  obtain ⟨c, -, e, t, rfl, hc, -, -, -, ht⟩ := exists_capitalised h
  have hrest : ∀ x ∈ e :: t, (isAlphanumeric x && !isCapital x) = true := by
    intro x hx
    simp [(ht x hx).alphanumeric, (ht x hx).not_capital]
  rw [isLowerWord, hc, List.all_eq_true.mpr hrest]
  rfl

/-! ## Underscores between words -/

/-- Where no two capitals are neighbours, no acronym ends. -/
theorem breakAcronyms_append (u : Text) : ∀ {t : Text}, (∀ c ∈ t, isCapital c = false) →
    breakAcronyms (t ++ u) = t ++ breakAcronyms u
  | [], _ => rfl
  | c :: t, h => by
    rw [List.forall_mem_cons] at h
    have ih := breakAcronyms_append u h.2
    rw [List.cons_append, List.cons_append, ← ih]
    rcases t ++ u with _ | ⟨a, _ | ⟨b, v⟩⟩
    · rfl
    · rfl
    · simp [breakAcronyms, h.1]

theorem breakAcronyms_capital {d e : Char} (he : isCapital e = false) (t : Text) :
    breakAcronyms (d :: e :: t) = d :: breakAcronyms (e :: t) := by
  cases t with
  | nil => rfl
  | cons b t => simp [breakAcronyms, he]

/-- A capital in front of a word is where the word before it ends. -/
theorem breakWords_append {u : Text} (hne : u ≠ []) (hu : OpensWord u) : ∀ {c : Char} {t : Text},
    (∀ x ∈ c :: t, SnakeChar x) → breakWords (c :: t ++ u) = c :: t ++ '_' :: breakWords u
  | c, [], h => by
    obtain ⟨d, v, rfl⟩ := List.exists_cons_of_ne_nil hne
    have hc := (h c List.mem_cons_self).decimal
    simp [breakWords, hc, hu d rfl]
  | c, e :: t, h => by
    rw [List.forall_mem_cons] at h
    have he := (h.2 e List.mem_cons_self).not_capital
    have ih := breakWords_append hne hu h.2
    rw [List.cons_append] at ih ⊢
    rw [List.cons_append, breakWords, if_neg (by simp [he]), ih]
    rfl

theorem breakWords_of_forall {t : Text} (h : ∀ c ∈ t.tail, isCapital c = false) : breakWords t = t := by
  fun_induction breakWords t with
  | case1 a b t hbreak ih => simp [h b (by simp)] at hbreak
  | case2 a b t hbreak ih => rw [ih fun c hc => h c (List.mem_cons_of_mem b hc)]
  | case3 t hshort => rfl

section Words

variable {words : List Text} (h : ∀ word ∈ words, isSnakeWord word = true)
include h

theorem opensWord_words : OpensWord (words.flatMap capitalise) :=
  opensWord_flatMap fun word hword => isLowerWord_of_isSnakeWord (h word hword)

theorem breakAcronyms_flatMap : breakAcronyms (words.flatMap capitalise) = words.flatMap capitalise := by
  induction words with
  | nil => rfl
  | cons word rest ih =>
    rw [List.forall_mem_cons] at h
    obtain ⟨-, d, e, t, -, -, hcapitalise, -, -, ht⟩ := exists_capitalised h.1
    have hplain : ∀ c ∈ e :: t, isCapital c = false := fun c hc => (ht c hc).not_capital
    have hrest := breakAcronyms_append (rest.flatMap capitalise) hplain
    rw [List.flatMap_cons, hcapitalise, List.cons_append, List.cons_append,
      breakAcronyms_capital (hplain e List.mem_cons_self), ← List.cons_append, hrest, ih h.2]

/-- The words are told apart again. -/
theorem breakWords_flatMap : breakWords (words.flatMap capitalise) = join "_" (words.map capitalise) := by
  induction words with
  | nil => rfl
  | cons word rest ih =>
    have hopens := opensWord_words (List.forall_mem_cons.mp h).2
    rw [List.forall_mem_cons] at h
    obtain ⟨-, d, e, t, -, -, hcapitalise, hd, -, ht⟩ := exists_capitalised h.1
    cases rest with
    | nil =>
      simp only [List.flatMap_cons, List.flatMap_nil, List.append_nil, hcapitalise, List.map_cons, List.map_nil, join]
      exact breakWords_of_forall fun c hc => (ht c hc).not_capital
    | cons next rest =>
      have hne : (next :: rest).flatMap capitalise ≠ [] := by
        obtain ⟨-, d, e, t, -, -, hnext, -⟩ := exists_capitalised (h.2 next List.mem_cons_self)
        simp [hnext]
      have he := (ht e List.mem_cons_self).not_capital
      rw [List.flatMap_cons, hcapitalise, List.cons_append, List.cons_append, breakWords, if_neg (by simp [he]),
        ← List.cons_append, breakWords_append hne hopens ht, ih h.2]
      simp [join, hcapitalise]

/-- Lower case undoes the capitals. -/
theorem lower_join_capitalise : lower (join "_" (words.map capitalise)) = join "_" words := by
  have hword : ∀ word ∈ words, (∀ c ∈ capitalise word, c.toNat < 0x80) ∧ (capitalise word).map Char.toLower = word := by
    intro word hmem
    obtain ⟨c, d, e, t, rfl, -, hcapitalise, hd, hlower, ht⟩ := exists_capitalised (h word hmem)
    have hrest : (e :: t).map Char.toLower = e :: t :=
      (List.map_congr_left fun x hx => (ht x hx).toLower_eq).trans (List.map_id _)
    rw [hcapitalise, List.map_cons, hlower, hrest, List.forall_mem_cons]
    exact ⟨⟨toNat_lt_of_isCapital hd, fun x hx => (ht x hx).ascii⟩, rfl⟩
  have hascii : ∀ c ∈ join "_" (words.map capitalise), c.toNat < 0x80 := by
    intro c hc
    rcases mem_join hc with hc | ⟨piece, hpiece, hc⟩
    · rw [List.mem_singleton.mp hc]
      decide
    · obtain ⟨word, hmem, rfl⟩ := List.mem_map.mp hpiece
      exact (hword word hmem).1 c hc
  have hback : (words.map capitalise).map (·.map Char.toLower) = words := by
    rw [List.map_map]
    exact (List.map_congr_left fun word hmem => (hword word hmem).2).trans (List.map_id _)
  rw [lower_of_ascii hascii, map_join, hback]
  rfl

theorem trimWhere_join : trimWhere (· == '_') (join "_" words) = join "_" words := by
  have hchar : ∀ word ∈ words, ∀ c ∈ word, (c == '_') = false := by
    intro word hword c hc
    simpa using (snakeChar_of_mem (h word hword) hc).ne_underscore
  have hne : ∀ word ∈ words, word ≠ [] := by
    intro word hword
    obtain ⟨c, -, e, t, rfl, -⟩ := exists_capitalised (h word hword)
    simp
  refine trimWhere_eq_self ?_ ?_
  · cases words with
    | nil => simp [join]
    | cons first rest =>
      rw [head?_join _ (hne first List.mem_cons_self)]
      exact fun c hc => hchar first List.mem_cons_self c (List.mem_of_mem_head? hc)
  · obtain rfl | ⟨front, last, rfl⟩ := List.eq_nil_or_concat words
    · simp [join]
    · rw [List.concat_eq_append] at hne hchar ⊢
      have hlast : last ∈ front ++ [last] := by simp
      rw [getLast?_join _ _ (hne last hlast)]
      exact fun c hc => hchar last hlast c (List.mem_of_mem_getLast? hc)

/-! ## Struct names and file names -/

theorem camel_join (hne : words ≠ []) : camel (join "_" words) = words.flatMap capitalise := by
  have hsplit : splitOn '_' (join "_" words) = words := splitOn_join hne fun word hword hmem =>
    (snakeChar_of_mem (h word hword) hmem).ne_underscore rfl
  have hsegments : segments (join "_" words) = words := by
    have hlower : ∀ word ∈ splitOn '_' (join "_" words), isLowerWord word = true := by
      rw [hsplit]
      exact fun word hword => isLowerWord_of_isSnakeWord (h word hword)
    rw [segments_of_separated (show isAlphanumeric '_' = false by decide) hlower, hsplit]
  obtain ⟨word, rest, rfl⟩ := List.exists_cons_of_ne_nil hne
  obtain ⟨-, d, e, t, -, -, hcapitalise, hd, -⟩ := exists_capitalised (h word List.mem_cons_self)
  rw [camel, hsegments, List.flatMap_cons, hcapitalise]
  simp [isDigit_of_isCapital hd]

/-- The name of the file for the struct is that of the table. -/
theorem fileName_camel (hne : words ≠ []) : fileName (camel (join "_" words)) = join "_" words ++ ".go" := by
  rw [fileName, snake, camel_join h hne, breakAcronyms_flatMap h, breakWords_flatMap h, lower_join_capitalise h,
    trimWhere_join h]

end Words

/-- **File names recover snake case.** Of a table whose name is made of words with underscores between them, the file for
the struct has the name; so two such tables have files of their own. -/
theorem fileName_camel_snakeCase {words : List Text} (hne : words ≠ []) (h : ∀ word ∈ words, isSnakeWord word = true) :
    fileName (camel (join "_" words)) = join "_" words ++ ".go" ∧
      ∀ others : List Text, others ≠ [] → (∀ word ∈ others, isSnakeWord word = true) →
        join "_" words ≠ join "_" others → fileName (camel (join "_" words)) ≠ fileName (camel (join "_" others)) := by
  refine ⟨fileName_camel h hne, ?_⟩
  intro others hothers h' hdifferent hsame
  rw [fileName_camel h hne, fileName_camel h' hothers] at hsame
  exact hdifferent (List.append_cancel_right hsame)

/-- Two tables whose names differ in where a word starts, and their files. -/
theorem fileName_camel_snakeCase_items :
    fileName (camel "order_item_s2") = "order_item_s2.go" ∧
      fileName (camel "order_item_s2") ≠ fileName (camel "order_items2") := by
  have hwords : ∀ word ∈ (["order", "item", "s2"] : List Text), isSnakeWord word = true := by decide
  obtain ⟨hname, hother⟩ := fileName_camel_snakeCase (by simp) hwords
  exact ⟨hname, hother ["order", "items2"] (by simp) (by decide) (by decide)⟩

/-- Words of one letter are taken for an acronym. -/
example : fileName (camel "plan_a_b") = "plan_ab.go" := by decide +kernel

end Naming

end StructForge
