import StructForge.Proofs.Sql.Declarations

/-!
# How a declared column is read

A declared column is no table constraint (`ColumnDecl.not_isConstraint`), it is read as its name, its type and its
clauses (`ColumnDecl.readColumn?_text`), and becomes the field that it asks for (`ColumnDecl.toField_read`). For the
last of these the clauses have to be found among the keywords and nowhere else: the keywords of the clauses form a code
without prefixes (`clauseWords_spec`), so a phrase occurs in the clauses if it is one of them (`Clause.words_infix`),
and a phrase that occurs in the whole definition occurs behind the type (`hasPhrase_behind_type`).
-/

namespace StructForge.Sql

open Text

/-! ## Clauses among keywords -/

/-- The keywords of the clauses of a dialect. -/
def clauseWords (dialect : Sql) : List (List Text) :=
  ["not", "null"] :: ["primary", "key"] :: dialect.generatedPhrases

theorem Clause.words_mem {dialect : Sql} : ∀ c : Clause dialect, c.words ∈ dialect.clauseWords
  | .notNull => List.mem_cons_self
  | .primaryKey => List.mem_cons_of_mem _ List.mem_cons_self
  | .generated phrase => List.mem_cons_of_mem _ (List.mem_cons_of_mem _ phrase.2)

/-- No clause starts within another one, and none is the start of another one. -/
theorem clauseWords_spec (dialect : Sql) : ∀ a ∈ dialect.clauseWords, ∀ c ∈ dialect.clauseWords,
    a ≠ [] ∧ a.headD [] ∉ c.tail ∧ (a <+: c → a = c) := by
  cases dialect <;> decide

theorem Clause.words_inj {dialect : Sql} {a c : Clause dialect} (h : a.words = c.words) : a = c := by
  have hgen : ∀ p ∈ dialect.generatedPhrases, p.head? ≠ some "not" ∧ p.head? ≠ some "primary" := by
    cases dialect <;> decide
  have hhead := congrArg List.head? h
  match a, c with
  | .notNull, .notNull | .primaryKey, .primaryKey => rfl
  | .notNull, .primaryKey | .primaryKey, .notNull => simp [words] at hhead
  | .notNull, .generated p => exact absurd hhead.symm (hgen p.1 p.2).1
  | .primaryKey, .generated p => exact absurd hhead.symm (hgen p.1 p.2).2
  | .generated p, .notNull => exact absurd hhead (hgen p.1 p.2).1
  | .generated p, .primaryKey => exact absurd hhead (hgen p.1 p.2).2
  | .generated p, .generated q => rw [Subtype.ext h]

theorem Clause.words_prefix {dialect : Sql} {a c : Clause dialect} (x : List Text) :
    a.words <+: c.words ++ x ↔ a = c := by
  constructor
  · intro h
    rcases List.prefix_or_prefix_of_prefix h (List.prefix_append c.words x) with h | h
    · exact Clause.words_inj ((clauseWords_spec dialect _ a.words_mem _ c.words_mem).2.2 h)
    · exact Clause.words_inj ((clauseWords_spec dialect _ c.words_mem _ a.words_mem).2.2 h).symm
  · rintro rfl
    exact List.prefix_append _ _

/-- What starts with a word is not found across words other than that. -/
theorem cons_infix_append_iff {p : Text} {ps x : List Text} : ∀ {s : List Text}, p ∉ s →
    ((p :: ps) <:+: s ++ x ↔ (p :: ps) <:+: x)
  | [], _ => Iff.rfl
  | a :: s, h => by
    have ha : ¬p = a := fun e => h (e ▸ List.mem_cons_self)
    rw [List.cons_append, List.infix_cons_iff, List.cons_prefix_cons,
      cons_infix_append_iff (fun hm => h (List.mem_cons_of_mem a hm))]
    simp [ha]

/-- The keywords of a clause occur among the keywords of clauses if it is one of them. -/
theorem Clause.words_infix {dialect : Sql} (a : Clause dialect) : ∀ cs : List (Clause dialect),
    a.words <:+: cs.flatMap Clause.words ↔ a ∈ cs
  | [] => by
    have hne := (clauseWords_spec dialect _ a.words_mem _ a.words_mem).1
    simp [List.infix_nil, hne]
  | c :: cs => by
    have ih := Clause.words_infix a cs
    have hprefix := Clause.words_prefix (a := a) (c := c) (cs.flatMap Clause.words)
    have hne := (clauseWords_spec dialect _ c.words_mem _ c.words_mem).1
    obtain ⟨hane, hhead, _⟩ := clauseWords_spec dialect _ a.words_mem _ c.words_mem
    obtain ⟨p, ps, ha⟩ := List.exists_cons_of_ne_nil hane
    obtain ⟨q, qs, hc⟩ := List.exists_cons_of_ne_nil hne
    rw [List.flatMap_cons, List.mem_cons, ← ih, ← hprefix]
    rw [ha, hc] at hhead ⊢
    rw [List.cons_append, List.infix_cons_iff, cons_infix_append_iff (show p ∉ qs from hhead)]

/-! ## What stands behind the type -/

namespace ColumnDecl

variable {dialect : Sql} (d : ColumnDecl dialect)

/-- The clauses without the white space in front of them. -/
def rest : Text := d.clauseText.dropWhile isBlank

/-- Keywords as they are written are words with blanks between them, behind blanks. -/
theorem spaced_written (k : Keyword) : ∀ {ks : List Keyword}, IsPhrase ((k :: ks).map (·.text)) →
    ∃ t, (k :: ks).flatMap Keyword.written = k.gap.text ++ t ∧ Spaced ((k :: ks).map (·.text)) t
  | [], _ => ⟨k.text, by simp [Keyword.written], .one k.text⟩
  | l :: ks, h => by
    obtain ⟨t, ht, hs⟩ := spaced_written l (fun w hw => h w (List.mem_cons_of_mem _ hw))
    refine ⟨k.text ++ (l.gap.text ++ t), ?_, .cons l.gap.blank l.gap.nonempty hs⟩
    rw [List.flatMap_cons, ht, Keyword.written, List.append_assoc]

/-- Behind the type comes nothing, or a gap and the keywords of the clauses. -/
theorem clauseText_cases : (d.clauses = [] ∧ d.clauseText = [] ∧ d.rest = []) ∨
    ∃ gap : Gap, d.clauseText = gap.text ++ d.rest ∧ d.clauses ≠ [] ∧ Spaced (d.keywords.map (·.text)) d.rest := by
  have hphrase := d.isPhrase_keywords
  have hspelling := d.spelling
  cases hk : d.keywords with
  | nil =>
    left
    rw [hk] at hspelling
    have hclauses : d.clauses = [] := by
      cases hc : d.clauses with
      | nil => rfl
      | cons c cs =>
        rw [hc, List.flatMap_cons] at hspelling
        have hne := (clauseWords_spec dialect _ c.words_mem _ c.words_mem).1
        exact absurd (List.append_eq_nil_iff.mp hspelling.symm).1 hne
    have hnil : d.clauseText = [] := by rw [clauseText, hk]; rfl
    exact ⟨hclauses, hnil, by rw [rest, hnil]; rfl⟩
  | cons k ks =>
    right
    rw [hk] at hphrase hspelling
    obtain ⟨t, ht, hs⟩ := spaced_written k hphrase
    have htext : d.clauseText = k.gap.text ++ t := by rw [clauseText, hk, ht]
    have hstart := hs.dropWhile_isBlank (hphrase _ List.mem_cons_self)
    have hrest : d.rest = t := by rw [rest, htext, dropWhile_isBlank_append k.gap.blank, hstart]
    refine ⟨k.gap, by rw [htext, hrest], fun hc => ?_, hrest ▸ hs⟩
    rw [hc] at hspelling
    cases hspelling

/-- The clauses are words with blanks between them. -/
theorem spaced_rest : Spaced (d.keywords.map (·.text)) d.rest := by
  rcases d.clauseText_cases with ⟨hc, _, hrest⟩ | ⟨_, _, _, hs⟩
  · have hspelling := d.spelling
    rw [hc] at hspelling
    rw [hrest, List.map_eq_nil_iff.mp hspelling]
    exact .nil
  · exact hs

/-- The first word behind the type is the first word of a clause. -/
theorem firstWord_rest (h : d.clauses ≠ []) :
    (takeWord d.rest).1.map foldChar ∈ dialect.clauseWords.map (·.headD []) := by
  have hs := d.spaced_rest
  have hphrase := d.isPhrase_keywords
  have hspelling := d.spelling
  obtain ⟨c, cs, hc⟩ := List.exists_cons_of_ne_nil h
  obtain ⟨q, qs, hq⟩ := List.exists_cons_of_ne_nil (clauseWords_spec dialect _ c.words_mem _ c.words_mem).1
  rw [hc, List.flatMap_cons, hq, List.cons_append] at hspelling
  cases hk : d.keywords.map (·.text) with
  | nil => rw [hk] at hspelling; cases hspelling
  | cons k ks =>
    rw [hk] at hspelling hs hphrase
    rw [foldWords_cons] at hspelling
    have hword : (takeWord d.rest).1 = k := hs.takeWord (hphrase k List.mem_cons_self).2
    rw [hword, (List.cons.inj hspelling).1]
    exact List.mem_map.mpr ⟨c.words, c.words_mem, by rw [hq]; rfl⟩

end ColumnDecl

/-! ## The type -/

/-- A type word is one word, but for one of two words. -/
theorem typeWord_cases (dialect : Sql) : ∀ w ∈ dialect.typeWords,
    (w ≠ [] ∧ ∀ c ∈ w, isWordChar c = true) ∨ dialect = .postgresql ∧ w = "DOUBLE PRECISION" := by
  cases dialect <;> decide

theorem typeWord_start {dialect : Sql} {w : Text} (hw : w ∈ dialect.typeWords) :
    ∃ c t, w = c :: t ∧ isBlank c = false := by
  rcases typeWord_cases dialect w hw with ⟨hne, hword⟩ | ⟨_, rfl⟩
  · obtain ⟨c, t, rfl⟩ := List.exists_cons_of_ne_nil hne
    exact ⟨c, t, rfl, isBlank_of_isWordChar (hword c List.mem_cons_self)⟩
  · exact ⟨'D', _, rfl, rfl⟩

/-- A text in front of which the readers of a type stop. -/
def StartsBlank (t : Text) : Prop := ∀ c ∈ t.head?, isBlank c = true

theorem StartsBlank.append {b : Text} (hb : ∀ c ∈ b, isBlank c = true) (hne : b ≠ []) (t : Text) :
    StartsBlank (b ++ t) := by
  obtain ⟨c, b, rfl⟩ := List.exists_cons_of_ne_nil hne
  intro d hd
  cases hd
  exact hb c List.mem_cons_self

theorem StartsBlank.atWordEnd {t : Text} (h : StartsBlank t) : atWordEnd t = true := by
  cases t with
  | nil => rfl
  | cons c t => simp [Text.atWordEnd, isWordChar_of_isBlank (h c rfl)]

theorem skipParameters_of_startsBlank {t : Text} (h : StartsBlank t) : skipParameters t = t := by
  unfold skipParameters
  split
  · exact absurd (h '(' rfl) (by decide)
  · rfl

/-- The parameters of a type are skipped. -/
theorem skipParameters_append {u t : Text} (hu : IsParameters u) (ht : StartsBlank t) :
    skipParameters (u ++ t) = t := by
  rcases hu with rfl | ⟨list, rfl, hl⟩
  · exact skipParameters_of_startsBlank ht
  · rw [List.cons_append, List.append_assoc]
    exact skipParameters_closed (paren_not_mem_list hl) t

/-- What a keyword reader takes is the start of the first word. -/
theorem prefix_of_afterKeyword? {w t : Text} (hw : ∀ c ∈ w, isWordChar c = true)
    (h : (afterKeyword? w t).isSome = true) : w <+: (takeWord t).1.map foldChar := by
  obtain ⟨r, hr⟩ := Option.isSome_iff_exists.mp h
  obtain ⟨k, rfl, rfl⟩ := eq_append_of_afterKeyword? hr
  have hk : ∀ c ∈ k, isWordChar c = true := fun c hc => isWordChar_of_foldChar (hw _ (List.mem_map_of_mem hc))
  rw [takeWord, List.takeWhile_append_of_pos hk, List.map_append]
  exact List.prefix_append _ _

/-- Nothing that PostgreSQL has in its types stands at the start of a text. -/
def NoTypeWord (t : Text) : Prop :=
  afterKeyword? "precision" t = none ∧ afterKeyword? "varying" t = none ∧
    afterPhrase? ["without", "time", "zone"] t = none ∧ afterPhrase? ["with", "time", "zone"] t = none

theorem noTypeWord_of_firstWord {dialect : Sql} {t : Text}
    (h : (takeWord t).1.map foldChar ∈ dialect.clauseWords.map (·.headD [])) : NoTypeWord t := by
  have hall : ∀ p ∈ dialect.clauseWords.map (·.headD []),
      (¬("precision" : Text) <+: p ∧ ¬("varying" : Text) <+: p) ∧ p ≠ "without" ∧ p ≠ "with" := by
    cases dialect <;> decide
  obtain ⟨⟨hprecision, hvarying⟩, hwithout, hwith⟩ := hall _ h
  have hkeyword : ∀ {w : Text}, (∀ c ∈ w, isWordChar c = true) → ¬w <+: (takeWord t).1.map foldChar →
      afterKeyword? w t = none :=
    fun hw hn => Option.not_isSome_iff_eq_none.mp (fun hs => hn (prefix_of_afterKeyword? hw hs))
  have hphrase : ∀ {p q : Text} {ps : List Text}, (∀ c ∈ p, isWordChar c = true) → (takeWord t).1.map foldChar ≠ p →
      afterPhrase? (p :: q :: ps) t = none := by
    intro p q ps hp hne
    cases ha : afterPhrase? (p :: q :: ps) t with
    | none => rfl
    | some r => exact absurd (firstWord_of_afterPhrase? hp ha) hne
  exact ⟨hkeyword (by decide) hprecision, hkeyword (by decide) hvarying,
    hphrase (by decide) hwithout, hphrase (by decide) hwith⟩

/-- A text that ends a type: it goes on with blanks if at all, and what follows them does not belong to the type. -/
structure EndsType (t : Text) : Prop where
  startsBlank : StartsBlank t
  noTypeWord : ∀ r, afterBlanks? t = some r → NoTypeWord r

theorem EndsType.skipTimeZone {t : Text} (ht : EndsType t) : skipTimeZone t = t := by
  rw [Sql.skipTimeZone]
  cases h : afterBlanks? t with
  | none => rfl
  | some r =>
    obtain ⟨_, _, hwithout, hwith⟩ := ht.noTypeWord r h
    show (afterPhrase? ["without", "time", "zone"] r <|> afterPhrase? ["with", "time", "zone"] r).getD t = t
    rw [hwithout, hwith]
    rfl

theorem EndsType.skipArraySuffixes {t : Text} (ht : EndsType t) : ∀ n, skipArraySuffixes n t = t
  | 0 => rfl
  | n + 1 => by
    have hnone : afterArraySuffix? t = none := by
      unfold afterArraySuffix?
      split
      · exact absurd (ht.startsBlank '[' rfl) (by decide)
      · rfl
    rw [Sql.skipArraySuffixes, hnone]

theorem skipSecondWord_append {u t : Text} (hu : IsParameters u) (ht : EndsType t) :
    skipSecondWord (u ++ t) = u ++ t := by
  rcases hu with rfl | ⟨list, rfl, _⟩
  · rw [List.nil_append, skipSecondWord]
    cases h : afterBlanks? t with
    | none => rfl
    | some r =>
      obtain ⟨hprecision, hvarying, _, _⟩ := ht.noTypeWord r h
      show (afterKeyword? "precision" r <|> afterKeyword? "varying" r).getD t = t
      rw [hprecision, hvarying]
      rfl
  · rfl

/-- Behind the words of a type, its parameters are all that belongs to it. -/
theorem skipTypeTail_of_second {s u t : Text} (hs : skipSecondWord s = u ++ t) (hu : IsParameters u) (ht : EndsType t) :
    skipTypeTail .postgresql s = t := by
  simp only [skipTypeTail, hs, skipParameters_append hu ht.startsBlank, ht.skipTimeZone, ht.skipArraySuffixes]

theorem skipTypeTail_append (dialect : Sql) {u t : Text} (hu : IsParameters u) (ht : EndsType t) :
    skipTypeTail dialect (u ++ t) = t := by
  cases dialect with
  | mysql | sqlite => exact skipParameters_append hu ht.startsBlank
  | postgresql => exact skipTypeTail_of_second (skipSecondWord_append hu ht) hu ht

theorem skipSecondWord_precision (t : Text) : skipSecondWord (" PRECISION" ++ t) = t := by
  have h : afterKeyword? "precision" ("PRECISION" ++ t) = some t := afterKeyword?_append "PRECISION" t
  show (afterKeyword? "precision" ("PRECISION" ++ t) <|> afterKeyword? "varying" ("PRECISION" ++ t)).getD
    (" PRECISION" ++ t) = t
  rw [h]
  rfl

theorem readTypeText?_of {dialect : Sql} {type t : Text} (hword : (takeWord (type ++ t)).1 ≠ [])
    (htail : skipTypeTail dialect (takeWord (type ++ t)).2 = t) :
    dialect.readTypeText? (type ++ t) = some (type, t) := by
  rw [readTypeText?]
  split
  · rename_i h
    exact absurd (by rw [h]) hword
  · rename_i h
    rw [h] at htail
    simp [htail, consumed]

/-- A type of the table is read up to its end. -/
theorem readTypeText?_typeWord {dialect : Sql} {w u t : Text} (hw : w ∈ dialect.typeWords) (hu : IsParameters u)
    (ht : EndsType t) : dialect.readTypeText? (w ++ u ++ t) = some (w ++ u, t) := by
  have hend : atWordEnd (u ++ t) = true := by
    rcases hu with rfl | ⟨list, rfl, _⟩
    · exact ht.startsBlank.atWordEnd
    · show (!isWordChar '(') = true
      decide
  rcases typeWord_cases dialect w hw with ⟨hne, hword⟩ | ⟨rfl, rfl⟩
  · have htake : takeWord (w ++ u ++ t) = (w, u ++ t) := by rw [List.append_assoc, takeWord_append_of hword hend]
    exact readTypeText?_of (by rw [htake]; exact hne) (by rw [htake]; exact skipTypeTail_append dialect hu ht)
  · have htake : takeWord ("DOUBLE PRECISION" ++ u ++ t) = (("DOUBLE" : Text), " PRECISION" ++ (u ++ t)) := by
      rw [List.append_assoc]
      exact takeWord_append_of (w := "DOUBLE") (t := " PRECISION" ++ (u ++ t)) (by decide)
        (atWordEnd_blanks (b := [' ']) (by decide) (by decide) ("PRECISION" ++ (u ++ t)))
    refine readTypeText?_of (by rw [htake]; exact List.cons_ne_nil _ _) ?_
    rw [htake]
    exact skipTypeTail_of_second (skipSecondWord_precision _) hu ht

/-! ## The column -/

namespace ColumnDecl

variable {dialect : Sql} (d : ColumnDecl dialect)

/-- The quoted name is read up to its closing quote. -/
theorem readName?_quotedName (t : Text) : dialect.readName? (d.quotedName ++ t) = some (d.name.text, t) := by
  obtain ⟨⟨hopen, hclose⟩, ⟨_, _, hword, _⟩, _⟩ := quotePairs_spec dialect d.quotes d.quotes_mem
  have htext : d.quotedName ++ t = d.quotes.1 :: (d.name.text ++ d.quotes.2 :: t) := by simp [quotedName]
  have hend : atWordEnd (d.quotes.2 :: t) = true := by simp [Text.atWordEnd, hword]
  obtain ⟨c, w, hname⟩ := List.exists_cons_of_ne_nil d.name.nonempty
  have htake := takeWord_append_of d.name.word hend
  rw [hname] at htake
  rw [readName?, htext, skipOneOf, if_pos hopen, hname, htake]
  simp only [skipOneOf, hclose, if_true]

theorem endsType_clauseText : EndsType d.clauseText := by
  rcases d.clauseText_cases with ⟨_, htext, _⟩ | ⟨gap, htext, hne, hs⟩
  · rw [htext]
    exact ⟨fun c hc => (by cases hc), fun r hr => (by cases hr)⟩
  · refine ⟨htext ▸ .append gap.blank gap.nonempty d.rest, fun r hr => ?_⟩
    rw [eq_dropWhile_of_afterBlanks? hr]
    exact noTypeWord_of_firstWord (d.firstWord_rest hne)

theorem dropWhile_type (t : Text) : (d.type ++ t).dropWhile isBlank = d.type ++ t := by
  obtain ⟨c, w, hw, hc⟩ := typeWord_start d.word_mem
  rw [type, hw, List.cons_append, List.cons_append, List.dropWhile_cons_of_neg (by rw [hc]; exact Bool.false_ne_true)]

/-- A column is read as its name, its type and its clauses. -/
theorem readColumn?_text : dialect.readColumn? d.text = some ⟨d.name.text, d.type, d.rest⟩ := by
  have hgap := afterBlanks?_append d.gap.blank d.gap.nonempty (d.dropWhile_type d.clauseText)
  have htype := readTypeText?_typeWord d.word_mem d.parameters_ok d.endsType_clauseText
  simp only [readColumn?, text, d.readName?_quotedName, hgap, Option.bind_eq_bind, Option.bind_some]
  rw [type, htype]
  rfl

/-- A column is no table constraint: it starts with a quote. -/
theorem not_isConstraint : dialect.isConstraint d.text = false := by
  obtain ⟨_, ⟨_, hword, _⟩, _⟩ := quotePairs_spec dialect d.quotes d.quotes_mem
  refine List.any_eq_false.mpr (fun phrase hp h => ?_)
  obtain ⟨hcons, hphrase⟩ := constraintPhrases_spec dialect phrase hp
  obtain ⟨p, ps, rfl⟩ := List.exists_cons_of_ne_nil hcons
  obtain ⟨hne, hchars⟩ := hphrase p List.mem_cons_self
  have hfirst := firstWord_of_afterWholePhrase? hchars h
  have hnil : (takeWord d.text).1 = [] := by
    show List.takeWhile isWordChar (d.quotes.1 :: _) = []
    rw [List.takeWhile_cons_of_neg (by rw [hword]; exact Bool.false_ne_true)]
  rw [hnil] at hfirst
  exact hne hfirst.symm

end ColumnDecl

/-! ## Phrases in a column -/

/-- A phrase that is read starts with a keyword that is read. -/
theorem afterKeyword?_of_wholePhrase? {p : Text} {ps : List Text} {b : Bool} {t : Text}
    (h : (wholePhrase? (p :: ps) b t).isSome = true) : ∃ r, afterKeyword? p t = some r := by
  unfold wholePhrase? at h
  split at h
  · cases h
  · obtain ⟨r, hr⟩ := Option.isSome_iff_exists.mp h
    have hread := (Option.filter_eq_some_iff.mp hr).1
    cases ps with
    | nil => exact ⟨r, hread⟩
    | cons q qs =>
      simp only [afterPhrase?, Option.bind_eq_bind, Option.bind_eq_some_iff] at hread
      obtain ⟨r, hr, _⟩ := hread
      exact ⟨r, hr⟩

/-- A phrase that is found in a text has the letters of its first keyword there. -/
theorem mem_of_hasPhrase {p : Text} {ps : List Text} {a : Char} (ha : a ∈ p) {t : Text}
    (h : hasPhrase (p :: ps) t = true) : ∃ c ∈ t, foldChar c = a := by
  refine exists_mem_of_search (fun b t h => ?_) h
  obtain ⟨r, hr⟩ := afterKeyword?_of_wholePhrase? h
  obtain ⟨k, rfl, rfl⟩ := eq_append_of_afterKeyword? hr
  obtain ⟨c, hc, he⟩ := List.mem_map.mp ha
  exact ⟨c, List.mem_append_left r hc, he⟩

/-- Behind a word that does not start the phrase, and parameters, the phrase occurs in what follows. -/
theorem hasPhrase_behind_word {p : Text} {ps : List Text} (hp : IsPhrase (p :: ps))
    (hletter : ∃ a ∈ p, ∀ c ∈ listChars, foldChar c ≠ a) {w u : Text} (hne : w ≠ [])
    (hword : ∀ c ∈ w, isWordChar c = true) (hw : w.map foldChar ≠ p) (hu : IsParameters u) (t : Text) :
    hasPhrase (p :: ps) (w ++ (u ++ ' ' :: t)) = hasPhrase (p :: ps) t := by
  obtain ⟨hpne, hpword⟩ := hp p List.mem_cons_self
  have hblank : ∀ c ∈ ([' '] : Text), isBlank c = true := by decide
  rcases hu with rfl | ⟨list, rfl, hl⟩
  · have hstart : (afterWholePhrase? (p :: ps) (w ++ ([' '] ++ t))).isSome = false := by
      refine Bool.eq_false_iff.mpr (fun h => hw ?_)
      have hfirst := firstWord_of_afterWholePhrase? hpword h
      rwa [takeWord_append_of hword (atWordEnd_blanks hblank (by decide) t)] at hfirst
    have h : hasPhrase (p :: ps) (w ++ ([' '] ++ t)) = (_ || hasPhrase (p :: ps) t) :=
      hasPhrase_word_append hpne hpword hword hne hblank (by decide) t
    rwa [hstart, Bool.false_or] at h
  · have hfront : hasPhrase (p :: ps) w = false := by
      refine Bool.eq_false_iff.mpr (fun h => hw ?_)
      have hpart := ((Spaced.one w).hasPhrase_iff (fun x hx => ?_) hp).mp h
      · exact (List.mem_singleton.mp (hpart.subset List.mem_cons_self)).symm
      · rw [List.mem_singleton.mp hx]
        exact ⟨hne, hword⟩
    have hinner : hasPhrase (p :: ps) list = false := by
      refine Bool.eq_false_iff.mpr (fun h => ?_)
      obtain ⟨a, ha, hlist⟩ := hletter
      obtain ⟨c, hc, he⟩ := mem_of_hasPhrase ha h
      exact hlist c (hl c hc) he
    have hback : hasPhrase (p :: ps) (' ' :: t) = hasPhrase (p :: ps) t := by
      rw [hasPhrase, show ' ' :: t = [' '] ++ t from rfl, search_blanks hpne hpword hblank]
      rfl
    rw [show w ++ ('(' :: (list ++ [')']) ++ ' ' :: t) = w ++ '(' :: (list ++ ')' :: (' ' :: t)) by simp,
      hasPhrase_stop (hp.bars (by decide) (by decide)), hasPhrase_stop (hp.bars (by decide) (by decide)), hfront,
      hinner, hback, Bool.false_or, Bool.false_or]

/-- What is read off the phrases for generated values: they have a letter that is in no list of numbers, and no type
starts with their first keyword. -/
theorem generatedPhrases_spec (dialect : Sql) : ∀ phrase ∈ dialect.generatedPhrases,
    phrase ≠ [] ∧
      (∃ a ∈ phrase.headD [], ∀ c ∈ listChars, foldChar c ≠ a) ∧
      (∀ w ∈ ("DOUBLE" : Text) :: "PRECISION" :: dialect.typeWords, w.map foldChar ≠ phrase.headD []) := by
  cases dialect <;> decide

theorem bars_generatedPhrases (dialect : Sql) {c : Char} (hb : isBlank c = false) (hc : isWordChar c = false) :
    ∀ phrase ∈ dialect.generatedPhrases, Bars c phrase := by
  intro phrase hphrase
  obtain ⟨p, ps, rfl⟩ := List.exists_cons_of_ne_nil (generatedPhrases_spec dialect phrase hphrase).1
  exact (isPhrase_generatedPhrases dialect _ hphrase).bars hb hc

/-- A phrase for generated values occurs in a definition if it occurs behind the type. -/
theorem hasPhrase_behind_type {dialect : Sql} {phrase : List Text} (hphrase : phrase ∈ dialect.generatedPhrases)
    {w u : Text} (hw : w ∈ dialect.typeWords) (hu : IsParameters u) (t : Text) :
    hasPhrase phrase (w ++ (u ++ ' ' :: t)) = hasPhrase phrase t := by
  have hp := isPhrase_generatedPhrases dialect phrase hphrase
  obtain ⟨hcons, hletter, hwords⟩ := generatedPhrases_spec dialect phrase hphrase
  obtain ⟨p, ps, rfl⟩ := List.exists_cons_of_ne_nil hcons
  have hbehind : ∀ {w : Text}, w ∈ ("DOUBLE" : Text) :: "PRECISION" :: dialect.typeWords → w ≠ [] →
      (∀ c ∈ w, isWordChar c = true) → ∀ {u : Text}, IsParameters u → ∀ t,
        hasPhrase (p :: ps) (w ++ (u ++ ' ' :: t)) = hasPhrase (p :: ps) t :=
    fun hmem hne hword _ hu t => hasPhrase_behind_word hp hletter hne hword (hwords _ hmem) hu t
  rcases typeWord_cases dialect w hw with ⟨hne, hword⟩ | ⟨_, rfl⟩
  · exact hbehind (List.mem_cons_of_mem _ (List.mem_cons_of_mem _ hw)) hne hword hu t
  · have hdouble :=
      hbehind List.mem_cons_self (by decide) (by decide) (.inl rfl) ("PRECISION" ++ (u ++ ' ' :: t))
    have hprecision := hbehind (List.mem_cons_of_mem _ List.mem_cons_self) (by decide) (by decide) hu t
    exact hdouble.trans hprecision

/-! ## The field of a column -/

/-- Whether generated values are asked for: by PostgreSQL's serial types, and by a phrase of the dialect. -/
theorem isAutoIncrement_eq (dialect : Sql) (t : Text) :
    dialect.isAutoIncrement t =
      ((decide (dialect = .postgresql) && startsWithSerial t) || dialect.generatedPhrases.any (hasPhrase · t)) := by
  cases dialect <;> simp [isAutoIncrement, generatedPhrases, Bool.or_assoc]

theorem startsWithSerial_typeWord {dialect : Sql} {w u : Text} (hw : w ∈ dialect.typeWords) (hu : IsParameters u)
    (t : Text) :
    (decide (dialect = .postgresql) && startsWithSerial (w ++ (u ++ ' ' :: t))) =
      ColumnDecl.serialWords.contains w := by
  have hspec : ∀ w ∈ dialect.typeWords,
      (decide (dialect = .postgresql) && endsWith (w.map foldChar) "serial") = ColumnDecl.serialWords.contains w := by
    cases dialect <;> decide
  have hend : atWordEnd (u ++ ' ' :: t) = true := by
    rcases hu with rfl | ⟨list, rfl, _⟩
    · exact atWordEnd_blanks (b := [' ']) (by decide) (by decide) t
    · show (!isWordChar '(') = true
      decide
  rcases typeWord_cases dialect w hw with ⟨_, hword⟩ | ⟨rfl, rfl⟩
  · rw [startsWithSerial, takeWord_append_of hword hend, hspec w hw]
  · have htake : takeWord ("DOUBLE PRECISION" ++ (u ++ ' ' :: t)) =
        (("DOUBLE" : Text), " PRECISION" ++ (u ++ ' ' :: t)) :=
      takeWord_append_of (w := "DOUBLE") (t := " PRECISION" ++ (u ++ ' ' :: t)) (by decide)
        (atWordEnd_blanks (b := [' ']) (by decide) (by decide) ("PRECISION" ++ (u ++ ' ' :: t)))
    rw [startsWithSerial, htake]
    show (true && endsWith (("DOUBLE" : Text).map foldChar) "serial") =
      ColumnDecl.serialWords.contains "DOUBLE PRECISION"
    decide

/-- A comment stands in quotes. -/
theorem quote_mem_of_search {b : Bool} {t : Text} (h : (search readComment? b t).isSome = true) :
    ∃ c ∈ t, c = '\'' ∨ c = '"' := by
  refine exists_mem_of_search (fun b t h => ?_) h
  unfold readComment? at h
  split at h
  · cases h
  · split at h
    · rename_i quote content hread
      obtain ⟨r, hr, hblanks⟩ := Option.bind_eq_some_iff.mp hread
      obtain ⟨k, _, rfl⟩ := eq_append_of_afterKeyword? hr
      have hmem : quote ∈ r :=
        (List.dropWhile_sublist isBlank).mem (eq_dropWhile_of_afterBlanks? hblanks ▸ List.mem_cons_self)
      split at h
      · rename_i hquote
        exact ⟨quote, List.mem_append_right k hmem, by simpa using hquote⟩
      · cases h
    · cases h

namespace ColumnDecl

variable {dialect : Sql} (d : ColumnDecl dialect)

/-- The keywords of a clause occur behind the type if it is one of the clauses. -/
theorem hasPhrase_rest (a : Clause dialect) : hasPhrase a.words d.rest = d.clauses.contains a := by
  obtain ⟨p, ps, ha⟩ := List.exists_cons_of_ne_nil (clauseWords_spec dialect _ a.words_mem _ a.words_mem).1
  have hpart := d.spaced_rest.hasPhrase_iff d.isPhrase_keywords (ha ▸ a.isPhrase_words)
  rw [← ha, d.spelling, a.words_infix] at hpart
  rw [Bool.eq_iff_iff, hpart, List.contains_iff_mem]

theorem isAutoIncrement_read : dialect.isAutoIncrement (d.type ++ " " ++ d.rest) = d.isAutoIncrement := by
  have htext : d.type ++ " " ++ d.rest = d.word ++ (d.parameters ++ ' ' :: d.rest) := by simp [type]
  have hany : dialect.generatedPhrases.any (hasPhrase · (d.word ++ (d.parameters ++ ' ' :: d.rest))) =
      d.clauses.any Clause.isGenerated := by
    rw [Bool.eq_iff_iff, List.any_eq_true, List.any_eq_true]
    constructor
    · rintro ⟨phrase, hmem, h⟩
      rw [hasPhrase_behind_type hmem d.word_mem d.parameters_ok] at h
      have := d.hasPhrase_rest (.generated ⟨phrase, hmem⟩)
      exact ⟨_, List.contains_iff_mem.mp (this.symm.trans h), rfl⟩
    · rintro ⟨a, hmem, h⟩
      cases a with
      | notNull => cases h
      | primaryKey => cases h
      | generated phrase =>
        refine ⟨phrase.1, phrase.2, ?_⟩
        rw [hasPhrase_behind_type phrase.2 d.word_mem d.parameters_ok]
        exact (d.hasPhrase_rest (.generated phrase)).trans (List.contains_iff_mem.mpr hmem)
  rw [htext, isAutoIncrement_eq, startsWithSerial_typeWord d.word_mem d.parameters_ok, hany, isAutoIncrement]

/-- A column has no comment, and so its name stands for one. -/
theorem comment_read : dialect.comment d.name.text d.rest = d.name.text := by
  have hnone : search readComment? false d.rest = none := by
    refine Option.not_isSome_iff_eq_none.mp (fun h => ?_)
    obtain ⟨c, hc, hquote⟩ := quote_mem_of_search h
    have hword := d.mem_clauseText ((List.dropWhile_sublist isBlank).mem hc)
    rcases hquote with rfl | rfl
    · exact absurd hword (by decide)
    · exact absurd hword (by decide)
  unfold comment
  split
  · rfl
  · rfl
  · simp only [hnone, Option.map_none]

/-- What is read of a column becomes the field that the column asks for. -/
theorem toField_read : ColumnText.toField dialect ⟨d.name.text, d.type, d.rest⟩ = .ok d.field := by
  have hnull : hasPhrase ["not", "null"] d.rest = d.clauses.contains .notNull := d.hasPhrase_rest .notNull
  have hkey : hasPhrase ["primary", "key"] d.rest = d.clauses.contains .primaryKey := d.hasPhrase_rest .primaryKey
  have htype : dialect.goType d.type = .ok (dialect.tableType d.word d.parameters) :=
    goType_typeWord d.word_mem d.parameters_ok
  simp only [ColumnText.toField, htype, Except.map, ColumnText.fieldOf, d.isAutoIncrement_read, hnull, hkey,
    d.comment_read]
  rfl

end ColumnDecl

end StructForge.Sql
