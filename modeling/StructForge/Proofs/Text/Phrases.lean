import StructForge.Proofs.Text.Readers

/-!
# Phrases in texts

Where a phrase occurs in a text.

* A search goes on from the start behind a character at which its reader stops (`search_stop`) or which it takes last
  (`search_last`), so a phrase occurs in a text with a character at which it stops if it occurs on one side of it
  (`hasPhrase_stop`).
* In a text of words with blanks between them (`Spaced`), a phrase occurs where its keywords are neighbours among the
  words (`hasPhrase_iff`).
-/

namespace StructForge.Text

/-! ## Searches and stops -/

/-- A reader that succeeds at the start is found there. -/
theorem search_of_read {α : Type} {read : Bool → Text → Option α} {b : Bool} {t : Text} {a : α}
    (h : read b t = some a) : search read b t = some a := by
  cases t with
  | nil => exact h
  | cons c t => rw [search, h]

/-- A search goes on behind the first character if the reader does not succeed there. -/
theorem search_of_not_read {α : Type} {read : Bool → Text → Option α} {b : Bool} {c : Char} {t : Text}
    (h : read b (c :: t) = none) : search read b (c :: t) = search read (isWordChar c) t := by
  rw [search, h]

/-- What is found was read somewhere. -/
theorem exists_read_of_search {α : Type} {read : Bool → Text → Option α} {a : α} : ∀ {b : Bool} {t : Text},
    search read b t = some a → ∃ b' t', read b' t' = some a
  | b, [], h => ⟨b, [], h⟩
  | b, c :: t, h => by
    rw [search] at h
    split at h
    · rename_i hread
      exact ⟨b, c :: t, hread.trans h⟩
    · exact exists_read_of_search h

/-- What a reader needs in its text is in the text that is searched. -/
theorem exists_mem_of_search {α : Type} {read : Bool → Text → Option α} {P : Char → Prop}
    (hread : ∀ b t, (read b t).isSome = true → ∃ c ∈ t, P c) : ∀ {b : Bool} {t : Text},
    (search read b t).isSome = true → ∃ c ∈ t, P c
  | b, [], h => hread b [] h
  | b, c :: t, h => by
    rw [search] at h
    split at h
    · rename_i r hr
      exact hread b (c :: t) (by rw [hr]; rfl)
    · obtain ⟨d, hd, hp⟩ := exists_mem_of_search hread h
      exact ⟨d, List.mem_cons_of_mem c hd, hp⟩

/-- A search goes on behind a character at which its reader stops. -/
theorem search_stop {α : Type} {read : Bool → Text → Option α} {f : α → α} {c : Char} {u : Text}
    (hread : ∀ b t, read b (t ++ c :: u) = (read b t).map f) (hnil : ∀ b, read b [] = none) : ∀ (b : Bool) (t : Text),
    search read b (t ++ c :: u) = ((search read b t).map f).or (search read (isWordChar c) u)
  | b, [] => by
    have h := hread b []
    rw [hnil, List.nil_append, Option.map_none] at h
    simp [search, h, hnil]
  | b, d :: t => by
    have h := hread b (d :: t)
    rw [List.cons_append] at h ⊢
    simp only [search, h]
    cases read b (d :: t) with
    | some a => rfl
    | none => exact search_stop hread hnil _ t

/-- A search goes on behind a character that its reader takes last. -/
theorem search_last {α : Type} {read : Bool → Text → Option α} {f : α → α} {c : Char} {u : Text}
    (hread : ∀ b t, read b (t ++ c :: u) = (read b (t ++ [c])).map f) (hnil : ∀ b, read b [] = none) :
    ∀ (b : Bool) (t : Text),
      search read b (t ++ c :: u) = ((search read b (t ++ [c])).map f).or (search read (isWordChar c) u)
  | b, [] => by
    have h := hread b []
    simp only [List.nil_append] at h
    simp only [List.nil_append, search, h, hnil]
    cases read b [c] <;> rfl
  | b, d :: t => by
    have h := hread b (d :: t)
    simp only [List.cons_append] at h
    simp only [List.cons_append, search, h]
    cases read b (d :: (t ++ [c])) with
    | some a => rfl
    | none => exact search_last hread hnil _ t

section Reader

variable {α : Type} {read : Text → Option α}

/-- A search passes over a text in which its reader never succeeds. -/
theorem search_of_front {t : Text} : ∀ {front : Text}, (∀ p u, front = p ++ u → u ≠ [] → read (u ++ t) = none) →
    ∀ b, search (fun _ => read) b (front ++ t) = search (fun _ => read) false t
  | [], _, b => by cases t <;> rfl
  | c :: front, h, b => by
    have hread := h [] (c :: front) rfl (List.cons_ne_nil c front)
    rw [List.cons_append] at hread ⊢
    rw [search, hread]
    exact search_of_front (fun p u hu => h (c :: p) u (by rw [hu, List.cons_append])) _

/-- A search is the same with a text behind it that its reader leaves as it is. -/
theorem search_append {f : α → α} {u : Text} (hread : ∀ t, read (t ++ u) = (read t).map f) (hnil : read [] = none)
    (hu : ∀ b, search (fun _ => read) b u = none) : ∀ (b : Bool) (t : Text),
      search (fun _ => read) b (t ++ u) = (search (fun _ => read) b t).map f
  | b, [] => by rw [List.nil_append, hu, search, hnil, Option.map_none]
  | b, c :: t => by
    have h := hread (c :: t)
    rw [List.cons_append] at h ⊢
    rw [search, search, h]
    cases read (c :: t) with
    | some a => rfl
    | none => exact search_append hread hnil hu _ t

/-- Where a reader never succeeds, one that asks for more does not either. -/
theorem search_eq_none {β : Type} {read' : Text → Option β} (h : ∀ t, read t = none → read' t = none) :
    ∀ {b : Bool} {t : Text}, search (fun _ => read) b t = none → search (fun _ => read') b t = none
  | _, [], hnone => h [] hnone
  | b, c :: t, hnone => by
    rw [search] at hnone
    split at hnone
    · cases hnone
    · rename_i hread
      rw [search, h _ hread]
      exact search_eq_none h hnone

end Reader

/-- Whether a phrase can be read over a character: not over one that is no part of its words and no blank. -/
def Bars (c : Char) (phrase : List Text) : Prop :=
  isBlank c = false ∧ isWordChar c = false ∧ afterPhrase? phrase [] = none ∧ ∀ w ∈ phrase, foldChar c ∉ w

instance (c : Char) (phrase : List Text) : Decidable (Bars c phrase) := inferInstanceAs (Decidable (_ ∧ _))

/-- A phrase that can be barred does not occur in nothing. -/
theorem hasPhrase_nil {c : Char} {phrase : List Text} (h : Bars c phrase) : hasPhrase phrase [] = false := by
  simp [hasPhrase, search, wholePhrase?, afterWholePhrase?, h.2.2.1]

/-- A phrase that cannot be read over a character occurs in front of it or behind it. -/
theorem hasPhrase_stop {c : Char} {phrase : List Text} (h : Bars c phrase) (t u : Text) :
    hasPhrase phrase (t ++ c :: u) = (hasPhrase phrase t || hasPhrase phrase u) := by
  obtain ⟨hb, hw, hnil, hmem⟩ := h
  have hread : ∀ b t, wholePhrase? phrase b (t ++ c :: u) = (wholePhrase? phrase b t).map (· ++ c :: u) := by
    intro b t
    unfold wholePhrase?
    split
    · rfl
    · exact afterWholePhrase?_stop hb hw hmem t u
  have hend : ∀ b, wholePhrase? phrase b [] = none := by
    intro b
    unfold wholePhrase? afterWholePhrase?
    rw [hnil]
    split <;> rfl
  unfold hasPhrase
  rw [search_stop hread hend, hw, Option.isSome_or, Option.isSome_map]

/-! ## Keywords and words -/

/-- A keyword that is read up to a word's end is the first word of the text. -/
theorem takeWord_of_afterKeyword? {w t r : Text} (hw : ∀ c ∈ w, isWordChar c = true)
    (h : afterKeyword? w t = some r) (hr : atWordEnd r = true) :
    (takeWord t).1.map foldChar = w ∧ (takeWord t).2 = r := by
  obtain ⟨k, rfl, rfl⟩ := eq_append_of_afterKeyword? h
  have hk : ∀ c ∈ k, isWordChar c = true := fun c hc => isWordChar_of_foldChar (hw _ (List.mem_map_of_mem hc))
  rw [takeWord_append_of hk hr]
  exact ⟨rfl, rfl⟩

/-- What follows blanks does not continue a word. -/
theorem atWordEnd_of_afterBlanks? {t r : Text} (h : afterBlanks? t = some r) : atWordEnd t = true := by
  cases t with
  | nil => rfl
  | cons c t =>
    simp only [afterBlanks?] at h
    split at h
    · rename_i hc
      simp [atWordEnd, isWordChar_of_isBlank hc]
    · cases h

/-- A phrase of words. -/
def IsPhrase (phrase : List Text) : Prop := ∀ w ∈ phrase, w ≠ [] ∧ ∀ c ∈ w, isWordChar c = true

instance (phrase : List Text) : Decidable (IsPhrase phrase) :=
  inferInstanceAs (Decidable (∀ w ∈ phrase, w ≠ [] ∧ ∀ c ∈ w, isWordChar c = true))

theorem afterPhrase?_nil {w : Text} {ws : List Text} (hw : w ≠ []) : afterPhrase? (w :: ws) [] = none := by
  obtain ⟨c, w, rfl⟩ := List.exists_cons_of_ne_nil hw
  cases ws <;> rfl

/-- A phrase starts with a word. -/
theorem afterPhrase?_of_not_word {w : Text} {ws : List Text} (hne : w ≠ []) (hw : ∀ c ∈ w, isWordChar c = true)
    {c : Char} (hc : isWordChar c = false) (t : Text) : afterPhrase? (w :: ws) (c :: t) = none := by
  have hfold := foldChar_not_mem hc hw
  obtain ⟨a, w, rfl⟩ := List.exists_cons_of_ne_nil hne
  have hne : ¬foldChar c = a := fun e => hfold (e ▸ List.mem_cons_self)
  have hread : afterKeyword? (a :: w) (c :: t) = none := if_neg hne
  cases ws with
  | nil => exact hread
  | cons v ws => simp only [afterPhrase?, hread, Option.bind_eq_bind, Option.bind_none]

/-- A phrase in front of something is read up to the same place whatever follows that. -/
theorem afterPhrase?_append : ∀ {ws : List Text}, IsPhrase ws → ∀ {t r : Text}, afterPhrase? ws t = some r → r ≠ [] →
    ∀ u, afterPhrase? ws (t ++ u) = some (r ++ u)
  | [], _, t, r, h, _, u => by rw [Option.some.inj h.symm]; rfl
  | [w], _, t, r, h, _, u => by
    obtain ⟨k, rfl, rfl⟩ := eq_append_of_afterKeyword? h
    rw [List.append_assoc]
    exact afterKeyword?_append k (r ++ u)
  | w :: v :: ws, hws, t, r, h, hr, u => by
    have hvs : IsPhrase (v :: ws) := fun x hx => hws x (List.mem_cons_of_mem w hx)
    simp only [afterPhrase?, Option.bind_eq_bind, Option.bind_eq_some_iff] at h
    obtain ⟨r₁, h₁, r₂, h₂, h₃⟩ := h
    have hr₂ : r₂ ≠ [] := by
      rintro rfl
      rw [afterPhrase?_nil (hvs v List.mem_cons_self).1] at h₃
      cases h₃
    obtain ⟨k, rfl, rfl⟩ := eq_append_of_afterKeyword? h₁
    simp only [afterPhrase?, Option.bind_eq_bind, List.append_assoc, afterKeyword?_append, Option.bind_some,
      afterBlanks?_append_of_ne h₂ hr₂]
    exact afterPhrase?_append hvs h₃ hr u

/-- A character that is no word character is in no word of a phrase, in small letters neither. -/
theorem IsPhrase.foldChar_not_mem {phrase : List Text} (h : IsPhrase phrase) {c : Char} (hc : isWordChar c = false) :
    ∀ w ∈ phrase, foldChar c ∉ w := fun w hw => Text.foldChar_not_mem hc (h w hw).2

/-- A phrase is barred by what is neither a blank nor a word character. -/
theorem IsPhrase.bars {w : Text} {ws : List Text} (h : IsPhrase (w :: ws)) {c : Char} (hb : isBlank c = false)
    (hc : isWordChar c = false) : Bars c (w :: ws) :=
  ⟨hb, hc, afterPhrase?_nil (h w List.mem_cons_self).1, h.foldChar_not_mem hc⟩

/-- No phrase reaches into blanks at the end of its text. -/
theorem afterPhrase?_append_blanks {b : Text} (hb : ∀ c ∈ b, isBlank c = true) : ∀ {ws : List Text}, IsPhrase ws →
    ∀ t, afterPhrase? ws (t ++ b) = (afterPhrase? ws t).map (· ++ b)
  | [], _, _ => rfl
  | [w], hws, t => afterKeyword?_append_blanks hb (hws w List.mem_cons_self).2 t
  | w :: v :: ws, hws, t => by
    have hvs : IsPhrase (v :: ws) := fun x hx => hws x (List.mem_cons_of_mem w hx)
    have hread := afterPhrase?_append_blanks hb hvs
    have hnil : afterPhrase? (v :: ws) [] = none := afterPhrase?_nil (hvs v List.mem_cons_self).1
    simp only [afterPhrase?, Option.bind_eq_bind, afterKeyword?_append_blanks hb (hws w List.mem_cons_self).2]
    cases afterKeyword? w t with
    | none => rfl
    | some r => exact afterBlanks?_bind_append_blanks hb hread hnil r

/-- Blanks at the end do not matter for a phrase at the start. -/
theorem afterWholePhrase?_append_blanks {b : Text} (hb : ∀ c ∈ b, isBlank c = true) {ws : List Text}
    (hws : IsPhrase ws) (t : Text) : (afterWholePhrase? ws (t ++ b)).isSome = (afterWholePhrase? ws t).isSome := by
  rw [afterWholePhrase?, afterWholePhrase?, afterPhrase?_append_blanks hb hws]
  cases afterPhrase? ws t with
  | none => rfl
  | some r =>
    simp only [Option.map_some, Option.filter_some, atWordEnd_append_blanks hb]
    split <;> rfl

/-- A text that starts with a phrase of more words starts with the phrase's first word. -/
theorem firstWord_of_afterPhrase? {p q : Text} {qs : List Text} (hp : ∀ c ∈ p, isWordChar c = true) {t r : Text}
    (h : afterPhrase? (p :: q :: qs) t = some r) : (takeWord t).1.map foldChar = p := by
  simp only [afterPhrase?, Option.bind_eq_bind, Option.bind_eq_some_iff] at h
  obtain ⟨r₁, h₁, r₂, h₂, _⟩ := h
  exact (takeWord_of_afterKeyword? hp h₁ (atWordEnd_of_afterBlanks? h₂)).1

/-- A text that starts with a phrase as whole words starts with the phrase's first word. -/
theorem firstWord_of_afterWholePhrase? {p : Text} {ps : List Text} (hp : ∀ c ∈ p, isWordChar c = true) {t : Text}
    (h : (afterWholePhrase? (p :: ps) t).isSome = true) : (takeWord t).1.map foldChar = p := by
  obtain ⟨r, hr⟩ := Option.isSome_iff_exists.mp h
  obtain ⟨h, hend⟩ := Option.filter_eq_some_iff.mp hr
  cases ps with
  | nil => exact (takeWord_of_afterKeyword? hp h hend).1
  | cons q qs => exact firstWord_of_afterPhrase? hp h

/-- Within a word, nothing is found by a reader that wants no word character in front. -/
theorem search_within_word {α : Type} {read : Bool → Text → Option α} (hread : ∀ t, read true t = none) (u : Text) :
    ∀ {w : Text}, (∀ c ∈ w, isWordChar c = true) → search read true (w ++ u) = search read true u
  | [], _ => rfl
  | c :: w, h => by
    have hc := h c List.mem_cons_self
    rw [List.cons_append]
    simp only [search, hread, hc]
    exact search_within_word hread u (fun d hd => h d (List.mem_cons_of_mem _ hd))

theorem wholePhrase?_afterWord (phrase : List Text) (t : Text) : wholePhrase? phrase true t = none := rfl

/-- Blanks are no part of a phrase that starts with a word. -/
theorem afterWholePhrase?_blank {w : Text} {ws : List Text} (hne : w ≠ []) (hw : ∀ c ∈ w, isWordChar c = true)
    {c : Char} (hc : isBlank c = true) (t : Text) : afterWholePhrase? (w :: ws) (c :: t) = none := by
  rw [afterWholePhrase?, afterPhrase?_of_not_word hne hw (isWordChar_of_isBlank hc)]
  rfl

/-- Blanks before a phrase do not matter. -/
theorem search_blanks {w : Text} {ws : List Text} (hne : w ≠ []) (hw : ∀ c ∈ w, isWordChar c = true) {u : Text} :
    ∀ {b : Text}, (∀ c ∈ b, isBlank c = true) →
      search (wholePhrase? (w :: ws)) false (b ++ u) = search (wholePhrase? (w :: ws)) false u
  | [], _ => rfl
  | c :: b, h => by
    have hc := h c List.mem_cons_self
    rw [List.cons_append]
    simp only [search, wholePhrase?, Bool.false_eq_true, if_false, afterWholePhrase?_blank hne hw hc,
      isWordChar_of_isBlank hc]
    exact search_blanks hne hw (fun d hd => h d (List.mem_cons_of_mem _ hd))

/-- In a text that starts with a word and blanks, a phrase occurs at the start or behind the blanks. -/
theorem hasPhrase_word_append {p : Text} {ps : List Text} (hne : p ≠ []) (hp : ∀ c ∈ p, isWordChar c = true)
    {w b : Text} (hw : ∀ c ∈ w, isWordChar c = true) (hwne : w ≠ []) (hb : ∀ c ∈ b, isBlank c = true) (hbne : b ≠ [])
    (u : Text) :
    hasPhrase (p :: ps) (w ++ (b ++ u)) =
      ((afterWholePhrase? (p :: ps) (w ++ (b ++ u))).isSome || hasPhrase (p :: ps) u) := by
  obtain ⟨c, w, rfl⟩ := List.exists_cons_of_ne_nil hwne
  obtain ⟨d, b, rfl⟩ := List.exists_cons_of_ne_nil hbne
  have hc := hw c List.mem_cons_self
  have hd := hb d List.mem_cons_self
  have hskip := search_within_word (wholePhrase?_afterWord (p :: ps)) ((d :: b) ++ u)
    fun a ha => hw a (List.mem_cons_of_mem c ha)
  have hblank : search (wholePhrase? (p :: ps)) false (b ++ u) = search (wholePhrase? (p :: ps)) false u :=
    search_blanks hne hp (fun a ha => hb a (List.mem_cons_of_mem d ha))
  unfold hasPhrase
  rw [List.cons_append, search, hc, hskip, List.cons_append, search, isWordChar_of_isBlank hd]
  simp only [wholePhrase?, if_true, Bool.false_eq_true, if_false]
  cases afterWholePhrase? (p :: ps) (c :: (w ++ d :: (b ++ u))) with
  | some r => rfl
  | none => simp [hblank]

/-! ## Texts of words -/

/-- The text consists of the words, with blanks between neighbours. -/
inductive Spaced : List Text → Text → Prop
  | nil : Spaced [] []
  | one (w : Text) : Spaced [w] w
  | cons {w b v : Text} {ws : List Text} {t : Text} :
      (∀ c ∈ b, isBlank c = true) → b ≠ [] → Spaced (v :: ws) t → Spaced (w :: v :: ws) (w ++ (b ++ t))

/-- The words in small letters. -/
def foldWords (ws : List Text) : List Text := ws.map (·.map foldChar)

theorem foldWords_cons (w : Text) (ws : List Text) : foldWords (w :: ws) = w.map foldChar :: foldWords ws := rfl

theorem atWordEnd_blanks {b : Text} (hb : ∀ c ∈ b, isBlank c = true) (hne : b ≠ []) (t : Text) :
    atWordEnd (b ++ t) = true := by
  obtain ⟨c, b, rfl⟩ := List.exists_cons_of_ne_nil hne
  simp [atWordEnd, isWordChar_of_isBlank (hb c List.mem_cons_self)]

/-- A text of words starts with no blank. -/
theorem Spaced.dropWhile_isBlank {v : Text} {ws : List Text} {t : Text} (h : Spaced (v :: ws) t)
    (hv : v ≠ [] ∧ ∀ c ∈ v, isWordChar c = true) : t.dropWhile isBlank = t := by
  obtain ⟨c, v, rfl⟩ := List.exists_cons_of_ne_nil hv.1
  have hc := hv.2 c List.mem_cons_self
  cases h with
  | one => exact dropWhile_isBlank_of_isWordChar hc v
  | cons => exact dropWhile_isBlank_of_isWordChar hc _

/-- The first word of a text of words. -/
theorem Spaced.takeWord {v : Text} {ws : List Text} {t : Text} (h : Spaced (v :: ws) t)
    (hv : ∀ c ∈ v, isWordChar c = true) : (takeWord t).1 = v := by
  cases h with
  | one =>
    have h := takeWord_append_of (t := []) hv rfl
    rw [List.append_nil] at h
    rw [h]
  | cons hb hbne _ => rw [takeWord_append_of hv (atWordEnd_blanks hb hbne _)]

/-- A phrase of one word at the start of a text. -/
theorem afterWholePhrase?_one {p w u : Text} (hp : ∀ c ∈ p, isWordChar c = true)
    (hw : ∀ c ∈ w, isWordChar c = true) (hu : atWordEnd u = true) :
    (afterWholePhrase? [p] (w ++ u)).isSome = true ↔ w.map foldChar = p := by
  constructor
  · intro h
    have := firstWord_of_afterWholePhrase? hp h
    rwa [takeWord_append_of hw hu] at this
  · rintro rfl
    simp [afterWholePhrase?, afterPhrase?, afterKeyword?_append, hu]

/-- A phrase of more words at the start of a text. -/
theorem afterPhrase?_more {p q w u : Text} {qs : List Text} (hp : ∀ c ∈ p, isWordChar c = true)
    (hw : ∀ c ∈ w, isWordChar c = true) (hu : atWordEnd u = true) :
    afterPhrase? (p :: q :: qs) (w ++ u) =
      if w.map foldChar = p then (afterBlanks? u).bind (afterPhrase? (q :: qs)) else none := by
  split
  · rename_i h
    subst h
    simp only [afterPhrase?, afterKeyword?_append, Option.bind_eq_bind, Option.bind_some]
  · rename_i h
    cases ha : afterPhrase? (p :: q :: qs) (w ++ u) with
    | none => rfl
    | some r =>
      have := firstWord_of_afterPhrase? hp ha
      rw [takeWord_append_of hw hu] at this
      exact absurd this h

theorem afterWholePhrase?_more {p q w u : Text} {qs : List Text} (hp : ∀ c ∈ p, isWordChar c = true)
    (hw : ∀ c ∈ w, isWordChar c = true) (hu : atWordEnd u = true) :
    afterWholePhrase? (p :: q :: qs) (w ++ u) =
      if w.map foldChar = p then (afterBlanks? u).bind (afterWholePhrase? (q :: qs)) else none := by
  rw [afterWholePhrase?, afterPhrase?_more hp hw hu]
  split
  · cases afterBlanks? u <;> rfl
  · rfl

/-- A text of words starts with a phrase if the words start with its keywords. -/
theorem Spaced.afterWholePhrase?_iff {ws : List Text} {t : Text} (h : Spaced ws t) : IsPhrase ws →
    ∀ {phrase : List Text}, phrase ≠ [] → IsPhrase phrase →
      ((afterWholePhrase? phrase t).isSome = true ↔ phrase <+: foldWords ws) := by
  induction h with
  | nil =>
    intro _ phrase hne hp
    obtain ⟨p, ps, rfl⟩ := List.exists_cons_of_ne_nil hne
    have hp := hp p List.mem_cons_self
    refine ⟨fun h => absurd (firstWord_of_afterWholePhrase? hp.2 h).symm hp.1, fun h => ?_⟩
    cases List.prefix_nil.mp h
  | one w =>
    intro hws phrase hne hp
    obtain ⟨p, ps, rfl⟩ := List.exists_cons_of_ne_nil hne
    have hw := (hws w List.mem_cons_self).2
    have hp₁ := (hp p List.mem_cons_self).2
    rw [foldWords_cons]
    cases ps with
    | nil =>
      have := afterWholePhrase?_one (u := []) hp₁ hw rfl
      rw [List.append_nil] at this
      simp [this, foldWords, eq_comm]
    | cons q qs =>
      have hmore : (afterWholePhrase? (p :: q :: qs) (w ++ [])) = _ := afterWholePhrase?_more hp₁ hw rfl
      rw [List.append_nil] at hmore
      simp [hmore, foldWords, afterBlanks?]
  | @cons w b v ws t hb hbne ht ih =>
    intro hws phrase hne hp
    obtain ⟨p, ps, rfl⟩ := List.exists_cons_of_ne_nil hne
    have hw := (hws w List.mem_cons_self).2
    have htail : IsPhrase (v :: ws) := fun x hx => hws x (List.mem_cons_of_mem _ hx)
    have hend := atWordEnd_blanks hb hbne t
    rw [foldWords_cons]
    cases ps with
    | nil =>
      rw [afterWholePhrase?_one (hp p List.mem_cons_self).2 hw hend]
      simp [eq_comm]
    | cons q qs =>
      have hq : IsPhrase (q :: qs) := fun x hx => hp x (List.mem_cons_of_mem _ hx)
      rw [afterWholePhrase?_more (hp p List.mem_cons_self).2 hw hend, List.cons_prefix_cons,
        afterBlanks?_append hb hbne (ht.dropWhile_isBlank (htail v List.mem_cons_self))]
      rw [← ih htail (List.cons_ne_nil q qs) hq]
      by_cases h : w.map foldChar = p
      · simp [h]
      · have h' : ¬p = w.map foldChar := fun e => h e.symm
        simp [h, h']

/-- In a text of words, a phrase occurs where its keywords are neighbours among the words. -/
theorem Spaced.hasPhrase_iff {ws : List Text} {t : Text} (h : Spaced ws t) (hws : IsPhrase ws)
    {p : Text} {ps : List Text} (hp : IsPhrase (p :: ps)) :
    hasPhrase (p :: ps) t = true ↔ (p :: ps) <:+: foldWords ws := by
  have hpne := (hp p List.mem_cons_self)
  induction h with
  | nil =>
    have hno : ¬afterWholePhrase? (p :: ps) [] = none → False := by
      intro h
      have := (Spaced.nil.afterWholePhrase?_iff (fun _ h => nomatch h) (List.cons_ne_nil p ps) hp).mp
        (Option.isSome_iff_ne_none.mpr h)
      cases List.prefix_nil.mp this
    have hnone := Classical.byContradiction hno
    simp [hasPhrase, search, wholePhrase?, hnone, foldWords]
  | one w =>
    have hw := hws w List.mem_cons_self
    have hpre := (Spaced.one w).afterWholePhrase?_iff hws (List.cons_ne_nil p ps) hp
    obtain ⟨c, w, rfl⟩ := List.exists_cons_of_ne_nil hw.1
    have hskip := search_within_word (wholePhrase?_afterWord (p :: ps)) []
      fun a ha => hw.2 a (List.mem_cons_of_mem c ha)
    rw [List.append_nil] at hskip
    rw [foldWords_cons, List.infix_cons_iff, ← foldWords_cons, ← hpre, show foldWords [] = [] from rfl, List.infix_nil]
    simp only [hasPhrase, search, wholePhrase?, Bool.false_eq_true, if_false, hw.2 c List.mem_cons_self, hskip,
      if_true, reduceCtorEq, or_false]
    cases afterWholePhrase? (p :: ps) (c :: w) <;> rfl
  | @cons w b v ws t hb hbne ht ih =>
    have hw := hws w List.mem_cons_self
    have htail : IsPhrase (v :: ws) := fun x hx => hws x (List.mem_cons_of_mem _ hx)
    have hpre := (Spaced.cons hb hbne ht).afterWholePhrase?_iff hws (List.cons_ne_nil p ps) hp
    rw [hasPhrase_word_append hpne.1 hpne.2 hw.2 hw.1 hb hbne, Bool.or_eq_true, hpre, foldWords_cons w,
      List.infix_cons_iff, ← foldWords_cons]
    exact or_congr_right (ih htail)

end StructForge.Text
