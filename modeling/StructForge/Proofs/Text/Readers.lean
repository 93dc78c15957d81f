import StructForge.Text.Keyword

/-!
# What readers take and where they stop

A reader takes the start of a text and leaves the rest. This module says of each reader of names, blanks and
keywords

- what it takes: a word in front of something else, blanks in front of something else, a keyword in any spelling
  (`takeWord_append_of`, `afterBlanks?_append`, `afterKeyword?_append`);
- where it stops: in front of a character that it cannot take, whatever follows that character. Such a character is
  as good as the end of the text (the lemmas in `_stop`);
- that it leaves blanks at the end of a text as they are (the lemmas in `_append_blanks`).
-/

namespace StructForge.Text

/-- What holds of the characters of a text is decided one after another, not by going through all characters. -/
instance (priority := high) decidableForallMem (t : Text) (p : Char → Prop) [DecidablePred p] :
    Decidable (∀ c ∈ t, p c) := List.decidableBAll p t

instance (priority := high) decidableExistsMem (t : Text) (p : Char → Prop) [DecidablePred p] :
    Decidable (∃ c ∈ t, p c) := List.decidableBEx p t

/-- What holds of the characters of ASCII is decided one after another. -/
theorem of_ascii {P : Char → Prop} (h : ∀ n ∈ List.range 0x80, P (Char.ofNat n)) {c : Char} (hc : c.toNat < 0x80) :
    P c := by
  have hchar := h c.toNat (List.mem_range.mpr hc)
  rwa [Char.ofNat_toNat] at hchar

/-! ## Blanks and word characters -/

theorem Ranges.contains_cons_of_mem {lo hi n : Nat} (rest : Ranges) (h₁ : lo ≤ n) (h₂ : n ≤ hi) :
    Ranges.contains ((lo, hi) :: rest) n = true := by
  have h : ¬n < lo := by omega
  simp [Ranges.contains, h, h₂]

/-- A property of code points that holds at every place of the ranges holds of what they contain. -/
theorem Ranges.of_contains {P : Nat → Bool} {n : Nat} : ∀ {r : Ranges},
    (r.all fun p => (List.range' p.1 (p.2 + 1 - p.1)).all P) = true → r.contains n = true → P n = true
  | [], _, h => by cases h
  | (lo, hi) :: rest, hr, h => by
    rw [List.all_cons, Bool.and_eq_true] at hr
    unfold Ranges.contains at h
    split at h
    · cases h
    · split at h
      · exact List.all_eq_true.mp hr.1 n (List.mem_range'_1.mpr ⟨by simpa using ‹¬n < lo›, by simp only; omega⟩)
      · exact Ranges.of_contains hr.2 h

theorem ne_of_isBlank {c d : Char} (hc : isBlank c = true) (hd : isBlank d = false) : c ≠ d := by
  rintro rfl
  rw [hc] at hd
  cases hd

/-- No blank is a word character. -/
theorem isWordChar_of_isBlank {c : Char} (h : isBlank c = true) : isWordChar c = false := by
  have hc := Ranges.of_contains (P := fun n => !(letterRanges.contains n || numeralRanges.contains n || n == 95))
    (by decide +kernel) h
  simp only [Bool.not_eq_true', Bool.or_eq_false_iff, beq_eq_false_iff_ne] at hc
  have hu : c ≠ '_' := fun e => hc.2 (by rw [e]; rfl)
  simp [isWordChar, isAlphanumeric, isLetter, isNumeral, hc.1.1, hc.1.2, hu]

theorem isBlank_of_isWordChar {c : Char} (h : isWordChar c = true) : isBlank c = false := by
  cases hb : isBlank c with
  | false => rfl
  | true => rw [isWordChar_of_isBlank hb] at h; cases h

/-- No blank is a digit. -/
theorem isDigit_of_isBlank {c : Char} (h : isBlank c = true) : c.isDigit = false := by
  have hc := Ranges.of_contains (P := fun n => !(decide (48 ≤ n) && decide (n ≤ 57))) (by decide) h
  simp only [Bool.not_eq_true', Bool.and_eq_false_iff, decide_eq_false_iff_not] at hc
  simp only [Char.isDigit, UInt32.le_iff_toNat_le, ge_iff_le, Bool.and_eq_false_iff, decide_eq_false_iff_not]
  exact hc

/-- What is a word character in small letters is one as it is written. -/
theorem isWordChar_of_foldChar {c : Char} (h : isWordChar (foldChar c) = true) : isWordChar c = true := by
  unfold foldChar at h
  split at h
  · rename_i hc
    have hl : isLetter c = true := Ranges.contains_cons_of_mem _ hc.1 hc.2
    simp [isWordChar, isAlphanumeric, hl]
  · split at h
    · rename_i hc
      simp only [Bool.or_eq_true, decide_eq_true_eq] at hc
      rcases hc with rfl | rfl <;> decide
    · split at h
      · rename_i hc
        rw [hc]
        decide
      · split at h
        · rename_i hc
          have he : c = Char.ofNat 0x212A := by rw [← hc, Char.ofNat_toNat]
          rw [he]
          decide +kernel
        · exact h

/-- What is no word character is in no word, in small letters neither. -/
theorem foldChar_not_mem {c : Char} (hc : isWordChar c = false) {w : Text} (hw : ∀ d ∈ w, isWordChar d = true) :
    foldChar c ∉ w := by
  intro hmem
  have hword := isWordChar_of_foldChar (hw _ hmem)
  rw [hc] at hword
  cases hword

/-! ## What readers take -/

theorem dropWhile_isBlank_append {b : Text} (hb : ∀ c ∈ b, isBlank c = true) (t : Text) :
    (b ++ t).dropWhile isBlank = t.dropWhile isBlank := List.dropWhile_append_of_pos hb

/-- A text that starts with a word character starts with no blank. -/
theorem dropWhile_isBlank_of_isWordChar {c : Char} (h : isWordChar c = true) (t : Text) :
    (c :: t).dropWhile isBlank = c :: t := by
  rw [List.dropWhile_cons_of_neg (by rw [isBlank_of_isWordChar h]; exact Bool.false_ne_true)]

/-- A word in front of something that does not continue it. -/
theorem takeWord_append_of {w t : Text} (hw : ∀ c ∈ w, isWordChar c = true) (ht : atWordEnd t = true) :
    takeWord (w ++ t) = (w, t) := by
  unfold takeWord
  rw [List.takeWhile_append_of_pos hw, List.dropWhile_append_of_pos hw]
  cases t with
  | nil => simp
  | cons c t =>
    have hc : ¬isWordChar c = true := by simpa [atWordEnd] using ht
    rw [List.takeWhile_cons_of_neg hc, List.dropWhile_cons_of_neg hc, List.append_nil]

/-- At least one blank in front of something that starts with none. -/
theorem afterBlanks?_append {b t : Text} (hb : ∀ c ∈ b, isBlank c = true) (hne : b ≠ [])
    (ht : t.dropWhile isBlank = t) : afterBlanks? (b ++ t) = some t := by
  cases b with
  | nil => exact absurd rfl hne
  | cons c b =>
    have hc := hb c List.mem_cons_self
    rw [List.cons_append, afterBlanks?, if_pos hc,
      dropWhile_isBlank_append (fun d hd => hb d (List.mem_cons_of_mem _ hd)), ht]

/-- What is behind the blanks of a text that starts with some. -/
theorem eq_dropWhile_of_afterBlanks? {t r : Text} (h : afterBlanks? t = some r) : r = t.dropWhile isBlank := by
  cases t with
  | nil => cases h
  | cons c t =>
    simp only [afterBlanks?] at h
    split at h
    · rename_i hc
      rw [List.dropWhile_cons_of_pos hc]
      exact (Option.some.inj h).symm
    · cases h

/-- Blanks in front of something end at the same place whatever follows that. -/
theorem afterBlanks?_append_of_ne {t r : Text} (h : afterBlanks? t = some r) (hr : r ≠ []) (u : Text) :
    afterBlanks? (t ++ u) = some (r ++ u) := by
  have hdrop := eq_dropWhile_of_afterBlanks? h
  cases t with
  | nil => cases h
  | cons c t =>
    simp only [afterBlanks?] at h
    split at h
    · rename_i hc
      have hr' : ¬(t.dropWhile isBlank).isEmpty = true := by
        rw [Option.some.inj h]
        simpa using hr
      rw [List.cons_append, afterBlanks?, if_pos hc, List.dropWhile_append, if_neg hr', Option.some.inj h]
    · cases h

/-- A keyword in any spelling. -/
theorem afterKeyword?_append : ∀ (k t : Text), afterKeyword? (k.map foldChar) (k ++ t) = some t
  | [], _ => rfl
  | c :: k, t => by
    rw [List.map_cons, List.cons_append, afterKeyword?, if_pos rfl, afterKeyword?_append k t]

/-- What a keyword reader took spells the keyword. -/
theorem eq_append_of_afterKeyword? : ∀ {w t r : Text}, afterKeyword? w t = some r →
    ∃ k, k.map foldChar = w ∧ t = k ++ r
  | [], t, r, h => ⟨[], rfl, by simpa [afterKeyword?] using h⟩
  | _ :: _, [], _, h => by cases h
  | a :: w, c :: t, r, h => by
    unfold afterKeyword? at h
    split at h
    · rename_i hc
      obtain ⟨k, rfl, rfl⟩ := eq_append_of_afterKeyword? h
      exact ⟨c :: k, by rw [List.map_cons, hc], rfl⟩
    · cases h

theorem afterPrefix?_append : ∀ k t : Text, afterPrefix? k (k ++ t) = some t
  | [], _ => rfl
  | a :: k, t => by rw [List.cons_append, afterPrefix?, if_pos rfl, afterPrefix?_append k t]

/-- What follows the start of a text makes up the text with it. -/
theorem eq_append_of_afterPrefix? : ∀ {k t r : Text}, afterPrefix? k t = some r → t = k ++ r
  | [], t, r, h => Option.some.inj h
  | _ :: _, [], _, h => by cases h
  | a :: k, c :: t, r, h => by
    simp only [afterPrefix?] at h
    split at h
    · rename_i hac
      rw [hac, List.cons_append, eq_append_of_afterPrefix? h]
    · cases h

/-! ## Where readers stop -/

section Stop

variable {c : Char}

theorem afterKeyword?_stop : ∀ {w : Text}, foldChar c ∉ w → ∀ t u : Text,
    afterKeyword? w (t ++ c :: u) = (afterKeyword? w t).map (· ++ c :: u)
  | [], _, _, _ => rfl
  | a :: w, h, [], u => by
    have hne : ¬foldChar c = a := fun e => h (e ▸ List.mem_cons_self)
    simp [afterKeyword?, hne]
  | a :: w, h, d :: t, u => by
    rw [List.cons_append]
    unfold afterKeyword?
    split
    · exact afterKeyword?_stop (fun hm => h (List.mem_cons_of_mem _ hm)) t u
    · rfl

theorem afterPrefix?_stop : ∀ {k : Text}, c ∉ k → ∀ t u : Text,
    afterPrefix? k (t ++ c :: u) = (afterPrefix? k t).map (· ++ c :: u)
  | [], _, _, _ => rfl
  | a :: k, h, [], _ => by
    have hne : ¬a = c := fun e => h (e ▸ List.mem_cons_self)
    simp [afterPrefix?, hne]
  | a :: k, h, d :: t, u => by
    simp only [List.cons_append, afterPrefix?]
    split
    · exact afterPrefix?_stop (fun hm => h (List.mem_cons_of_mem _ hm)) t u
    · rfl

/-- A prefix ends at a character that it continues by nothing, or by something else than what is there. -/
theorem afterPrefix?_last {u : Text} : ∀ {k : Text}, (∀ p s, k = p ++ c :: s → s = [] ∨ afterPrefix? s u = none) →
    ∀ t, afterPrefix? k (t ++ c :: u) = (afterPrefix? k (t ++ [c])).map (· ++ u)
  | [], _, t => by simp [afterPrefix?]
  | a :: k, h, [] => by
    simp only [List.nil_append, afterPrefix?]
    split
    · rename_i hac
      rcases h [] k (by rw [hac, List.nil_append]) with rfl | hnone
      · rfl
      · cases k with
        | nil => cases hnone
        | cons b k => exact hnone
    · rfl
  | a :: k, h, d :: t => by
    simp only [List.cons_append, afterPrefix?]
    split
    · exact afterPrefix?_last (fun p s hk => h (a :: p) s (by rw [hk, List.cons_append])) t
    · rfl

theorem dropWhile_stop {p : Char → Bool} (h : p c = false) (t u : Text) :
    (t ++ c :: u).dropWhile p = t.dropWhile p ++ c :: u := by
  rw [List.dropWhile_append]
  split
  · rename_i he
    rw [List.isEmpty_iff.mp he, List.dropWhile_cons_of_neg (by rw [h]; exact Bool.false_ne_true), List.nil_append]
  · rfl

theorem dropEndWhile_stop {p : Char → Bool} (h : p c = false) (u : Text) : ∀ t : Text,
    dropEndWhile p (t ++ c :: u) = t ++ c :: dropEndWhile p u
  | [] => by
    rw [List.nil_append, List.nil_append, dropEndWhile]
    split
    · rename_i hnil
      rw [h, hnil]
      rfl
    · rfl
  | d :: t => by
    rw [List.cons_append, dropEndWhile, dropEndWhile_stop h u t]
    cases t <;> rfl

theorem takeWhile_stop {p : Char → Bool} (h : p c = false) (u : Text) : ∀ t : Text,
    (t ++ c :: u).takeWhile p = t.takeWhile p
  | [] => by simp [h]
  | d :: t => by
    have ih := takeWhile_stop h u t
    rw [List.cons_append, List.takeWhile_cons, List.takeWhile_cons, ih]

theorem afterBlanks?_stop (h : isBlank c = false) (t u : Text) :
    afterBlanks? (t ++ c :: u) = (afterBlanks? t).map (· ++ c :: u) := by
  cases t with
  | nil => simp [afterBlanks?, h]
  | cons d t =>
    simp only [List.cons_append, afterBlanks?]
    split
    · rw [dropWhile_stop h, Option.map_some]
    · rfl

theorem takeWord_stop (h : isWordChar c = false) (t u : Text) :
    takeWord (t ++ c :: u) = ((takeWord t).1, (takeWord t).2 ++ c :: u) := by
  unfold takeWord
  rw [takeWhile_stop h u t, dropWhile_stop h]

theorem atWordEnd_stop (h : isWordChar c = false) (t u : Text) : atWordEnd (t ++ c :: u) = atWordEnd t := by
  cases t with
  | nil => simp [atWordEnd, h]
  | cons d t => rfl

theorem afterPhrase?_stop (hb : isBlank c = false) : ∀ {ws : List Text}, (∀ w ∈ ws, foldChar c ∉ w) → ∀ t u : Text,
    afterPhrase? ws (t ++ c :: u) = (afterPhrase? ws t).map (· ++ c :: u)
  | [], _, _, _ => rfl
  | [w], h, t, u => afterKeyword?_stop (h w List.mem_cons_self) t u
  | w :: v :: ws, h, t, u => by
    have ih := afterPhrase?_stop hb (fun x hx => h x (List.mem_cons_of_mem w hx))
    simp only [afterPhrase?, afterKeyword?_stop (h w List.mem_cons_self)]
    cases afterKeyword? w t with
    | none => rfl
    | some r =>
      simp only [Option.map_some, Option.bind_eq_bind, Option.bind_some, afterBlanks?_stop hb]
      cases afterBlanks? r with
      | none => rfl
      | some r => exact ih r u

theorem afterWholePhrase?_stop (hb : isBlank c = false) (hw : isWordChar c = false) {ws : List Text}
    (h : ∀ w ∈ ws, foldChar c ∉ w) (t u : Text) :
    afterWholePhrase? ws (t ++ c :: u) = (afterWholePhrase? ws t).map (· ++ c :: u) := by
  unfold afterWholePhrase?
  rw [afterPhrase?_stop hb h]
  cases afterPhrase? ws t with
  | none => rfl
  | some r => simp only [Option.map_some, Option.filter_some, atWordEnd_stop hw]; split <;> rfl

end Stop

/-! ## Dropping at the start and at the end -/

theorem dropWhile_eq_nil {p : Char → Bool} {t : Text} (h : ∀ c ∈ t, p c = true) : t.dropWhile p = [] := by
  have happend : (t ++ []).dropWhile p = [] := List.dropWhile_append_of_pos h
  rwa [List.append_nil] at happend

theorem dropEndWhile_eq_nil {p : Char → Bool} : ∀ {t : Text}, (∀ c ∈ t, p c = true) → dropEndWhile p t = []
  | [], _ => rfl
  | c :: t, h => by
    rw [dropEndWhile, dropEndWhile_eq_nil (fun d hd => h d (List.mem_cons_of_mem c hd))]
    exact if_pos (h c List.mem_cons_self)

/-- What is dropped at the end of a text. -/
theorem dropEndWhile_append (p : Char → Bool) : ∀ t : Text, ∃ b, t = dropEndWhile p t ++ b ∧ ∀ c ∈ b, p c = true
  | [] => ⟨[], rfl, fun _ h => nomatch h⟩
  | c :: t => by
    obtain ⟨b, ht, hb⟩ := dropEndWhile_append p t
    rw [dropEndWhile]
    split
    · rename_i hnil
      rw [hnil, List.nil_append] at ht
      split
      · rename_i hc
        refine ⟨c :: t, rfl, fun d hd => ?_⟩
        rcases List.mem_cons.mp hd with rfl | hd
        · exact hc
        · exact hb d (ht ▸ hd)
      · exact ⟨t, rfl, fun d hd => hb d (ht ▸ hd)⟩
    · exact ⟨b, congrArg (c :: ·) ht, hb⟩

/-- What is left without characters at the end does not end in one. -/
theorem getLast?_dropEndWhile (p : Char → Bool) : ∀ t : Text, ∀ c ∈ (dropEndWhile p t).getLast?, p c = false
  | [], c, hc => by cases hc
  | d :: t, c, hc => by
    rw [dropEndWhile] at hc
    split at hc
    · split at hc
      · cases hc
      · rename_i hd
        obtain rfl : d = c := by simpa using hc
        exact Bool.eq_false_iff.mpr hd
    · rename_i hne
      refine getLast?_dropEndWhile p t c ?_
      rwa [List.getLast?_cons_of_ne_nil hne] at hc

/-! ## Up to a character -/

section Character

variable {c : Char}

theorem ne_of_not_mem {t : Text} (h : c ∉ t) : ∀ d ∈ t, decide (d ≠ c) = true := by
  intro d hd
  have hne : d ≠ c := fun e => h (e ▸ hd)
  exact decide_eq_true hne

/-- Up to the first occurrence. -/
theorem dropWhile_ne_append {t : Text} (h : c ∉ t) (u : Text) : (t ++ c :: u).dropWhile (· ≠ c) = c :: u := by
  rw [List.dropWhile_append_of_pos (ne_of_not_mem h), List.dropWhile_cons_of_neg (by simp)]

/-- Behind the last occurrence. -/
theorem dropEndWhile_ne_append {u : Text} (h : c ∉ u) (t : Text) :
    dropEndWhile (· ≠ c) (t ++ c :: u) = t ++ [c] := by
  rw [dropEndWhile_stop (by simp), dropEndWhile_eq_nil (ne_of_not_mem h)]

end Character

/-! ## Blanks around a text -/

theorem mem_of_mem_trim {c : Char} {t : Text} (h : c ∈ trim t) : c ∈ t := by
  obtain ⟨b, hb, _⟩ := dropEndWhile_append isBlank (t.dropWhile isBlank)
  have hmem : c ∈ t.dropWhile isBlank := hb ▸ List.mem_append_left b h
  exact (List.dropWhile_sublist isBlank).mem hmem

theorem trim_append_blanks {b : Text} (hb : ∀ c ∈ b, isBlank c = true) (t : Text) : trim (b ++ t) = trim t := by
  rw [trim, trim, List.dropWhile_append_of_pos hb]

section Blanks

variable {b : Text} (hb : ∀ c ∈ b, isBlank c = true)
include hb

theorem atWordEnd_append_blanks (t : Text) : atWordEnd (t ++ b) = atWordEnd t := by
  cases b with
  | nil => rw [List.append_nil]
  | cons c b => exact atWordEnd_stop (isWordChar_of_isBlank (hb c List.mem_cons_self)) t b

theorem takeWord_append_blanks (t : Text) : takeWord (t ++ b) = ((takeWord t).1, (takeWord t).2 ++ b) := by
  cases b with
  | nil => simp
  | cons c b => exact takeWord_stop (isWordChar_of_isBlank (hb c List.mem_cons_self)) t b

/-- A keyword does not reach into the blanks. -/
theorem afterKeyword?_append_blanks {w : Text} (hw : ∀ c ∈ w, isWordChar c = true) (t : Text) :
    afterKeyword? w (t ++ b) = (afterKeyword? w t).map (· ++ b) := by
  cases b with
  | nil => simp
  | cons c b => exact afterKeyword?_stop (foldChar_not_mem (isWordChar_of_isBlank (hb c List.mem_cons_self)) hw) t b

/-- A reader behind blanks does not reach into the blanks at the end, if it needs more than blanks. -/
theorem afterBlanks?_bind_append_blanks {α : Type} {read : Text → Option α} {f : α → α}
    (hread : ∀ t, read (t ++ b) = (read t).map f) (hnil : read [] = none) (t : Text) :
    (afterBlanks? (t ++ b)).bind read = ((afterBlanks? t).bind read).map f := by
  cases t with
  | nil =>
    cases b with
    | nil => rfl
    | cons c b =>
      have hb' := dropWhile_eq_nil (fun d hd => hb d (List.mem_cons_of_mem c hd))
      have hblanks : afterBlanks? (c :: b) = some [] := by rw [afterBlanks?, if_pos (hb c List.mem_cons_self), hb']
      rw [List.nil_append, hblanks]
      exact hnil
  | cons c t =>
    simp only [List.cons_append, afterBlanks?]
    split
    · simp only [Option.bind_some]
      rw [List.dropWhile_append]
      split
      · rename_i he
        rw [dropWhile_eq_nil hb, List.isEmpty_iff.mp he, hnil]
        rfl
      · exact hread _
    · rfl

end Blanks

/-! ## First occurrences -/

/-- A text has only one first occurrence of a character. -/
theorem append_cons_inj {α : Type} {c : α} : ∀ {t t' u u' : List α}, c ∉ t → c ∉ t' → t ++ c :: u = t' ++ c :: u' →
    t = t' ∧ u = u'
  | [], [], _, _, _, _, h => ⟨rfl, List.tail_eq_of_cons_eq h⟩
  | [], d :: t', _, _, _, h', h => absurd (List.head_eq_of_cons_eq h ▸ List.mem_cons_self) h'
  | d :: t, [], _, _, h', _, h => absurd (List.head_eq_of_cons_eq h ▸ List.mem_cons_self) h'
  | d :: t, e :: t', u, u', h₁, h₂, h => by
    simp only [List.cons_append, List.cons.injEq] at h
    obtain ⟨rfl, h⟩ := h
    obtain ⟨rfl, rfl⟩ :=
      append_cons_inj (fun hm => h₁ (List.mem_cons_of_mem _ hm)) (fun hm => h₂ (List.mem_cons_of_mem _ hm)) h
    exact ⟨rfl, rfl⟩

end StructForge.Text
