import StructForge.Proofs.Text.Lines
import StructForge.Proofs.Text.Phrases
import StructForge.Proofs.Text.UpperCase

/-!
# Carriage returns in front of newlines

Some texts end their lines with a newline, others put a carriage return in front of it (`withReturns`). A reader that
takes the two for the same kind of character leaves the same rest in either text, with the carriage returns that belong
to it:

- dropping and trimming (`dropWhile_withReturns`, `trim_withReturns`), and reading words, blanks, keywords and phrases;
- searching with a reader that does not start at a newline (`search_withReturns`): a carriage return is one more place
  at which nothing is found.

Where only the words of a text count, the carriage returns are not seen at all (`words_withReturns`,
`hasPhrase_withReturns`).
-/

namespace StructForge.Text

/-- The text with a carriage return in front of every newline. -/
def withReturns (t : Text) : Text := t.flatMap fun c => if c = '\n' then ['\r', '\n'] else [c]

@[simp] theorem withReturns_nil : withReturns [] = [] := rfl

@[simp] theorem withReturns_newline (t : Text) : withReturns ('\n' :: t) = '\r' :: '\n' :: withReturns t := rfl

theorem withReturns_cons {c : Char} (hc : c ≠ '\n') (t : Text) : withReturns (c :: t) = c :: withReturns t := by
  rw [withReturns, List.flatMap_cons, if_neg hc]
  rfl

theorem withReturns_append (t u : Text) : withReturns (t ++ u) = withReturns t ++ withReturns u := List.flatMap_append

theorem withReturns_of_not_mem {t : Text} (h : '\n' ∉ t) : withReturns t = t := by
  induction t with
  | nil => rfl
  | cons c t ih =>
    rw [List.mem_cons, not_or] at h
    rw [withReturns_cons (Ne.symm h.1), ih h.2]

theorem withReturns_eq_nil_iff {t : Text} : withReturns t = [] ↔ t = [] := by
  cases t with
  | nil => simp
  | cons c t => by_cases hc : c = '\n' <;> simp [hc, withReturns_cons]

@[simp] theorem isEmpty_withReturns (t : Text) : (withReturns t).isEmpty = t.isEmpty := by
  rw [Bool.eq_iff_iff, List.isEmpty_iff, List.isEmpty_iff, withReturns_eq_nil_iff]

theorem length_le_withReturns (t : Text) : t.length ≤ (withReturns t).length := by
  induction t with
  | nil => exact Nat.le_refl 0
  | cons c t ih =>
    by_cases hc : c = '\n'
    · rw [hc, withReturns_newline]
      simp only [List.length_cons]
      omega
    · rw [withReturns_cons hc]
      exact Nat.succ_le_succ ih

/-! ## Dropping and taking -/

section Drop

variable {p : Char → Bool}

theorem dropWhile_withReturns (hp : p '\r' = p '\n') (t : Text) :
    (withReturns t).dropWhile p = withReturns (t.dropWhile p) := by
  induction t with
  | nil => rfl
  | cons c t ih =>
    by_cases hc : c = '\n'
    · rw [hc, withReturns_newline]
      cases hn : p '\n' with
      | true => rw [List.dropWhile_cons_of_pos (hp.trans hn), List.dropWhile_cons_of_pos hn, ih,
          List.dropWhile_cons_of_pos hn]
      | false => rw [List.dropWhile_cons_of_neg (by simp [hp, hn]), List.dropWhile_cons_of_neg (by simp [hn]),
          withReturns_newline]
    · rw [withReturns_cons hc]
      by_cases hpc : p c = true
      · rw [List.dropWhile_cons_of_pos hpc, List.dropWhile_cons_of_pos hpc, ih]
      · rw [List.dropWhile_cons_of_neg hpc, List.dropWhile_cons_of_neg hpc, withReturns_cons hc]

theorem dropEndWhile_withReturns (hp : p '\r' = p '\n') (t : Text) :
    dropEndWhile p (withReturns t) = withReturns (dropEndWhile p t) := by
  have hcons : ∀ (c : Char) (u : Text), dropEndWhile p (c :: u) =
      if dropEndWhile p u = [] then if p c then [] else [c] else c :: dropEndWhile p u := by
    intro c u
    rw [dropEndWhile]
    cases dropEndWhile p u <;> rfl
  induction t with
  | nil => rfl
  | cons c t ih =>
    by_cases hc : c = '\n'
    · rw [hc, withReturns_newline, hcons '\n' t, hcons '\r', hcons '\n', ih]
      by_cases hrest : dropEndWhile p t = []
      · cases hn : p '\n' <;> simp [hrest, hp, hn]
      · simp [hrest, withReturns_eq_nil_iff]
    · rw [withReturns_cons hc, hcons c t, hcons c, ih]
      by_cases hrest : dropEndWhile p t = []
      · by_cases hpc : p c = true <;> simp [hrest, hpc, withReturns_cons hc]
      · simp [hrest, withReturns_eq_nil_iff, withReturns_cons hc]

/-- What is taken up to a line end has no carriage return in front of it. -/
theorem takeWhile_withReturns (hr : p '\r' = false) (hn : p '\n' = false) (t : Text) :
    (withReturns t).takeWhile p = t.takeWhile p := by
  induction t with
  | nil => rfl
  | cons c t ih =>
    by_cases hc : c = '\n'
    · rw [hc, withReturns_newline, List.takeWhile_cons_of_neg (by simp [hr]), List.takeWhile_cons_of_neg (by simp [hn])]
    · rw [withReturns_cons hc, List.takeWhile_cons, List.takeWhile_cons, ih]

end Drop

theorem trim_withReturns (t : Text) : trim (withReturns t) = withReturns (trim t) := by
  rw [trim, dropWhile_withReturns (by decide), dropEndWhile_withReturns (by decide), trim]

theorem takeWord_withReturns (t : Text) : takeWord (withReturns t) = ((takeWord t).1, withReturns (takeWord t).2) := by
  rw [takeWord, takeWhile_withReturns (by decide) (by decide), dropWhile_withReturns (by decide), takeWord]

theorem atWordEnd_withReturns (t : Text) : atWordEnd (withReturns t) = atWordEnd t := by
  cases t with
  | nil => rfl
  | cons c t =>
    by_cases hc : c = '\n'
    · rw [hc, withReturns_newline]
      rfl
    · rw [withReturns_cons hc]
      rfl

/-! ## Keywords and phrases -/

theorem afterKeyword?_withReturns : ∀ {w : Text}, (∀ c ∈ w, isWordChar c = true) → ∀ t : Text,
    afterKeyword? w (withReturns t) = (afterKeyword? w t).map withReturns
  | [], _, _ => rfl
  | a :: w, _, [] => rfl
  | a :: w, hw, c :: t => by
    have ih := afterKeyword?_withReturns (fun d hd => hw d (List.mem_cons_of_mem a hd)) t
    by_cases hc : c = '\n'
    · -- a word starts neither with a carriage return nor with a newline
      have hother : ∀ d, isWordChar (foldChar d) = false → foldChar d ≠ a := by
        rintro d hd rfl
        rw [hw _ List.mem_cons_self] at hd
        cases hd
      rw [hc, withReturns_newline, afterKeyword?, if_neg (hother '\r' (by decide)), afterKeyword?,
        if_neg (hother '\n' (by decide))]
      rfl
    · rw [withReturns_cons hc, afterKeyword?, afterKeyword?, ih]
      split <;> rfl

theorem afterBlanks?_withReturns (t : Text) : afterBlanks? (withReturns t) = (afterBlanks? t).map withReturns := by
  cases t with
  | nil => rfl
  | cons c t =>
    have hdrop := dropWhile_withReturns (p := isBlank) (by decide) t
    by_cases hc : c = '\n'
    · rw [hc, withReturns_newline, afterBlanks?, if_pos (by decide), List.dropWhile_cons_of_pos (by decide), hdrop,
        afterBlanks?, if_pos (by decide)]
      rfl
    · rw [withReturns_cons hc, afterBlanks?, afterBlanks?, hdrop]
      split <;> rfl

/-- Readings behind blanks. -/
theorem afterBlanks?_bind_withReturns {α β : Type} {read : Text → Option α} {read' : Text → Option β} {f : α → β}
    (hread : ∀ t, read' (withReturns t) = (read t).map f) (t : Text) :
    (afterBlanks? (withReturns t)).bind read' = ((afterBlanks? t).bind read).map f := by
  rw [afterBlanks?_withReturns]
  cases afterBlanks? t with
  | none => rfl
  | some r => exact hread r

theorem afterPhrase?_withReturns : ∀ {ws : List Text}, IsPhrase ws → ∀ t : Text,
    afterPhrase? ws (withReturns t) = (afterPhrase? ws t).map withReturns
  | [], _, _ => rfl
  | [w], hws, t => afterKeyword?_withReturns (hws w List.mem_cons_self).2 t
  | w :: next :: rest, hws, t => by
    have ih := afterPhrase?_withReturns fun v hv => hws v (List.mem_cons_of_mem w hv)
    simp only [afterPhrase?, Option.bind_eq_bind, afterKeyword?_withReturns (hws w List.mem_cons_self).2]
    cases afterKeyword? w t with
    | none => rfl
    | some r => exact afterBlanks?_bind_withReturns ih r

theorem afterWholePhrase?_withReturns {ws : List Text} (hws : IsPhrase ws) (t : Text) :
    afterWholePhrase? ws (withReturns t) = (afterWholePhrase? ws t).map withReturns := by
  rw [afterWholePhrase?, afterPhrase?_withReturns hws, afterWholePhrase?]
  cases afterPhrase? ws t with
  | none => rfl
  | some r =>
    simp only [Option.map_some, Option.filter_some, atWordEnd_withReturns]
    split <;> rfl

/-! ## Searches -/

/-- What a reader finds that does not start at a newline. -/
theorem search_withReturns {α : Type} {read : Bool → Text → Option α} {f : α → α}
    (hread : ∀ b t, read b (withReturns t) = (read b t).map f) (hnewline : ∀ b t, read b ('\n' :: t) = none) (b : Bool)
    (t : Text) : search read b (withReturns t) = (search read b t).map f := by
  induction t generalizing b with
  | nil => exact hread b []
  | cons c t ih =>
    have hc := hread b (c :: t)
    by_cases hcn : c = '\n'
    · subst hcn
      rw [hnewline, withReturns_newline] at hc
      rw [withReturns_newline, search_of_not_read hc, search_of_not_read (hnewline _ _),
        search_of_not_read (hnewline b t)]
      exact ih _
    · rw [withReturns_cons hcn] at hc ⊢
      rw [search, search, hc]
      cases read b (c :: t) with
      | some a => rfl
      | none => exact ih _

theorem hasPhrase_withReturns {ws : List Text} (hws : IsPhrase ws) (hne : ws ≠ []) (t : Text) :
    hasPhrase ws (withReturns t) = hasPhrase ws t := by
  have hread : ∀ b t, wholePhrase? ws b (withReturns t) = (wholePhrase? ws b t).map withReturns := by
    intro b t
    rw [wholePhrase?, wholePhrase?]
    split
    · rfl
    · exact afterWholePhrase?_withReturns hws t
  have hnewline : ∀ b t, wholePhrase? ws b ('\n' :: t) = none := by
    intro b t
    obtain ⟨w, rest, rfl⟩ := List.exists_cons_of_ne_nil hne
    obtain ⟨hw, hchars⟩ := hws w List.mem_cons_self
    rw [wholePhrase?, afterWholePhrase?, afterPhrase?_of_not_word hw hchars (by decide)]
    split <;> rfl
  rw [hasPhrase, search_withReturns hread hnewline, Option.isSome_map, hasPhrase]

/-! ## Words -/

theorem runsOf_append_cons {p : Char → Bool} {c : Char} (hc : p c = false) (t u : Text) :
    runsOf p (t ++ c :: u) = runsOf p t ++ runsOf p u := by
  simp only [runsOf, splitWhere_eq_splitOnP]
  rw [List.splitOnP_append_cons t u (by simp [hc]), List.filter_append]

/-- Where carriage returns and newlines are left out, it does not matter which of them there are. -/
theorem runsOf_withReturns {p : Char → Bool} (hr : p '\r' = false) (hn : p '\n' = false) (t : Text) :
    runsOf p (withReturns t) = runsOf p t := by
  -- by induction with the start of the line in front, which the next character may continue
  have hline : ∀ front, runsOf p (front ++ withReturns t) = runsOf p (front ++ t) := by
    induction t with
    | nil => exact fun _ => rfl
    | cons c t ih =>
      intro front
      by_cases hc : c = '\n'
      · have hnext := runsOf_append_cons hn [] (withReturns t)
        rw [List.nil_append] at hnext
        rw [hc, withReturns_newline, runsOf_append_cons hr, runsOf_append_cons hn, hnext]
        exact congrArg (runsOf p front ++ ·) (ih [])
      · have hmove := ih (front ++ [c])
        rw [List.append_assoc, List.append_assoc] at hmove
        rw [withReturns_cons hc]
        exact hmove
  exact hline []

theorem words_withReturns (t : Text) : words (withReturns t) = words t := runsOf_withReturns (by decide) (by decide) t

/-! ## Upper case -/

theorem upper_withReturns (t : Text) : upper (withReturns t) = withReturns (upper t) := by
  have himage : ∀ c, c ≠ '\n' → '\n' ∉ upperChar c := by
    intro c hc hmem
    have hblank : isBlank c = true := (isBlank_of_mem_upperChar hmem).symm
    rw [upperChar_of_isBlank hblank, List.mem_singleton] at hmem
    exact hc hmem.symm
  induction t with
  | nil => rfl
  | cons c t ih =>
    have hupper : upper (c :: t) = upperChar c ++ upper t := List.flatMap_cons
    by_cases hc : c = '\n'
    · have hreturn : upperChar '\r' = ['\r'] := by decide
      have hnewline : upperChar '\n' = ['\n'] := by decide
      rw [hupper, hc, withReturns_newline, hnewline, withReturns_append, ← ih, upper, List.flatMap_cons,
        List.flatMap_cons, hreturn, hnewline]
      rfl
    · rw [hupper, withReturns_cons hc, withReturns_append, withReturns_of_not_mem (himage c hc), ← ih]
      exact List.flatMap_cons

end StructForge.Text
