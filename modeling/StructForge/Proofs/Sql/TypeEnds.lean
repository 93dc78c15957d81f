import StructForge.Proofs.Sql.ContinuedLines
import StructForge.Proofs.Text.Lines

/-!
# Where column types end

A column type starts with a word, and each reader behind the word takes nothing or something that ends in ink
(`LeavesInk`). So a column type has no blanks at its ends (`trim_of_readTypeText?`).
-/

namespace StructForge.Sql

open Text

/-! ## What ends in ink -/

/-- What stands in front of the rest of a text ends in ink. -/
def SpansInk (t rest : Text) : Prop := ∃ front, EndsInk front ∧ t = front ++ rest

theorem SpansInk.append {t rest : Text} (h : SpansInk t rest) (front : Text) : SpansInk (front ++ t) rest := by
  obtain ⟨k, hk, rfl⟩ := h
  exact ⟨front ++ k, hk.append front, (List.append_assoc ..).symm⟩

theorem SpansInk.trans {t u v : Text} (htu : SpansInk t u) (huv : SpansInk u v) : SpansInk t v := by
  obtain ⟨front, -, rfl⟩ := htu
  exact huv.append front

/-- The blanks in front do not matter. -/
theorem SpansInk.of_afterBlanks? {t u rest : Text} (h : afterBlanks? t = some u) (hu : SpansInk u rest) :
    SpansInk t rest := by
  have hsplit : t = t.takeWhile isBlank ++ u := by
    rw [eq_dropWhile_of_afterBlanks? h, List.takeWhile_append_dropWhile]
  rw [hsplit]
  exact hu.append _

theorem spansInk_of_afterKeyword? {w t r : Text} (hne : w ≠ []) (hw : ∀ c ∈ w, isWordChar c = true)
    (h : afterKeyword? w t = some r) : SpansInk t r := by
  obtain ⟨k, rfl, ht⟩ := eq_append_of_afterKeyword? h
  have hkne : k ≠ [] := fun hnil => hne (by rw [hnil, List.map_nil])
  exact ⟨k, endsInk_of_isWordChar hkne fun c hc => isWordChar_of_foldChar (hw _ (List.mem_map_of_mem hc)), ht⟩

/-- A phrase ends with its last word. -/
theorem spansInk_of_afterPhrase? : ∀ {ws : List Text}, ws ≠ [] → IsPhrase ws → ∀ {t r : Text},
    afterPhrase? ws t = some r → SpansInk t r
  | [w], _, hws, t, r, h =>
    have hw := hws w List.mem_cons_self
    spansInk_of_afterKeyword? hw.1 hw.2 h
  | w :: next :: rest, _, hws, t, r, h => by
    simp only [afterPhrase?, Option.bind_eq_bind, Option.bind_eq_some_iff] at h
    obtain ⟨behind, hkeyword, more, hblanks, hrest⟩ := h
    obtain ⟨hne, hw⟩ := hws w List.mem_cons_self
    have hmore := spansInk_of_afterPhrase? (List.cons_ne_nil next rest)
      (fun v hv => hws v (List.mem_cons_of_mem w hv)) hrest
    exact (spansInk_of_afterKeyword? hne hw hkeyword).trans (hmore.of_afterBlanks? hblanks)

/-! ## Readers behind the word of a type -/

/-- A reader has taken nothing, or something that ends in ink. -/
def LeavesInk (t rest : Text) : Prop := rest = t ∨ SpansInk t rest

theorem LeavesInk.trans {t u v : Text} (htu : LeavesInk t u) (huv : LeavesInk u v) : LeavesInk t v := by
  rcases htu with rfl | htu
  · exact huv
  · rcases huv with rfl | huv
    · exact .inr htu
    · exact .inr (htu.trans huv)

/-- Words behind blanks that are skipped if they are there, in one of two forms. -/
theorem leavesInk_getD {t r : Text} (hr : afterBlanks? t = some r) {first second : Option Text}
    (hfirst : ∀ rest, first = some rest → SpansInk r rest) (hsecond : ∀ rest, second = some rest → SpansInk r rest) :
    LeavesInk t ((first <|> second).getD t) := by
  cases first with
  | some rest => exact .inr ((hfirst rest rfl).of_afterBlanks? hr)
  | none =>
    cases second with
    | some rest => exact .inr ((hsecond rest rfl).of_afterBlanks? hr)
    | none => exact .inl rfl

theorem leavesInk_skipSecondWord (t : Text) : LeavesInk t (skipSecondWord t) := by
  rw [skipSecondWord]
  split
  · exact .inl rfl
  · rename_i r hr
    exact leavesInk_getD hr (fun _ => spansInk_of_afterKeyword? (by decide) (by decide))
      fun _ => spansInk_of_afterKeyword? (by decide) (by decide)

theorem leavesInk_skipTimeZone (t : Text) : LeavesInk t (skipTimeZone t) := by
  rw [skipTimeZone]
  split
  · exact .inl rfl
  · rename_i r hr
    exact leavesInk_getD hr (fun _ => spansInk_of_afterPhrase? (by decide) (by decide))
      fun _ => spansInk_of_afterPhrase? (by decide) (by decide)

/-- Parameters end with their closing parenthesis. -/
theorem leavesInk_skipParameters (t : Text) : LeavesInk t (skipParameters t) := by
  by_cases hclosed : t.head? = some '(' ∧ ')' ∈ t
  · obtain ⟨hfirst, hmem⟩ := hclosed
    obtain ⟨inner, rfl⟩ := List.head?_eq_some_iff.mp hfirst
    obtain ⟨list, rest, rfl, hlist⟩ := List.eq_append_cons_of_mem ((List.mem_cons.mp hmem).resolve_left (by decide))
    rw [skipParameters_closed hlist]
    exact .inr ⟨'(' :: (list ++ [')']), ⟨'(' :: list, ')', rfl, by decide⟩, by simp⟩
  · by_cases hfirst : t.head? = some '('
    · exact .inl (skipParameters_open ⟨hfirst, fun hmem => hclosed ⟨hfirst, hmem⟩⟩)
    · left
      unfold skipParameters
      split
      · exact absurd rfl hfirst
      · rfl

theorem spansInk_of_afterArraySuffix? {t r : Text} (h : afterArraySuffix? t = some r) : SpansInk t r := by
  unfold afterArraySuffix? at h
  split at h
  · rename_i inner
    split at h
    · rename_i rest hrest
      cases h
      refine ⟨'[' :: (inner.takeWhile isDecimal ++ [']']), ⟨'[' :: inner.takeWhile isDecimal, ']', rfl, by decide⟩, ?_⟩
      rw [List.cons_append, List.append_assoc, List.singleton_append, ← hrest, List.takeWhile_append_dropWhile]
    · cases h
  · cases h

theorem leavesInk_skipArraySuffixes : ∀ (fuel : Nat) (t : Text), LeavesInk t (skipArraySuffixes fuel t)
  | 0, t => .inl rfl
  | fuel + 1, t => by
    rw [skipArraySuffixes]
    split
    · rename_i rest hrest
      exact .trans (.inr (spansInk_of_afterArraySuffix? hrest)) (leavesInk_skipArraySuffixes fuel rest)
    · exact .inl rfl

theorem leavesInk_skipTypeTail (dialect : Sql) (t : Text) : LeavesInk t (skipTypeTail dialect t) := by
  cases dialect with
  | mysql | sqlite => exact leavesInk_skipParameters t
  | postgresql =>
    exact (((leavesInk_skipSecondWord t).trans (leavesInk_skipParameters _)).trans
      (leavesInk_skipTimeZone _)).trans (leavesInk_skipArraySuffixes _ _)

/-! ## Types -/

/-- A column type is not empty, and has no blanks at its ends. -/
theorem trim_of_readTypeText? {dialect : Sql} {t type behind : Text}
    (h : dialect.readTypeText? t = some (type, behind)) : type ≠ [] ∧ trim type = type := by
  rw [readTypeText?] at h
  split at h
  · cases h
  · rename_i word rest hne hword
    have hchars : ∀ c ∈ word, isWordChar c = true := by
      have hall : ∀ c ∈ (takeWord t).1, isWordChar c = true := List.all_eq_true.mp List.all_takeWhile
      rwa [hword] at hall
    have happend : word ++ rest = t := by
      have happend := takeWord_append t
      rwa [hword] at happend
    have hwordne : word ≠ [] := by
      rintro rfl
      exact hne rfl
    have hword : SpansInk t rest := ⟨word, endsInk_of_isWordChar hwordne hchars, happend.symm⟩
    obtain ⟨front, hink, hfront⟩ : SpansInk t (skipTypeTail dialect rest) := by
      rcases leavesInk_skipTypeTail dialect rest with hrest | hrest
      · rwa [hrest]
      · exact hword.trans hrest
    have htype : type = front := by
      simp only [Option.some.injEq, Prod.mk.injEq] at h
      rw [← h.1, consumed, hfront]
      simp
    have hfirst : ∀ c ∈ front.head?, isBlank c = false := by
      intro c hc
      obtain ⟨d, w, rfl⟩ := List.exists_cons_of_ne_nil hwordne
      obtain ⟨front', rfl⟩ := List.head?_eq_some_iff.mp hc
      rw [← happend] at hfront
      obtain rfl : d = c := (List.cons_eq_cons.mp hfront).1
      exact isBlank_of_isWordChar (hchars d List.mem_cons_self)
    rw [htype]
    exact ⟨hink.ne_nil, trim_of_ends hfirst hink⟩

end StructForge.Sql
