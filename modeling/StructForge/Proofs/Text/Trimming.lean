import Mathlib.Data.List.DropRight
import StructForge.Proofs.Text.Lines

/-!
# Trimmed texts

A text is what stands between its blanks, with these around it (`eq_trim_append`). What stands between them is empty, or
it starts and ends in ink (`trim_cases`), so that trimming once is enough (`trim_trim`).
-/

namespace StructForge.Text

/-! ## What is trimmed away -/

theorem dropEndWhile_eq_rdropWhile (p : Char → Bool) : ∀ t : Text, dropEndWhile p t = t.rdropWhile p
  | [] => rfl
  | c :: t => by
    rw [dropEndWhile, dropEndWhile_eq_rdropWhile p t, List.rdropWhile, List.rdropWhile, List.reverse_cons,
      List.dropWhile_append]
    cases h : t.reverse.dropWhile p with
    | nil => by_cases hc : p c <;> simp [hc]
    | cons d u => simp

/-- The blanks behind a text. -/
def blanksBehind (t : Text) : Text := (t.dropWhile isBlank).rtakeWhile isBlank

theorem dropWhile_isBlank_eq (t : Text) : t.dropWhile isBlank = trim t ++ blanksBehind t := by
  rw [trim, dropEndWhile_eq_rdropWhile, blanksBehind, List.rdropWhile_append_rtakeWhile]

/-- A text is what stands between its blanks, with these around it. -/
theorem eq_trim_append (t : Text) : t = t.takeWhile isBlank ++ (trim t ++ blanksBehind t) := by
  rw [← dropWhile_isBlank_eq, List.takeWhile_append_dropWhile]

theorem isBlank_of_mem_blanksBehind {t : Text} {c : Char} (h : c ∈ blanksBehind t) : isBlank c = true :=
  List.mem_rtakeWhile_imp h

theorem isBlank_of_mem_takeWhile {t : Text} {c : Char} (h : c ∈ t.takeWhile isBlank) : isBlank c = true :=
  List.all_eq_true.mp List.all_takeWhile c h

/-- A text without the blanks in front, but with those at its end. -/
theorem trim_append_of_blanks (t : Text) : ∃ b, t.dropWhile isBlank = trim t ++ b ∧ ∀ c ∈ b, isBlank c = true :=
  ⟨blanksBehind t, dropWhile_isBlank_eq t, fun _ => isBlank_of_mem_blanksBehind⟩

theorem isInfix_trim (t : Text) : trim t <:+: t :=
  ⟨t.takeWhile isBlank, blanksBehind t, by rw [List.append_assoc, ← eq_trim_append]⟩

/-! ## What is left -/

theorem dropEndWhile_ne_nil {p : Char → Bool} {c : Char} (hc : p c = false) (t : Text) :
    dropEndWhile p (c :: t) ≠ [] := by
  rw [dropEndWhile]
  split
  · simp [hc]
  · exact List.cons_ne_nil _ _

/-- A text that starts with something other than a blank is not trimmed away. -/
theorem trim_ne_nil {c : Char} (hc : isBlank c = false) (t : Text) : trim (c :: t) ≠ [] := by
  rw [trim, List.dropWhile_cons_of_neg (by rw [hc]; exact Bool.false_ne_true)]
  exact dropEndWhile_ne_nil hc t

/-- What is left without the blanks at the end ends in ink. -/
theorem dropEndWhile_isBlank_cases (t : Text) : dropEndWhile isBlank t = [] ∨ EndsInk (dropEndWhile isBlank t) := by
  induction t with
  | nil => exact .inl rfl
  | cons c t ih =>
    rw [dropEndWhile]
    split
    · split
      · exact .inl rfl
      · rename_i hc
        exact .inr ⟨[], c, rfl, Bool.eq_false_iff.mpr hc⟩
    · rename_i hne
      exact .inr ((ih.resolve_left hne).append [c])

/-- What is left of a trimmed text starts and ends in ink. -/
theorem trim_cases (t : Text) : trim t = [] ∨ ∃ c u, trim t = c :: u ∧ isBlank c = false ∧ EndsInk (c :: u) := by
  have hhead := List.head?_dropWhile_not isBlank t
  rw [trim]
  cases hrest : t.dropWhile isBlank with
  | nil => exact .inl rfl
  | cons c u =>
    have hc : isBlank c = false := by rwa [hrest] at hhead
    have hstop : dropEndWhile isBlank (c :: u) = c :: dropEndWhile isBlank u := dropEndWhile_stop hc u []
    have hends := (dropEndWhile_isBlank_cases (c :: u)).resolve_left (dropEndWhile_ne_nil hc u)
    rw [hstop] at hends ⊢
    exact .inr ⟨c, _, rfl, hc, hends⟩

/-- What stands between the blanks of a text starts with none. -/
theorem head?_trim (t : Text) : ∀ c ∈ (trim t).head?, isBlank c = false := by
  intro d hd
  rcases trim_cases t with hnil | ⟨c, u, htrim, hc, -⟩
  · rw [hnil] at hd
    cases hd
  · rw [htrim] at hd
    obtain rfl : c = d := by simpa using hd
    exact hc

theorem getLast?_trim (t : Text) : ∀ c ∈ (trim t).getLast?, isBlank c = false := getLast?_dropEndWhile isBlank _

theorem dropWhile_eq_nil_of_trim {t : Text} (h : trim t = []) : t.dropWhile isBlank = [] := by
  have hhead := List.head?_dropWhile_not isBlank t
  rw [trim] at h
  cases hrest : t.dropWhile isBlank with
  | nil => rfl
  | cons c u =>
    have hc : isBlank c = false := by rwa [hrest] at hhead
    rw [hrest] at h
    exact absurd h (dropEndWhile_ne_nil hc u)

theorem trim_trim (t : Text) : trim (trim t) = trim t := trimWhere_eq_self (head?_trim t) (getLast?_trim t)

end StructForge.Text
