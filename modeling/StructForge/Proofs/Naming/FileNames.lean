import Mathlib.Data.List.TakeWhile
import StructForge.Proofs.Naming
import StructForge.Proofs.Text.Readers

/-!
# Names of files

The name of the file for a struct has the characters of the struct's name in lower case, with underscores added between
words and left out at the ends. Lower case makes no underscores and no slashes (`mem_lower_iff`), so that the name is
empty exactly for a struct of underscores (`snake_eq_nil_iff`), and has slashes only where the struct has some
(`slash_mem_snake`).
-/

namespace StructForge

namespace Text

/-! ## Lower case -/

/-- A character that lower case leaves alone, and that comes in front of the small letters. -/
def IsMark (d : Char) : Prop := d.toNat < 0x61 ∧ CaseRun.image? lowerRuns d.toNat = none

theorem isMark_underscore : IsMark '_' := ⟨by decide, by decide⟩

theorem isMark_slash : IsMark '/' := ⟨by decide, by decide⟩

/-- The lower case of a character: the character itself, or something behind all marks. -/
theorem lowerChar_cases (before : Text) (c : Char) (after : Text) :
    lowerChar before c after = [c] ∨
      ¬IsMark c ∧ lowerChar before c after ≠ [] ∧ ∀ x ∈ lowerChar before c after, 0x61 ≤ x.toNat := by
  have hruns : ∀ r ∈ lowerRuns, 0x61 ≤ r.image ∧
      (r.image + (r.last - r.first) < 0xD800 ∨ 0xDFFF < r.image ∧ r.image + (r.last - r.first) < 0x110000) := by
    decide +kernel
  by_cases hsigma : c = 'Σ'
  · have himage : lowerChar before c after = ['ς'] ∨ lowerChar before c after = ['σ'] := by
      rw [lowerChar, if_pos hsigma]
      split
      · exact .inl rfl
      · exact .inr rfl
    refine .inr ⟨fun hmark => absurd hmark.1 (by rw [hsigma]; decide), ?_⟩
    rcases himage with himage | himage <;> rw [himage] <;> exact ⟨List.cons_ne_nil _ _, by decide⟩
  · by_cases hdotted : c = 'İ'
    · rw [lowerChar, if_neg hsigma, if_pos hdotted]
      exact .inr ⟨fun hmark => absurd hmark.1 (by rw [hdotted]; decide), List.cons_ne_nil _ _, by decide⟩
    · rw [lowerChar, if_neg hsigma, if_neg hdotted]
      cases hn : CaseRun.image? lowerRuns c.toNat with
      | none => exact .inl rfl
      | some n =>
        refine .inr ⟨fun hmark => ?_, List.cons_ne_nil _ _, fun x hx => ?_⟩
        · rw [hmark.2] at hn
          cases hn
        · obtain ⟨r, hr, hfirst, hlast, -, rfl⟩ := CaseRun.exists_of_image? hn
          obtain ⟨hlow, hvalid⟩ := hruns r hr
          rw [List.mem_singleton.mp hx, toNat_ofNat]
          · omega
          · rcases hvalid with hvalid | hvalid
            · exact .inl (by omega)
            · exact .inr (by omega)

theorem lowerChar_ne_nil (before : Text) (c : Char) (after : Text) : lowerChar before c after ≠ [] := by
  rcases lowerChar_cases before c after with hself | ⟨-, hne, -⟩
  · rw [hself]
    exact List.cons_ne_nil _ _
  · exact hne

/-- Only a mark becomes a mark, and it becomes itself. -/
theorem mem_lowerChar_iff {d : Char} (hd : IsMark d) (before : Text) (c : Char) (after : Text) :
    d ∈ lowerChar before c after ↔ d = c := by
  rcases lowerChar_cases before c after with hself | ⟨hmark, -, himages⟩
  · rw [hself, List.mem_singleton]
  · constructor
    · exact fun hmem => absurd hd.1 (Nat.not_lt.mpr (himages d hmem))
    · rintro rfl
      exact absurd hd hmark

/-- The lower case of a text is that of its characters. -/
theorem exists_of_mem_lowerFrom {x : Char} : ∀ {before t : Text}, x ∈ lowerFrom before t →
    ∃ c ∈ t, ∃ front back, x ∈ lowerChar front c back
  | before, c :: t, h => by
    rw [lowerFrom, List.mem_append] at h
    rcases h with h | h
    · exact ⟨c, List.mem_cons_self, before, t, h⟩
    · obtain ⟨d, hd, hx⟩ := exists_of_mem_lowerFrom h
      exact ⟨d, List.mem_cons_of_mem c hd, hx⟩

theorem exists_lowerChar_subset {c : Char} : ∀ (before : Text) {t : Text}, c ∈ t →
    ∃ front back, lowerChar front c back ⊆ lowerFrom before t
  | before, d :: t, h => by
    rw [lowerFrom]
    rcases List.mem_cons.mp h with rfl | h
    · exact ⟨before, t, List.subset_append_left _ _⟩
    · obtain ⟨front, back, hsubset⟩ := exists_lowerChar_subset (d :: before) h
      exact ⟨front, back, List.Subset.trans hsubset (List.subset_append_right _ _)⟩

/-- Lower case makes no marks, and leaves them. -/
theorem mem_lower_iff {d : Char} (hd : IsMark d) (t : Text) : d ∈ lower t ↔ d ∈ t := by
  constructor
  · intro h
    obtain ⟨c, hc, front, back, hmem⟩ := exists_of_mem_lowerFrom h
    rwa [(mem_lowerChar_iff hd front c back).mp hmem]
  · intro h
    obtain ⟨front, back, hsubset⟩ := exists_lowerChar_subset [] h
    exact hsubset ((mem_lowerChar_iff hd front d back).mpr rfl)

/-- Of nothing but a mark is what was of nothing but it. -/
theorem forall_mem_lower_iff {d : Char} (hd : IsMark d) (t : Text) : (∀ x ∈ lower t, x = d) ↔ ∀ c ∈ t, c = d := by
  constructor
  · intro h c hc
    obtain ⟨front, back, hsubset⟩ := exists_lowerChar_subset [] hc
    obtain ⟨x, hx⟩ := List.exists_mem_of_ne_nil _ (lowerChar_ne_nil front c back)
    rw [h x (hsubset hx)] at hx
    exact ((mem_lowerChar_iff hd front c back).mp hx).symm
  · intro h x hx
    obtain ⟨c, hc, front, back, hmem⟩ := exists_of_mem_lowerFrom hx
    rcases lowerChar_cases front c back with hself | ⟨hmark, -, -⟩
    · rw [hself, List.mem_singleton] at hmem
      rw [hmem, h c hc]
    · exact absurd (h c hc ▸ hd) hmark

/-! ## Trimming -/

theorem trimWhere_subset (p : Char → Bool) (t : Text) : trimWhere p t ⊆ t := by
  obtain ⟨b, hb, -⟩ := dropEndWhile_append p (t.dropWhile p)
  intro c hc
  exact (List.dropWhile_sublist p).subset (hb ▸ List.mem_append_left b hc)

theorem trimWhere_eq_nil_iff {p : Char → Bool} {t : Text} : trimWhere p t = [] ↔ ∀ c ∈ t, p c = true := by
  constructor
  · intro h
    obtain ⟨b, hb, hall⟩ := dropEndWhile_append p (t.dropWhile p)
    rw [trimWhere] at h
    rw [h, List.nil_append] at hb
    rw [← List.dropWhile_eq_nil_iff]
    have hhead := List.head?_dropWhile_not p t
    cases hrest : t.dropWhile p with
    | nil => rfl
    | cons c u =>
      rw [hrest] at hhead hb
      exact absurd (hhead.symm.trans (hall c (hb ▸ List.mem_cons_self))) Bool.false_ne_true
  · intro h
    rw [trimWhere, List.dropWhile_eq_nil_iff.mpr h]
    rfl

end Text

namespace Naming

open Text

/-! ## Underscores between words -/

/-- The characters of a text other than underscores. -/
def withoutUnderscores (t : Text) : Text := t.filter (· ≠ '_')

theorem withoutUnderscores_cons (c : Char) {t u : Text} (h : withoutUnderscores t = withoutUnderscores u) :
    withoutUnderscores (c :: t) = withoutUnderscores (c :: u) := by
  rw [withoutUnderscores, List.filter_cons, withoutUnderscores, List.filter_cons]
  exact congrArg (fun v => if decide (c ≠ '_') = true then c :: v else v) h

theorem withoutUnderscores_underscore (t : Text) : withoutUnderscores ('_' :: t) = withoutUnderscores t := rfl

theorem withoutUnderscores_breakAcronyms (t : Text) : withoutUnderscores (breakAcronyms t) = withoutUnderscores t := by
  fun_induction breakAcronyms t with
  | case1 a b c t h ih => exact withoutUnderscores_cons a ((withoutUnderscores_underscore _).trans ih)
  | case2 a b c t h ih => exact withoutUnderscores_cons a ih
  | case3 t h => rfl

theorem withoutUnderscores_breakWords (t : Text) : withoutUnderscores (breakWords t) = withoutUnderscores t := by
  fun_induction breakWords t with
  | case1 a b t h ih => exact withoutUnderscores_cons a ((withoutUnderscores_underscore _).trans ih)
  | case2 a b t h ih => exact withoutUnderscores_cons a ih
  | case3 t h => rfl

theorem withoutUnderscores_breaks (name : Text) :
    withoutUnderscores (breakWords (breakAcronyms name)) = withoutUnderscores name := by
  rw [withoutUnderscores_breakWords, withoutUnderscores_breakAcronyms]

theorem withoutUnderscores_eq_nil_iff {t : Text} : withoutUnderscores t = [] ↔ ∀ c ∈ t, c = '_' := by
  simp [withoutUnderscores, List.filter_eq_nil_iff]

/-! ## Names -/

/-- The name of a file is empty, but for the extension, exactly if the struct's name is made of underscores. -/
theorem snake_eq_nil_iff {name : Text} : snake name = [] ↔ ∀ c ∈ name, c = '_' := by
  calc snake name = []
    _ ↔ ∀ c ∈ lower (breakWords (breakAcronyms name)), c = '_' := by
      simp only [snake, trimWhere_eq_nil_iff, beq_iff_eq]
    _ ↔ ∀ c ∈ breakWords (breakAcronyms name), c = '_' := forall_mem_lower_iff isMark_underscore _
    _ ↔ ∀ c ∈ name, c = '_' := by
      rw [← withoutUnderscores_eq_nil_iff, withoutUnderscores_breaks, withoutUnderscores_eq_nil_iff]

/-- The slashes of the name of a file are those of the struct's name. -/
theorem slash_mem_snake {name : Text} (h : '/' ∈ snake name) : '/' ∈ name := by
  have hbreaks := (mem_lower_iff isMark_slash _).mp (trimWhere_subset _ _ h)
  have hkept : '/' ∈ withoutUnderscores (breakWords (breakAcronyms name)) :=
    List.mem_filter.mpr ⟨hbreaks, by decide⟩
  rw [withoutUnderscores_breaks] at hkept
  exact (List.mem_filter.mp hkept).1

end Naming

end StructForge
