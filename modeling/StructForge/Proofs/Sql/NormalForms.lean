import Mathlib.Data.List.Chain
import StructForge.Proofs.Sql.ContinuedLines
import StructForge.Proofs.Sql.TypeTable
import StructForge.Proofs.Text.UpperCase

/-!
# Normal forms of types

In normal form, a type is in upper case, and its blanks are single spaces (`IsNormal`). A part of a text in normal form
is so, too, and is left alone but for the blanks at its ends (`IsNormal.normalType_eq`): when a part of a type is brought
into normal form again, it is trimmed.

The blanks at the end of a type may be trimmed before or after the rest (`trim_normalFront`), so that what a type is
in front of a suffix is what it is without the suffix.
-/

namespace StructForge.Sql

open Text

/-! ## Single spaces -/

theorem collapseBlanks_cons_of_ink {c : Char} (hc : isBlank c = false) (t : Text) :
    collapseBlanks (c :: t) = c :: collapseBlanks t := by
  rw [collapseBlanks.eq_def]
  simp only [hc, Bool.false_eq_true, if_false]

/-- The blanks that are left are spaces. -/
theorem eq_space_of_mem_collapseBlanks {c : Char} (hc : isBlank c = true) :
    ∀ {t : Text}, c ∈ collapseBlanks t → c = ' '
  | [], h => by cases h
  | [d], h => by
    by_cases hd : isBlank d = true
    · simpa [collapseBlanks, hd] using h
    · obtain rfl : c = d := by simpa [collapseBlanks, hd] using h
      exact absurd hc hd
  | d :: e :: t, h => by
    rw [collapseBlanks_cons_cons] at h
    rcases List.mem_append.mp h with h | h
    · split at h
      · split at h
        · cases h
        · exact List.mem_singleton.mp h
      · rename_i hd
        exact absurd (List.mem_singleton.mp h ▸ hc) hd
    · exact eq_space_of_mem_collapseBlanks hc h

/-- No two of them stand together. -/
theorem isChain_collapseBlanks :
    ∀ t : Text, (collapseBlanks t).IsChain fun c d => isBlank c = true → isBlank d = false
  | [] => .nil
  | [c] => by
    by_cases hc : isBlank c = true <;> simp [collapseBlanks, hc]
  | d :: e :: t => by
    have ih := isChain_collapseBlanks (e :: t)
    rw [collapseBlanks_cons_cons]
    by_cases hd : isBlank d = true
    · by_cases he : isBlank e = true
      · simpa only [hd, he, if_true, List.nil_append] using ih
      · have hink : isBlank e = false := Bool.eq_false_iff.mpr he
        rw [collapseBlanks_cons_of_ink hink] at ih ⊢
        simp only [hd, he, if_true, if_false, Bool.false_eq_true]
        exact .cons_cons (fun _ => hink) ih
    · simp only [hd, if_false, Bool.false_eq_true, List.singleton_append]
      exact List.isChain_cons.mpr ⟨fun _ _ h => absurd h hd, ih⟩

/-! ## Normal forms -/

/-- A text in upper case, with single spaces for blanks. -/
structure IsNormal (t : Text) : Prop where
  upper : ∀ c ∈ t, upperChar c = [c]
  space : ∀ c ∈ t, isBlank c = true → c = ' '
  single : t.IsChain fun c d => isBlank c = true → isBlank d = false

/-- In upper case, and with its blanks collapsed, a text is in normal form. -/
theorem isNormal_collapseBlanks_upper (t : Text) : IsNormal (collapseBlanks (upper t)) where
  upper := by
    intro c hc
    rcases mem_collapseBlanks hc with hc | rfl
    · exact upperChar_of_mem_upper hc
    · decide
  space := fun _ hc hblank => eq_space_of_mem_collapseBlanks hblank hc
  single := isChain_collapseBlanks _

theorem isNormal_normalType (type : Text) : IsNormal (normalType type) := isNormal_collapseBlanks_upper _

namespace IsNormal

/-- A part of a text in normal form is in normal form. -/
theorem part {t u : Text} (h : IsNormal t) (hu : u <:+: t) : IsNormal u where
  upper := fun c hc => h.upper c (hu.mem hc)
  space := fun c hc => h.space c (hu.mem hc)
  single := by
    obtain ⟨front, back, rfl⟩ := hu
    exact h.single.left_of_append.right_of_append

/-- There is nothing to collapse in it. -/
theorem collapseBlanks_eq : ∀ {t : Text}, IsNormal t → collapseBlanks t = t
  | [], _ => rfl
  | [c], h => by
    by_cases hc : isBlank c = true
    · rw [h.space c List.mem_cons_self hc]
      rfl
    · rw [collapseBlanks_cons_of_ink (Bool.eq_false_iff.mpr hc)]
      rfl
  | c :: d :: t, h => by
    have hrest : IsNormal (d :: t) := h.part (List.suffix_cons c _).isInfix
    rw [collapseBlanks_cons_cons, hrest.collapseBlanks_eq]
    by_cases hc : isBlank c = true
    · have hd : isBlank d = false := (List.isChain_cons_cons.mp h.single).1 hc
      obtain rfl := h.space c List.mem_cons_self hc
      simp only [hc, hd, if_true, Bool.false_eq_true, if_false, List.singleton_append]
    · simp only [hc, Bool.false_eq_true, if_false, List.singleton_append]

/-- In normal form, a text is only trimmed. -/
theorem normalType_eq {t : Text} (h : IsNormal t) : normalType t = trim t := by
  have htrim := h.part (isInfix_trim t)
  rw [normalType, upper_eq_self htrim.upper, htrim.collapseBlanks_eq]

end IsNormal

/-! ## Trimming before and after -/

/-- A type in normal form but for the blanks at its end. -/
def normalFront (type : Text) : Text := collapseBlanks (upper (type.dropWhile isBlank))

theorem isNormal_normalFront (type : Text) : IsNormal (normalFront type) := isNormal_collapseBlanks_upper _

theorem upper_append (t u : Text) : upper (t ++ u) = upper t ++ upper u := List.flatMap_append

/-- Upper case keeps the ink at the end of a text. -/
theorem endsInk_upper {t : Text} (h : EndsInk t) : EndsInk (upper t) := by
  obtain ⟨v, c, rfl, hc⟩ := h
  have hlast : EndsInk (upper [c]) := by
    rw [upper, List.flatMap_singleton]
    exact endsInk_of_forall (upperChar_ne_nil c) fun x hx => (isBlank_of_mem_upperChar hx).trans hc
  rw [upper_append]
  exact hlast.append _

theorem collapseBlanks_append_of_endsInk {t : Text} (h : EndsInk t) (u : Text) :
    collapseBlanks (t ++ u) = collapseBlanks t ++ collapseBlanks u := by
  obtain ⟨v, c, rfl, hc⟩ := h
  have hone := collapseBlanks_append hc [] v
  rw [List.append_assoc, List.singleton_append, collapseBlanks_append hc, hone, collapseBlanks_cons_of_ink hc,
    collapseBlanks_cons_of_ink hc, List.append_assoc]
  rfl

theorem endsInk_collapseBlanks {t : Text} (h : EndsInk t) : EndsInk (collapseBlanks t) := by
  obtain ⟨v, c, rfl, hc⟩ := h
  rw [collapseBlanks_append hc, collapseBlanks_cons_of_ink hc]
  exact ⟨collapseBlanks v, c, rfl, hc⟩

/-- The normal form of a type starts and ends in ink. -/
theorem normalType_cases (type : Text) :
    normalType type = [] ∨ ∃ c u, normalType type = c :: u ∧ isBlank c = false ∧ EndsInk (c :: u) := by
  rcases trim_cases type with hnil | ⟨c, u, htrim, hc, hends⟩
  · left
    rw [normalType, hnil]
    rfl
  · right
    have hlast := endsInk_collapseBlanks (endsInk_upper hends)
    obtain ⟨d, v, hd⟩ := List.exists_cons_of_ne_nil (upperChar_ne_nil c)
    have hink : isBlank d = false := (isBlank_of_mem_upperChar (hd ▸ List.mem_cons_self)).trans hc
    have hupper : upper (c :: u) = d :: (v ++ upper u) := by
      rw [upper, List.flatMap_cons, hd]
      rfl
    rw [normalType, htrim]
    rw [hupper, collapseBlanks_cons_of_ink hink] at hlast ⊢
    exact ⟨d, _, rfl, hink, hlast⟩

/-- Blanks at the end of a type are spaces behind its normal form. -/
theorem exists_normalFront_eq (type : Text) : ∃ b, normalFront type = normalType type ++ b ∧ ∀ c ∈ b, c = ' ' := by
  rw [normalFront]
  rcases trim_cases type with hnil | ⟨c, u, htrim, -, hends⟩
  · rw [normalType, hnil, dropWhile_eq_nil_of_trim hnil]
    exact ⟨[], rfl, fun c hc => absurd hc List.not_mem_nil⟩
  · obtain ⟨b, hb, hblanks⟩ := trim_append_of_blanks type
    have hupper : upper b = b := upper_eq_self fun c hc => upperChar_of_isBlank (hblanks c hc)
    rw [hb, upper_append, htrim, collapseBlanks_append_of_endsInk (endsInk_upper hends), normalType, htrim, hupper]
    refine ⟨collapseBlanks b, rfl, fun c hc => ?_⟩
    rcases mem_collapseBlanks hc with hmem | rfl
    · exact eq_space_of_mem_collapseBlanks (hblanks c hmem) hc
    · rfl

/-- They may be trimmed at the end. -/
theorem trim_normalFront (type : Text) : trim (normalFront type) = normalType type := by
  obtain ⟨b, hb, hspaces⟩ := exists_normalFront_eq type
  have hblanks : ∀ c ∈ b, isBlank c = true := by
    intro c hc
    rw [hspaces c hc]
    rfl
  rw [hb]
  rcases normalType_cases type with hnil | ⟨c, u, hnormal, hc, hends⟩
  · have htrim := trim_append_blanks hblanks []
    rw [List.append_nil] at htrim
    rw [hnil, List.nil_append, htrim]
    rfl
  · rw [hnormal]
    exact trim_append_of_ends hc hends hblanks

theorem trim_normalType (type : Text) : trim (normalType type) = normalType type := by
  rw [← trim_normalFront, trim_trim]

end StructForge.Sql
