import Mathlib.Data.List.TakeWhile
import StructForge.Proofs.Text.Readers
import StructForge.Text.ControlSequence
import StructForge.Text.Utf8

/-!
# What is written of a text

A text is printed without its control sequences. Exactly those texts are printed as they are in which there is none
(`withoutControlSequences_eq_self_iff`): where one is left out the text gets shorter, and nothing is put in its place.
What is printed or saved is written as UTF-8, which is another one for another text (`encode_injective`): the first byte
of a form says how many bytes it has, and from them the code point can be read.
-/

namespace StructForge.Text

/-! ## Control sequences -/

namespace SequenceForm

/-- A sequence of a form, from its escape character to the letter at its end. -/
def IsSequence (form : SequenceForm) (t : Text) : Prop :=
  ∃ parameters final, (∀ c ∈ parameters, form.isParameter c = true) ∧ form.isFinal final = true ∧
    t = escapeChar :: '[' :: (parameters ++ [final])

/-- Somewhere in the text is a sequence of the form. -/
def Occurs (form : SequenceForm) (t : Text) : Prop := ∃ sequence, form.IsSequence sequence ∧ sequence <:+: t

variable {form : SequenceForm}

theorem not_occurs_nil : ¬form.Occurs [] := by
  rintro ⟨_, ⟨parameters, final, _, _, rfl⟩, hinfix⟩
  cases List.infix_nil.mp hinfix

/-- A sequence is at the start of a text or behind its first character. -/
theorem occurs_cons_iff {c : Char} {t : Text} :
    form.Occurs (c :: t) ↔ (∃ sequence, form.IsSequence sequence ∧ sequence <+: c :: t) ∨ form.Occurs t := by
  simp only [Occurs, List.infix_cons_iff, and_or_left, exists_or]

/-- A sequence that starts a text is found where no letter at the end of one is taken for a parameter. -/
theorem isSome_length?_iff (hform : ∀ c, form.isFinal c = true → form.isParameter c = false) {t : Text} :
    (form.length? t).isSome ↔ ∃ sequence, form.IsSequence sequence ∧ sequence <+: escapeChar :: t := by
  constructor
  · intro h
    unfold length? at h
    split at h
    · rename_i t
      split at h
      · rename_i final rest hrest
        split at h
        · rename_i hfinal
          refine ⟨_, ⟨t.takeWhile form.isParameter, final, fun c => List.mem_takeWhile_imp, hfinal, rfl⟩, rest, ?_⟩
          simp [← hrest]
        · cases h
      · cases h
    · cases h
  · rintro ⟨_, ⟨parameters, final, hparameters, hfinal, rfl⟩, rest, ht⟩
    obtain rfl : t = '[' :: (parameters ++ final :: rest) := by simpa using ht.symm
    have hrest : (parameters ++ final :: rest).dropWhile form.isParameter = final :: rest := by
      rw [List.dropWhile_append_of_pos hparameters, List.dropWhile_cons_of_neg (by simp [hform final hfinal])]
    simp [length?, hrest, hfinal]

theorem length_dropFrom_le (skip : Nat) (t : Text) : (form.dropFrom skip t).length ≤ t.length := by
  induction t generalizing skip with
  | nil => simp [dropFrom]
  | cons c t ih =>
    cases skip with
    | succ skip => exact Nat.le_succ_of_le (ih skip)
    | zero =>
      rw [dropFrom]
      split
      · exact Nat.le_succ_of_le (ih _)
      · exact Nat.succ_le_succ (ih 0)

end SequenceForm

open SequenceForm

/-- Left as they are by a form are the texts in which it does not occur. -/
theorem without_eq_self_iff {form : SequenceForm} (hform : ∀ c, form.isFinal c = true → form.isParameter c = false)
    (t : Text) : without form t = t ↔ ¬form.Occurs t := by
  unfold without
  induction t with
  | nil => exact iff_of_true rfl not_occurs_nil
  | cons c t ih =>
    have hstart : (if c = escapeChar then form.length? t else none).isSome ↔
        ∃ sequence, form.IsSequence sequence ∧ sequence <+: c :: t := by
      by_cases hc : c = escapeChar
      · rw [if_pos hc, hc, isSome_length?_iff hform]
      · rw [if_neg hc]
        refine iff_of_false Bool.false_ne_true ?_
        rintro ⟨_, ⟨parameters, final, _, _, rfl⟩, hprefix⟩
        exact hc (List.cons_prefix_cons.mp hprefix).1.symm
    rw [dropFrom, occurs_cons_iff, ← hstart]
    cases (if c = escapeChar then form.length? t else none) with
    | some length =>
      refine iff_of_false (fun h => ?_) (not_not_intro (.inl rfl))
      have hshort : (c :: t).length ≤ t.length := h ▸ length_dropFrom_le length t
      exact Nat.not_succ_le_self t.length hshort
    | none => simp [ih]

theorem toNat_lt_of_isAlpha {c : Char} (h : c.isAlpha = true) : c.toNat < 0x80 := by
  have hcase : (c.isUpper || c.isLower) = true := h
  rcases Bool.or_eq_true_iff.mp hcase with hupper | hlower
  · have hlast : c.val ≤ 'Z'.val := (of_decide_eq_true hupper).2
    exact Nat.lt_of_le_of_lt (UInt32.le_iff_toNat_le.mp hlast) (by decide)
  · have hlast : c.val ≤ 'z'.val := of_decide_eq_true (Bool.and_eq_true_iff.mp hlower).2
    exact Nat.lt_of_le_of_lt (UInt32.le_iff_toNat_le.mp hlast) (by decide)

/-- A text with something in it that a terminal takes for a command. -/
def HasControlSequence (t : Text) : Prop := SequenceForm.any.Occurs t

/-- **Exactly the texts without control sequences are printed as they are.** -/
theorem withoutControlSequences_eq_self_iff (t : Text) : withoutControlSequences t = t ↔ ¬HasControlSequence t := by
  refine without_eq_self_iff (fun c hletter => ?_) t
  exact of_ascii (P := fun c => SequenceForm.any.isFinal c = true → SequenceForm.any.isParameter c = false)
    (by decide +kernel) (toNat_lt_of_isAlpha hletter) hletter

/-! ## Bytes -/

namespace Utf8

/-- The first byte of a form says how many bytes it has, so that what follows a character is not part of its form. -/
theorem encodeChar_append_inj {c d : Char} {front back : Bytes} (h : encodeChar c ++ front = encodeChar d ++ back) :
    c = d ∧ front = back := by
  have hcode : c.toNat = d.toNat := by
    have hbytes := h
    simp only [encodeChar] at hbytes
    split_ifs at hbytes
    all_goals
      simp only [List.cons_append, List.nil_append, List.cons.injEq] at hbytes
      omega
  obtain rfl := Char.toNat_inj.mp hcode
  exact ⟨rfl, List.append_cancel_left h⟩

theorem encodeChar_ne_nil (c : Char) : encodeChar c ≠ [] := by
  simp only [encodeChar]
  split_ifs <;> exact List.cons_ne_nil _ _

/-- Texts with the same bytes are the same. -/
theorem encode_injective : Function.Injective encode := by
  intro t u h
  induction t generalizing u with
  | nil =>
    cases u with
    | nil => rfl
    | cons d u => exact absurd (List.append_eq_nil_iff.mp h.symm).1 (encodeChar_ne_nil d)
  | cons c t ih =>
    cases u with
    | nil => exact absurd (List.append_eq_nil_iff.mp h).1 (encodeChar_ne_nil c)
    | cons d u =>
      obtain ⟨rfl, hrest⟩ := encodeChar_append_inj h
      rw [ih hrest]

end Utf8

end StructForge.Text
