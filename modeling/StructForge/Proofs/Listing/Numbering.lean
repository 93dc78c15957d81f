import Mathlib.Data.Nat.Digits.Lemmas
import StructForge.Proofs.Listing

/-!
# Numbered lines

The lines of a listing with numbers are those of the code, each behind a number of its own and a bar. The numbers are as
wide as the number of lines, and no number in front of a line has more digits than that (`length_ofNat_le`), so that all
fronts have one length (`exists_front`). A front has no newline either, and the listing falls into its lines again
(`lines_lineNumbers`). Without the fronts these are the lines of the code, whatever they look like
(`lineNumbers_reversible`).
-/

namespace StructForge

namespace Text

/-! ## Numbers in figures -/

/-- A smaller number has no more figures. -/
theorem length_ofNat_le {m n : Nat} (h : m ≤ n) : (ofNat m).length ≤ (ofNat n).length := by
  have hpos : 0 < (ofNat n).length := Nat.length_toDigits_pos
  have hn : n < 10 ^ (ofNat n).length := (Nat.length_toDigits_le_iff (by omega) hpos).mp (Nat.le_refl _)
  exact (Nat.length_toDigits_le_iff (by omega) hpos).mpr (by omega)

/-- A number is written with as many figures as it has digits. -/
theorem length_ofNat {n : Nat} (h : 0 < n) : (ofNat n).length = (Nat.digits 10 n).length := by
  have hiff : ∀ k, 0 < k → ((ofNat n).length ≤ k ↔ (Nat.digits 10 n).length ≤ k) := by
    intro k hk
    rw [ofNat, Nat.length_toDigits_le_iff (by omega) hk, Nat.digits_length_le_iff (by omega)]
  have hwritten : 0 < (ofNat n).length := Nat.length_toDigits_pos
  have hdigits : 0 < (Nat.digits 10 n).length := by
    rw [List.length_pos_iff, Nat.digits_ne_nil_iff_ne_zero]
    omega
  have hle := (hiff _ hdigits).mpr (Nat.le_refl _)
  have hge := (hiff _ hwritten).mp (Nat.le_refl _)
  omega

/-- The number that a text stands for: some figures, perhaps with blanks around them. -/
def number? (t : Text) : Option Nat :=
  let figures := trim t
  if figures ≠ [] ∧ figures.all Char.isDigit = true then some (decimalValue figures) else none

theorem length_padLeft {width : Nat} {t : Text} (h : t.length ≤ width) (fill : Char) :
    (padLeft width fill t).length = width := by
  simp [padLeft]
  omega

/-- Spaces in front of a number do not change it. -/
theorem number?_padLeft (width n : Nat) : number? (padLeft width ' ' (ofNat n)) = some n := by
  have hspaces : ∀ c ∈ List.replicate (width - (ofNat n).length) ' ', isBlank c = true := by
    intro c hc
    rw [List.eq_of_mem_replicate hc]
    rfl
  have hink : ∀ c ∈ ofNat n, isBlank c = false := by
    intro c hc
    have hdigit := isDigit_of_mem_ofNat hc
    cases hblank : isBlank c with
    | false => rfl
    | true => simp [isDigit_of_isBlank hblank] at hdigit
  have htrim : trim (padLeft width ' ' (ofNat n)) = ofNat n := by
    rw [padLeft, trim_append_blanks hspaces, trim_of_forall hink]
  have hne : ofNat n ≠ [] := Nat.toDigits_ne_nil
  have hdigits : (ofNat n).all Char.isDigit = true := List.all_eq_true.mpr fun c hc => isDigit_of_mem_ofNat hc
  rw [number?, htrim, if_pos ⟨hne, hdigits⟩, decimalValue_ofNat]

end Text

namespace Listing

open Text

/-! ## Numbered lines -/

/-- A number in front of a line is as wide as asked for, and can be read. -/
theorem exists_front {width number : Nat} (h : (ofNat number).length ≤ width) (line : Text) :
    ∃ figures : Text, numbered width number line = figures ++ " | " ++ line ∧ figures.length = width ∧
      number? figures = some number :=
  ⟨padLeft width ' ' (ofNat number), rfl, length_padLeft h ' ', number?_padLeft width number⟩

theorem newline_not_mem_numbered (width number : Nat) {line : Text} (h : '\n' ∉ line) :
    '\n' ∉ numbered width number line := by
  have hdigits : '\n' ∉ ofNat number := fun hmem => by simpa using isDigit_of_mem_ofNat hmem
  simp [numbered, padLeft, hdigits, h]

/-- A listing with numbers has the lines of the code, numbered. -/
theorem lines_lineNumbers (t : Text) : lines (lineNumbers t) =
    (lines t).zipIdx.map fun (line, i) => numbered (ofNat (lines t).length).length (i + 1) line := by
  refine splitOn_join (by simp [lines_ne_nil]) ?_
  intro shown hshown
  obtain ⟨⟨line, i⟩, hline, rfl⟩ := List.mem_map.mp hshown
  exact newline_not_mem_numbered _ _ (newline_not_mem_of_mem_lines (List.fst_mem_of_mem_zipIdx hline))

/-- **Numbering can be undone.** A listing has as many lines as the code. In front of each of them are its number, read
as a number, and a bar, together as long as the digits of the number of lines and three more; and what is behind is
the code. -/
theorem lineNumbers_reversible (t : Text) :
    (lines (lineNumbers t)).length = (lines t).length ∧
      (∀ k line, (lines t)[k]? = some line → ∃ front figures : Text,
        (lines (lineNumbers t))[k]? = some (front ++ line) ∧
          front.length = (Nat.digits 10 (lines t).length).length + 3 ∧
          front = figures ++ " | " ∧ number? figures = some (k + 1)) ∧
      join "\n" ((lines (lineNumbers t)).map (·.drop ((Nat.digits 10 (lines t).length).length + 3))) = t := by
  have hpos : 0 < (lines t).length := List.length_pos_iff.mpr (lines_ne_nil t)
  rw [← length_ofNat hpos, lines_lineNumbers]
  refine ⟨by simp, ?_, ?_⟩
  · intro k line hline
    obtain ⟨hk, -⟩ := List.getElem?_eq_some_iff.mp hline
    obtain ⟨figures, hshown, hwidth, hnumber⟩ := exists_front (length_ofNat_le (Nat.succ_le_of_lt hk)) line
    exact ⟨figures ++ " | ", figures, by simp [hline, hshown], by simp [hwidth], rfl, hnumber⟩
  · have hdrop : ∀ x ∈ (lines t).zipIdx,
        (numbered (ofNat (lines t).length).length (x.2 + 1) x.1).drop ((ofNat (lines t).length).length + 3) = x.1 := by
      intro x hx
      have hk : x.2 + 1 ≤ (lines t).length := List.snd_lt_of_mem_zipIdx hx
      obtain ⟨figures, hshown, hwidth, -⟩ := exists_front (length_ofNat_le hk) x.1
      rw [hshown]
      exact List.drop_left' (by simp [hwidth])
    calc join "\n" _ = join "\n" ((lines t).zipIdx.map Prod.fst) := by
          rw [List.map_map]
          exact congrArg (join "\n") (List.map_congr_left hdrop)
      _ = join "\n" (lines t) := by rw [List.zipIdx_map_fst]
      _ = t := join_splitOn '\n' t

/-- Code of ten lines, of which one is empty and one looks numbered. -/
def menuCode : Text := "type Menu struct \x7b\n\n 3 | x\n    A int\n    B int\n    C int\n    D int\n    E int\n\x7d\n"

/-- The line that looks numbered gets a number like the others, of two places. -/
theorem lineNumbers_reversible_menuCode :
    (lines menuCode)[2]? = some " 3 | x".toList ∧
      (∃ front figures : Text, (lines (lineNumbers menuCode))[2]? = some (front ++ " 3 | x") ∧ front.length = 5 ∧
        front = figures ++ " | " ∧ number? figures = some 3) ∧
      join "\n" ((lines (lineNumbers menuCode)).map (·.drop 5)) = menuCode := by
  have hline : (lines menuCode)[2]? = some " 3 | x".toList := by decide
  have hdigits : (Nat.digits 10 (lines menuCode).length).length = 2 := by
    have hlength : (lines menuCode).length = 10 := by decide
    simp [hlength]
  obtain ⟨-, hlines, hback⟩ := lineNumbers_reversible menuCode
  rw [hdigits] at hback
  obtain ⟨front, figures, hshown, hlength, hfront⟩ := hlines 2 _ hline
  exact ⟨hline, ⟨front, figures, hshown, by rw [hlength, hdigits], hfront⟩, hback⟩

end Listing

end StructForge
