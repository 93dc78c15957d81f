import StructForge.Listing
import StructForge.Proofs.Text.Lines

/-!
# What a listing leaves alone

A *paragraph* is a text without empty lines. Shortening the runs of newlines leaves it as it is, whatever stands in
front (`shortenFrom_paragraph`), and so it leaves paragraphs with an empty line between neighbours. Of a text that is
*set out* in this way and starts and ends in ink, a listing only drops the newline at the end (`cleanup_of_isSetOut`).
-/

namespace StructForge

namespace Text

/-! ## Paragraphs -/

/-- A text without empty lines. -/
def IsParagraph (t : Text) : Prop := ∀ line ∈ lines t, line ≠ []

theorem lines_ne_nil (t : Text) : lines t ≠ [] := splitWhere_ne_nil _ t

theorem newline_not_mem_of_mem_lines {t line : Text} (h : line ∈ lines t) : '\n' ∉ line := fun hmem => by
  cases not_of_mem_splitWhere h hmem

theorem isParagraph_of_line {t : Text} (hne : t ≠ []) (hline : '\n' ∉ t) : IsParagraph t := by
  rw [IsParagraph, lines_eq_singleton hline]
  exact List.forall_mem_singleton.mpr hne

namespace IsParagraph

variable {t u : Text}

theorem append (ht : IsParagraph t) (hu : IsParagraph u) : IsParagraph (t ++ u) := by
  obtain ⟨front, last, first, back, hlast, hfirst, happend⟩ := exists_splitWhere_append (· == '\n') t u
  rw [IsParagraph, lines, splitOn, hlast, List.forall_mem_append, List.forall_mem_singleton] at ht
  rw [IsParagraph, lines, splitOn, hfirst, List.forall_mem_cons] at hu
  rw [IsParagraph, lines, splitOn, happend, List.forall_mem_append, List.forall_mem_cons]
  exact ⟨ht.1, List.append_ne_nil_of_left_ne_nil ht.2 first, hu.2⟩

/-- A paragraph may go on with a text of one line, also with an empty one. -/
theorem append_line (ht : IsParagraph t) (hu : '\n' ∉ u) : IsParagraph (t ++ u) := by
  by_cases hne : u = []
  · rwa [hne, List.append_nil]
  · exact ht.append (isParagraph_of_line hne hu)

theorem line_append (ht : '\n' ∉ t) (hu : IsParagraph u) : IsParagraph (t ++ u) := by
  by_cases hne : t = []
  · rwa [hne]
  · exact (isParagraph_of_line hne ht).append hu

theorem join {pieces : List Text} (hne : pieces ≠ []) (h : ∀ piece ∈ pieces, IsParagraph piece) :
    IsParagraph (join "\n" pieces) := by
  intro line hline
  rw [lines_join hne] at hline
  obtain ⟨piece, hpiece, hline⟩ := List.mem_flatMap.mp hline
  exact h piece hpiece line hline

end IsParagraph

/-! ## Texts of paragraphs -/

/-- Joined pieces end in ink if the last one does. -/
theorem endsInk_join_concat (sep : Text) (pieces : List Text) {last : Text} (h : EndsInk last) :
    EndsInk (Text.join sep (pieces ++ [last])) := by
  by_cases hne : pieces = []
  · rw [hne]
    exact h
  · rw [join_append_of_ne_nil sep hne (List.cons_ne_nil last [])]
    exact h.append _

/-- Paragraphs with an empty line between neighbours and a newline at the end, where the first one starts in ink and the
last one ends in ink. -/
structure IsSetOut (t : Text) : Prop where
  paragraphs : ∃ ps, ps ≠ [] ∧ (∀ p ∈ ps, IsParagraph p) ∧ t = Text.join "\n\n" ps ++ ['\n']
  start : ∀ c ∈ t.head?, isBlank c = false
  ink : EndsInk t.dropLast

end Text

namespace Listing

open Text

/-! ## Runs of newlines -/

theorem shortenFrom_line {line : Text} (hne : line ≠ []) (hline : '\n' ∉ line) (run : Nat) (u : Text) :
    shortenFrom run (line ++ u) = line ++ shortenFrom 0 u := by
  induction line generalizing run with
  | nil => exact absurd rfl hne
  | cons c line ih =>
    obtain ⟨hc, hline⟩ := not_or.mp (mt List.mem_cons.mpr hline)
    rw [List.cons_append, shortenFrom, if_neg (Ne.symm hc), List.cons_append]
    cases line with
    | nil => rfl
    | cons d line => rw [ih (List.cons_ne_nil d line) hline]

/-- Behind a text that leaves no newline behind it, a separator of at most two newlines stays, and so do all of them. -/
theorem shortenFrom_join {sep : Text} (hsep : sep = "\n" ∨ sep = "\n\n") {pieces : List Text} (hne : pieces ≠ [])
    (hpieces : ∀ piece ∈ pieces, ∀ run u, shortenFrom run (piece ++ u) = piece ++ shortenFrom 0 u) (run : Nat)
    (u : Text) : shortenFrom run (join sep pieces ++ u) = join sep pieces ++ shortenFrom 0 u := by
  induction pieces generalizing run with
  | nil => exact absurd rfl hne
  | cons piece rest ih =>
    rw [List.forall_mem_cons] at hpieces
    cases rest with
    | nil => exact hpieces.1 run u
    | cons next rest =>
      have hrest := ih (List.cons_ne_nil next rest) hpieces.2
      rw [join_cons_of_ne_nil sep piece (List.cons_ne_nil next rest)]
      simp only [List.append_assoc]
      rw [hpieces.1]
      rcases hsep with rfl | rfl
      · have hone : ∀ t, shortenFrom 0 ("\n" ++ t) = "\n" ++ shortenFrom 1 t := fun _ => rfl
        rw [hone, hrest]
      · have htwo : ∀ t, shortenFrom 0 ("\n\n" ++ t) = "\n\n" ++ shortenFrom 2 t := fun _ => rfl
        rw [htwo, hrest]

/-- A paragraph is left as it is. -/
theorem shortenFrom_paragraph {t : Text} (h : IsParagraph t) (run : Nat) (u : Text) :
    shortenFrom run (t ++ u) = t ++ shortenFrom 0 u := by
  have hjoin := shortenFrom_join (.inl rfl) (lines_ne_nil t)
    (fun line hline => shortenFrom_line (h line hline) (newline_not_mem_of_mem_lines hline)) run u
  rwa [show join "\n" (lines t) = t from join_splitOn '\n' t] at hjoin

/-! ## Listings -/

/-- A listing of a text that is set out only drops the newline at the end. -/
theorem cleanup_of_isSetOut {t : Text} (h : IsSetOut t) : cleanup t ++ "\n" = t := by
  obtain ⟨⟨ps, hne, hps, rfl⟩, hstart, hink⟩ := h
  have hshort := shortenFrom_join (.inr rfl) hne (fun p hp => shortenFrom_paragraph (hps p hp)) 0 ['\n']
  generalize join "\n\n" ps = body at hstart hink hshort
  rw [List.dropLast_concat] at hink
  obtain ⟨c, t, rfl⟩ := List.exists_cons_of_ne_nil hink.ne_nil
  obtain ⟨v, d, hv, hd⟩ := hink
  have hc : isBlank c = false := hstart c rfl
  have htrim : trim (c :: t ++ ['\n']) = c :: t := by
    rw [trim, List.cons_append, List.dropWhile_cons_of_neg (by simp [hc]), ← List.cons_append, hv, List.append_assoc,
      List.singleton_append, dropEndWhile_stop hd]
    rfl
  rw [cleanup, hshort]
  exact congrArg (· ++ ("\n" : Text)) htrim

end Listing

end StructForge
