import Mathlib.Data.List.Infix
import StructForge.Proofs.Sql.Splitting

/-!
# Splitting undoes joining

A text may stand between commas if it is not blank, closes its parentheses and quotes, and has no comma that one of the
two cuts takes for a separator (`Joinable`). Such texts with commas between them, and with any white space behind each
comma, are split into just these texts again (`bodyLines_joinTexts`).

The blanks at the start of a text are counted as white space of the comma in front of it. What is left of the text is a
piece (`Joinable.piece`), so that the joined texts are joined pieces (`exists_joinPieces`).
-/

namespace StructForge.Sql

open Text

/-! ## Texts between commas -/

/-- A text that may stand between commas. The scan starts anew at it. -/
structure Joinable (t : Text) : Prop where
  /-- It is not blank. -/
  ink : ∃ c ∈ t, isBlank c = false
  /-- No parenthesis is closed that was not opened. -/
  depth : ∀ p, p <+: t → 0 ≤ (Scan.start.run p).depth
  /-- At its end, all parentheses and quotes are closed. -/
  closed : (Scan.start.run t).quoting = .none ∧ (Scan.start.run t).depth = 0
  /-- A comma outside quotes is within parentheses. -/
  comma : ∀ p u, t = p ++ ',' :: u → (Scan.start.run p).quoting = .none → (Scan.start.run p).depth ≠ 0
  /-- No comma has white space with a newline behind it. -/
  newline : ∀ p b u, t = p ++ ',' :: (b ++ '\n' :: u) → ¬∀ c ∈ b, isBlank c = true

namespace Joinable

variable {t : Text} (h : Joinable t)
include h

/-- Nothing separates in such a text. -/
theorem level : Level t where
  piece := by
    refine scanPieces_eq_singleton Scan.start t fun p c u ht => Bool.eq_false_iff.mpr fun hseparates => ?_
    simp only [Scan.separates, Bool.and_eq_true, decide_eq_true_eq] at hseparates
    obtain ⟨⟨hquoting, rfl⟩, hdepth⟩ := hseparates
    have hnonneg := h.depth p (ht ▸ List.prefix_append p _)
    have hne := h.comma p u ht hquoting
    omega
  closed := by
    obtain ⟨hquoting, hdepth⟩ := h.closed
    rw [Scan.start, Scan.mk.injEq]
    exact ⟨hquoting, hdepth⟩

/-- Without the blanks at its start, such a text is a piece. -/
theorem piece : Piece (t.dropWhile isBlank) := by
  have hsplit : t.takeWhile isBlank ++ t.dropWhile isBlank = t := List.takeWhile_append_dropWhile
  have hfront : ∀ c ∈ t.takeWhile isBlank, isBlank c = true := List.all_eq_true.mp List.all_takeWhile
  have hblanks := level_blanks hfront
  have hlevel := h.level
  have hchunk := splitAtLineEnds_eq_singleton t h.newline
  obtain ⟨d, hd, hink⟩ := h.ink
  cases hrest : t.dropWhile isBlank with
  | nil =>
    rw [← hsplit, hrest, List.append_nil] at hd
    rw [hfront d hd] at hink
    cases hink
  | cons c u =>
    have hc : isBlank c = false := by
      have hhead := List.head?_dropWhile_not isBlank t
      rwa [hrest] at hhead
    rw [hrest] at hsplit
    rw [← hsplit] at hlevel hchunk
    have hpiece := (scanPieces_append_iff.mp hlevel.piece).2
    have hclosed := hlevel.closed
    rw [Scan.run_append, hblanks.closed] at hclosed
    rw [hblanks.closed] at hpiece
    exact ⟨⟨hpiece, hclosed⟩, ((splitAtLineEnds_append_iff hc).mp hchunk).2, c, u, rfl, hc⟩

end Joinable

/-- Whether a text may stand between commas is seen from its prefixes and from what the two cuts make of it. -/
theorem joinable_iff {t : Text} :
    Joinable t ↔ ((∃ c ∈ t, isBlank c = false) ∧ ∀ p ∈ t.inits, 0 ≤ (Scan.start.run p).depth) ∧
      (scanPieces Scan.start t = [t] ∧ Scan.start.run t = Scan.start) ∧ splitAtLineEnds t = [t] := by
  constructor
  · intro h
    exact ⟨⟨h.ink, fun p hp => h.depth p ((List.mem_inits p t).mp hp)⟩, ⟨h.level.piece, h.level.closed⟩,
      splitAtLineEnds_eq_singleton t h.newline⟩
  · rintro ⟨⟨hink, hdepth⟩, ⟨hpiece, hclosed⟩, hchunk⟩
    refine ⟨hink, fun p hp => hdepth p ((List.mem_inits p t).mpr hp), ?_, fun p u ht hquoting hzero => ?_,
      fun p b u => not_isBlank_of_splitAtLineEnds hchunk⟩
    · rw [hclosed]
      exact ⟨rfl, rfl⟩
    · have hseparates := separates_of_scanPieces hpiece ht
      simp [Scan.separates, hquoting, hzero] at hseparates

instance (t : Text) : Decidable (Joinable t) := decidable_of_iff _ joinable_iff.symm

/-! ## Joining -/

/-- Texts with commas between them, each comma with a text of its own behind it. -/
def joinTexts : (gap : Nat → Text) → List Text → Text
  | _, [] => []
  | _, [t] => t
  | gap, t :: next :: rest => t ++ ',' :: (gap 0 ++ joinTexts (fun n => gap (n + 1)) (next :: rest))

/-- Joined texts are joined pieces, with the blanks of the first text in front. -/
theorem exists_joinPieces {first : Text} {rest : List Text} (h : ∀ t ∈ first :: rest, Joinable t) {gap : Nat → Text}
    (hgap : ∀ n, ∀ c ∈ gap n, isBlank c = true) :
    ∃ pieces : List (Text × Text),
      joinTexts gap (first :: rest) = first.takeWhile isBlank ++ joinPieces (first.dropWhile isBlank) pieces ∧
      (∀ x ∈ pieces, (∀ c ∈ x.1, isBlank c = true) ∧ Piece x.2) ∧
      pieces.map (·.2) = rest.map (·.dropWhile isBlank) := by
  have hfirst : first.takeWhile isBlank ++ first.dropWhile isBlank = first := List.takeWhile_append_dropWhile
  induction rest generalizing first gap with
  | nil => exact ⟨[], hfirst.symm, nofun, rfl⟩
  | cons next rest ih =>
    rw [List.forall_mem_cons] at h
    obtain ⟨pieces, hjoin, hpieces, hrest⟩ := ih h.2 (fun n => hgap (n + 1)) List.takeWhile_append_dropWhile
    refine ⟨(gap 0 ++ next.takeWhile isBlank, next.dropWhile isBlank) :: pieces, ?_, ?_, ?_⟩
    · rw [joinTexts, hjoin, joinPieces, ← List.append_assoc (first.takeWhile isBlank), hfirst, List.append_assoc]
    · refine List.forall_mem_cons.mpr ⟨⟨List.forall_mem_append.mpr ⟨hgap 0, ?_⟩, ?_⟩, hpieces⟩
      · exact List.all_eq_true.mp List.all_takeWhile
      · exact (h.2 next List.mem_cons_self).piece
    · rw [List.map_cons, List.map_cons, hrest]

/-- The lines of joined texts. -/
theorem bodyLines_joined {ts : List Text} (h : ∀ t ∈ ts, Joinable t) {gap : Nat → Text}
    (hgap : ∀ n, ∀ c ∈ gap n, isBlank c = true) : bodyLines (joinTexts gap ts) = ts.map trim := by
  cases ts with
  | nil => rfl
  | cons first rest =>
    obtain ⟨pieces, hjoin, hpieces, hrest⟩ := exists_joinPieces h hgap
    have hfront : ∀ t : Text, ∀ c ∈ t.takeWhile isBlank, isBlank c = true := fun t =>
      List.all_eq_true.mp List.all_takeWhile
    have hfirst := (h first List.mem_cons_self).piece
    obtain ⟨c, u, hstart, hc⟩ := joinPieces_start hfirst pieces
    have hlines := lines_joinPieces hfirst hpieces _ (hfront first)
    have htrim : ∀ t : Text, trim (t.dropWhile isBlank) = trim t := by
      intro t
      rw [← trim_append_blanks (hfront t), List.takeWhile_append_dropWhile]
    rw [bodyLines_eq, hjoin, hstart, splitAtLineEnds_append hc,
      splitAtLineEnds_no_comma (comma_not_mem_blanks (hfront first)), ← hstart, hlines, hrest, ← List.map_cons,
      List.map_map]
    exact List.map_congr_left fun t _ => htrim t

/-- **Splitting undoes joining.** Texts that are joined by commas, with white space of any kind behind each of them, are
split into the texts again, trimmed; so the layout on one line and that on many are split alike. -/
theorem bodyLines_joinTexts {ts : List Text} (h : ∀ t ∈ ts, Joinable t) {gap gap' : Nat → Text}
    (hgap : ∀ n, ∀ c ∈ gap n, isBlank c = true) (hgap' : ∀ n, ∀ c ∈ gap' n, isBlank c = true) :
    bodyLines (joinTexts gap ts) = ts.map trim ∧ bodyLines (joinTexts gap' ts) = bodyLines (joinTexts gap ts) := by
  have hlines := bodyLines_joined h hgap
  exact ⟨hlines, (bodyLines_joined h hgap').trans hlines.symm⟩

/-- Lines with commas in quotes and parentheses, and with blanks at their ends. -/
def storeLines : List Text := ["kind ENUM('a, (b', \"c,\") ", "\n price DECIMAL(10, 2)", "PRIMARY KEY (kind,price)"]

/-- On one line, and with a line for each, they are split alike. -/
theorem bodyLines_joinTexts_storeLines :
    (∀ t ∈ storeLines, Joinable t) ∧
      joinTexts (fun n => if n = 0 then "\r\n\t" else "\n") storeLines =
        "kind ENUM('a, (b', \"c,\") ,\r\n\t\n price DECIMAL(10, 2),\nPRIMARY KEY (kind,price)" ∧
      bodyLines (joinTexts (fun n => if n = 0 then "\r\n\t" else "\n") storeLines) =
        (["kind ENUM('a, (b', \"c,\")", "price DECIMAL(10, 2)", "PRIMARY KEY (kind,price)"] : List Text) ∧
      bodyLines (joinTexts (fun _ => []) storeLines) =
        bodyLines (joinTexts (fun n => if n = 0 then "\r\n\t" else "\n") storeLines) := by
  have hgap : ∀ n, ∀ c ∈ (fun n => if n = 0 then "\r\n\t" else "\n" : Nat → Text) n, isBlank c = true := by
    intro n
    cases n with
    | zero => decide
    | succ n => exact List.forall_mem_singleton.mpr (by decide)
  have hjoinable : ∀ t ∈ storeLines, Joinable t := by decide +kernel
  have hnone : ∀ n, ∀ c ∈ (fun _ => [] : Nat → Text) n, isBlank c = true := nofun
  obtain ⟨hlines, halike⟩ := bodyLines_joinTexts hjoinable hgap hnone
  exact ⟨hjoinable, by decide +kernel, hlines.trans (by decide +kernel), halike⟩

end StructForge.Sql
