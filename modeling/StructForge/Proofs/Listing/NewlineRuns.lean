import Mathlib.Data.List.SplitBy
import StructForge.Proofs.Listing
import StructForge.Proofs.Text.Trimming

/-!
# Runs of newlines

A text falls into its runs of newlines and what stands between them. A listing has what stands between the blanks at the
ends of a text, where a run of three or more newlines is shortened to two and all else is kept (`shortenFrom_eq`,
`trim_shortenFrom`). Left as they are by this are exactly the *clean* texts, which have no three newlines in a row and no
blanks at their ends (`cleanup_eq_self_iff`). A listing is clean, and so a listing of it is the same (`cleanup_normalises`).
-/

namespace StructForge.Listing

open Text

/-! ## Shortened runs -/

/-- Two newlines, or two characters that are none. -/
def sameKind (c d : Char) : Bool := (c == '\n') == (d == '\n')

/-- The runs of newlines of a text and the texts between them, in order and as long as they can be. -/
def newlineRuns (t : Text) : List Text := t.splitBy sameKind

/-- A run of three or more newlines becomes one of two. -/
def shortened (run : Text) : Text := if run.all (· == '\n') ∧ 3 ≤ run.length then "\n\n" else run

/-- All newlines, or none of them. -/
def IsUniform (run : Text) : Prop := (∀ c ∈ run, c = '\n') ∨ '\n' ∉ run

theorem isUniform_of_mem {t run : Text} (h : run ∈ newlineRuns t) : IsUniform run := by
  have htrans : IsTrans Char fun c d => sameKind c d = true :=
    ⟨fun _ _ _ hab hbc => beq_iff_eq.mpr ((beq_iff_eq.mp hab).trans (beq_iff_eq.mp hbc))⟩
  obtain ⟨c, rest, rfl⟩ := List.exists_cons_of_ne_nil (List.ne_nil_of_mem_splitBy h)
  have hsame : ∀ d ∈ c :: rest, (d == '\n') = (c == '\n') := by
    intro d hd
    rcases List.mem_cons.mp hd with rfl | hd
    · rfl
    · exact (beq_iff_eq.mp ((List.isChain_of_mem_splitBy h).rel_cons hd)).symm
  by_cases hc : c = '\n'
  · exact .inl fun d hd => by simpa [hc] using hsame d hd
  · refine .inr fun hd => ?_
    have hnewline := hsame '\n' hd
    rw [beq_self_eq_true, eq_comm, beq_iff_eq] at hnewline
    exact hc hnewline

theorem flatten_newlineRuns (t : Text) : (newlineRuns t).flatten = t := List.flatten_splitBy sameKind t

/-- Neighbours are of different kinds. -/
theorem isChain_newlineRuns (t : Text) : (newlineRuns t).IsChain fun run next =>
    ∃ hrun hnext, sameKind (run.getLast hrun) (next.head hnext) = false :=
  List.isChain_getLast_head_splitBy sameKind t

theorem shortened_newlines (n : Nat) : shortened (List.replicate n '\n') = List.replicate (min n 2) '\n' := by
  rw [shortened]
  by_cases hn : 3 ≤ n
  · rw [if_pos (by simpa using hn), Nat.min_eq_right (by omega)]
    rfl
  · rw [if_neg (by simp [hn]), Nat.min_eq_left (by omega)]

theorem shortened_line {line : Text} (hne : line ≠ []) (hline : '\n' ∉ line) : shortened line = line := by
  obtain ⟨c, t, rfl⟩ := List.exists_cons_of_ne_nil hne
  have hc : c ≠ '\n' := fun h => hline (h ▸ List.mem_cons_self)
  exact if_neg (by simp [hc])

/-- Behind `run` newlines, as many of the next ones are kept as there are to two. -/
theorem shortenFrom_newlines {run : Nat} (hrun : run ≤ 2) {u : Text} (hu : u.head? ≠ some '\n') (n : Nat) :
    shortenFrom run (List.replicate n '\n' ++ u) = List.replicate (min n (2 - run)) '\n' ++ shortenFrom 0 u := by
  induction n generalizing run with
  | zero =>
    rw [List.replicate_zero, Nat.zero_min, List.replicate_zero, List.nil_append, List.nil_append]
    cases u with
    | nil => rfl
    | cons c u =>
      have hc : c ≠ '\n' := by simpa using hu
      rw [shortenFrom, shortenFrom, if_neg hc, if_neg hc]
  | succ n ih =>
    rw [List.replicate_succ, List.cons_append, shortenFrom, if_pos rfl]
    by_cases hmore : run < 2
    · have hcount : min (n + 1) (2 - run) = min n (2 - (run + 1)) + 1 := by omega
      rw [if_pos hmore, ih hmore, hcount, List.replicate_succ, List.cons_append]
    · have hcount : min (n + 1) (2 - run) = min n (2 - run) := by omega
      rw [if_neg hmore, ih hrun, hcount]

/-- Runs are shortened one by one: behind the newlines of a run stands something else. -/
theorem shortenFrom_flatten {runs : List Text} (hne : ∀ run ∈ runs, run ≠ []) (huniform : ∀ run ∈ runs, IsUniform run)
    (hchain : runs.IsChain fun run next => ∃ hrun hnext, sameKind (run.getLast hrun) (next.head hnext) = false) :
    shortenFrom 0 runs.flatten = runs.flatMap shortened := by
  induction runs with
  | nil => rfl
  | cons run rest ih =>
    rw [List.forall_mem_cons] at hne huniform
    have hrest := ih hne.2 huniform.2 hchain.tail
    rw [List.flatten_cons, List.flatMap_cons, ← hrest]
    rcases huniform.1 with hnewlines | hline
    · have hhead : rest.flatten.head? ≠ some '\n' := by
        cases rest with
        | nil => nofun
        | cons next rest =>
          obtain ⟨⟨hlast, hnext, hdiffer⟩, -⟩ := List.isChain_cons_cons.mp hchain
          have hnewline := hnewlines _ (List.getLast_mem hlast)
          obtain ⟨d, next, rfl⟩ := List.exists_cons_of_ne_nil hnext
          simpa [sameKind, hnewline] using hdiffer
      rw [List.eq_replicate_of_mem hnewlines, shortenFrom_newlines (Nat.zero_le 2) hhead, shortened_newlines]
    · rw [shortenFrom_line hne.1 hline, shortened_line hne.1 hline]

/-- Shortening is run by run. -/
theorem shortenFrom_eq (t : Text) : shortenFrom 0 t = (newlineRuns t).flatMap shortened := by
  calc shortenFrom 0 t = shortenFrom 0 (newlineRuns t).flatten := by rw [flatten_newlineRuns]
    _ = (newlineRuns t).flatMap shortened :=
      shortenFrom_flatten (fun _ => List.ne_nil_of_mem_splitBy) (fun _ => isUniform_of_mem) (isChain_newlineRuns t)

/-! ## Shortening and trimming -/

theorem shortenFrom_sublist (run : Nat) (t : Text) : (shortenFrom run t).Sublist t := by
  induction t generalizing run with
  | nil => exact .slnil
  | cons c t ih =>
    rw [shortenFrom]
    split
    · rename_i hc
      rw [hc]
      split
      · exact (ih (run + 1)).cons_cons '\n'
      · exact (ih run).cons '\n'
    · exact (ih 0).cons_cons c

/-- A character that is no newline ends a run. -/
theorem shortenFrom_stop {c : Char} (hc : c ≠ '\n') (run : Nat) (t u : Text) :
    shortenFrom run (t ++ c :: u) = shortenFrom run t ++ c :: shortenFrom 0 u := by
  induction t generalizing run with
  | nil => simp [shortenFrom, hc]
  | cons d t ih =>
    rw [List.cons_append, shortenFrom, shortenFrom]
    split
    · split
      · rw [ih, List.cons_append]
      · exact ih run
    · rw [ih, List.cons_append]

theorem dropWhile_shortenFrom (run : Nat) (t : Text) :
    (shortenFrom run t).dropWhile isBlank = shortenFrom 0 (t.dropWhile isBlank) := by
  induction t generalizing run with
  | nil => rfl
  | cons c t ih =>
    by_cases hc : c = '\n'
    · have hblank : isBlank '\n' = true := by decide
      by_cases hrun : run < 2 <;> simp [shortenFrom, hc, hrun, hblank, ih]
    · cases hblank : isBlank c with
      | true => simp [shortenFrom, hc, hblank, ih]
      | false => simp [shortenFrom, hc, hblank]

theorem dropEndWhile_shortenFrom (run : Nat) (t : Text) :
    dropEndWhile isBlank (shortenFrom run t) = shortenFrom run (dropEndWhile isBlank t) := by
  obtain ⟨back, ht, hback⟩ := dropEndWhile_append isBlank t
  have hgone : ∀ k, dropEndWhile isBlank (shortenFrom k back) = [] := fun k =>
    dropEndWhile_eq_nil fun d hd => hback d ((shortenFrom_sublist k back).mem hd)
  rcases dropEndWhile_isBlank_cases t with hnil | ⟨v, c, hv, hc⟩
  · rw [hnil, List.nil_append] at ht
    rw [hnil, ht, hgone]
    rfl
  · have hne : c ≠ '\n' := by
      rintro rfl
      cases hc
    rw [hv, List.append_assoc, List.singleton_append] at ht
    rw [hv, ht, shortenFrom_stop hne, shortenFrom_stop hne, dropEndWhile_stop hc, hgone]
    rfl

/-- The blanks at the ends may be left out first. -/
theorem trim_shortenFrom (run : Nat) (t : Text) : trim (shortenFrom run t) = shortenFrom 0 (trim t) := by
  rw [trim, dropWhile_shortenFrom, dropEndWhile_shortenFrom, trim]

/-! ## Texts without long runs -/

/-- In front of a character that is no newline, less than three newlines do not matter. -/
theorem infix_newlines_cons_iff {c : Char} (hc : c ≠ '\n') {run : Nat} (hrun : run ≤ 2) (t : Text) :
    ("\n\n\n" : Text) <:+: List.replicate run '\n' ++ c :: t ↔ ("\n\n\n" : Text) <:+: t := by
  have hfront : ∀ k ≤ 2, ¬("\n\n\n" : Text) <+: List.replicate k '\n' ++ c :: t
    | 0, _ | 1, _ | 2, _ => by simp [Ne.symm hc]
  induction run with
  | zero =>
    rw [List.replicate_zero, List.nil_append, List.infix_cons_iff]
    exact or_iff_right (hfront 0 hrun)
  | succ run ih =>
    have hnext := hfront (run + 1) hrun
    rw [List.replicate_succ, List.cons_append] at hnext ⊢
    exact List.infix_cons_iff.trans ((or_iff_right hnext).trans (ih (Nat.le_of_succ_le hrun)))

/-- Behind less than three newlines, a text is left as it is if there are nowhere three newlines in a row. -/
theorem shortenFrom_eq_self_iff {run : Nat} (hrun : run ≤ 2) (t : Text) :
    shortenFrom run t = t ↔ ¬("\n\n\n" : Text) <:+: List.replicate run '\n' ++ t := by
  induction t generalizing run with
  | nil =>
    have hshort : ¬("\n\n\n" : Text) <:+: List.replicate run '\n' ++ [] := by
      intro hinfix
      have hlength := hinfix.length_le
      simp at hlength
      omega
    exact iff_of_true rfl hshort
  | cons c t ih =>
    by_cases hc : c = '\n'
    · subst hc
      have hone : List.replicate run '\n' ++ '\n' :: t = List.replicate (run + 1) '\n' ++ t := by
        simp [List.replicate_succ']
      rw [hone, shortenFrom, if_pos rfl]
      by_cases hmore : run < 2
      · rw [if_pos hmore, ← ih hmore, List.cons_eq_cons]
        exact and_iff_right rfl
      · obtain rfl : run = 2 := by omega
        have hlength := (shortenFrom_sublist 2 t).length_le
        have hne : shortenFrom 2 t ≠ '\n' :: t := fun h => by
          rw [h, List.length_cons] at hlength
          omega
        have hinfix : ("\n\n\n" : Text) <:+: List.replicate 3 '\n' ++ t := (List.prefix_append _ t).isInfix
        rw [if_neg hmore]
        exact iff_of_false hne (not_not_intro hinfix)
    · rw [infix_newlines_cons_iff hc hrun, shortenFrom, if_neg hc, List.cons_eq_cons, ih (Nat.zero_le 2)]
      exact and_iff_right rfl

/-- Shortening once is enough. -/
theorem shortenFrom_shortenFrom (run : Nat) (t : Text) : shortenFrom run (shortenFrom run t) = shortenFrom run t := by
  induction t generalizing run with
  | nil => rfl
  | cons c t ih =>
    by_cases hc : c = '\n'
    · by_cases hrun : run < 2 <;> simp [shortenFrom, hc, hrun, ih]
    · simp [shortenFrom, hc, ih]

/-! ## Clean texts -/

/-- A text without three newlines in a row, and without blanks at its ends. -/
structure IsClean (t : Text) : Prop where
  newlines : ¬("\n\n\n" : Text) <:+: t
  start : ∀ c ∈ t.head?, isBlank c = false
  final : ∀ c ∈ t.getLast?, isBlank c = false

theorem isClean_cleanup (t : Text) : IsClean (cleanup t) where
  newlines := by
    have hshort := shortenFrom_eq_self_iff (Nat.zero_le 2) (cleanup t)
    rw [List.replicate_zero, List.nil_append] at hshort
    rw [← hshort, cleanup, trim_shortenFrom, shortenFrom_shortenFrom]
  start := head?_trim (shortenFrom 0 t)
  final := getLast?_trim (shortenFrom 0 t)

/-- Exactly the clean texts are listed as they are. -/
theorem cleanup_eq_self_iff (t : Text) : cleanup t = t ↔ IsClean t := by
  constructor
  · intro h
    rw [← h]
    exact isClean_cleanup t
  · intro h
    have hshort := (shortenFrom_eq_self_iff (Nat.zero_le 2) t).mpr h.newlines
    rw [cleanup, hshort]
    exact trimWhere_eq_self h.start h.final

/-- **Listings are clean once and for all.** A listing has no three newlines in a row and no blanks at its ends. Against
what stands between the blanks of the text, its runs of three or more newlines are shortened to two, and nothing else is
different. A listing of a listing is the same. -/
theorem cleanup_normalises (t : Text) :
    IsClean (cleanup t) ∧
      (∃ front back, t = front ++ (trim t ++ back) ∧ ∀ c ∈ front ++ back, isBlank c = true) ∧
      cleanup t = (newlineRuns (trim t)).flatMap shortened ∧
      cleanup (cleanup t) = cleanup t := by
  refine ⟨isClean_cleanup t, ⟨t.takeWhile isBlank, blanksBehind t, eq_trim_append t, ?_⟩, ?_, ?_⟩
  · intro c hc
    exact (List.mem_append.mp hc).elim isBlank_of_mem_takeWhile isBlank_of_mem_blanksBehind
  · rw [cleanup, trim_shortenFrom, shortenFrom_eq]
  · exact (cleanup_eq_self_iff _).mpr (isClean_cleanup t)

/-- Blanks between newlines keep two runs apart. -/
example : cleanup "\n \n\na\n \n\n\n\nb\n\n\t\n" = "a\n \n\nb".toList := by decide

end StructForge.Listing
