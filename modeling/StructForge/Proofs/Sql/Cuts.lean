import StructForge.Proofs.Sql.Splitting
import StructForge.Proofs.Text.Lines

/-!
# What the cut at separating commas keeps

`Cut s t ps` says how a text `t`, scanned from `s`, falls into the pieces `ps`: a comma that separates stands behind every
piece but the last one, and nothing separates within a piece. The pieces of a text are a cut of it (`cut_scanPieces`).

By induction on the cut, a comma within a piece was read where it does not separate (`Cut.separates_eq_false`), and the last
piece is empty if nothing is left to cut or the text ends in a separating comma (`Cut.getLast?_eq_nil_iff`). This piece is
the one that is dropped, so that of the whole text only a final comma can be lost (`join_splitTopLevel`).
-/

namespace StructForge.Sql

open Text

/-! ## Cuts -/

/-- Nothing separates within a text that is scanned from a state. -/
def Whole (s : Scan) (t : Text) : Prop := ∀ u c v, t = u ++ c :: v → (s.run u).separates c = false

/-- A text that is scanned from a state, and its pieces. -/
inductive Cut : Scan → Text → List Text → Prop
  | last {s : Scan} {p : Text} : Whole s p → Cut s p [p]
  | comma {s : Scan} {p t : Text} {ps : List Text} :
      Whole s p → (s.run p).separates ',' = true → Cut (s.run p) t ps → Cut s (p ++ ',' :: t) (p :: ps)

theorem whole_nil (s : Scan) : Whole s [] := by
  intro u c v h
  simp at h

theorem Whole.cons {s : Scan} {c : Char} {t : Text} (hc : s.separates c = false) (h : Whole (s.next c) t) :
    Whole s (c :: t) := by
  rintro (_ | ⟨d, u⟩) e v heq
  · simp only [List.nil_append, List.cons.injEq] at heq
    rw [← heq.1]
    exact hc
  · simp only [List.cons_append, List.cons.injEq] at heq
    obtain ⟨rfl, heq⟩ := heq
    exact h u e v heq

theorem comma_of_separates {s : Scan} {c : Char} (h : s.separates c = true) : c = ',' := by
  simp only [Scan.separates, Bool.and_eq_true, decide_eq_true_eq] at h
  exact h.1.2

/-- Behind a separating comma, the scan goes on where it was in front of it. -/
theorem Scan.run_comma {s : Scan} {p : Text} (h : (s.run p).separates ',' = true) (t : Text) :
    s.run (p ++ ',' :: t) = (s.run p).run t := by
  rw [Scan.run_append]
  show ((s.run p).next ',').run t = _
  rw [Scan.next_of_separates h]

namespace Cut

variable {s : Scan} {t : Text} {ps : List Text}

theorem ne_nil (h : Cut s t ps) : ps ≠ [] := by
  cases h <;> simp

/-- A character that does not separate goes to the first piece. -/
theorem cons {c : Char} {p : Text} (hc : s.separates c = false) (h : Cut (s.next c) t (p :: ps)) :
    Cut s (c :: t) ((c :: p) :: ps) := by
  cases h with
  | last hp => exact .last (hp.cons hc)
  | comma hp hcomma hps => exact .comma (hp.cons hc) hcomma hps

/-- A comma within a piece does not separate where it is read. What is read in front of it are the pieces in front of this
one, with their commas, and a part of the piece. -/
theorem separates_eq_false (h : Cut s t ps) {front back : List Text} {u v : Text}
    (hps : ps = front ++ (u ++ ',' :: v) :: back) :
    ∃ rest, t = join [','] (front ++ [u]) ++ ',' :: rest ∧
      (s.run (join [','] (front ++ [u]))).separates ',' = false := by
  induction h generalizing front with
  | @last s p hp =>
    obtain ⟨rfl, rfl, -⟩ : front = [] ∧ p = u ++ ',' :: v ∧ [] = back := by
      cases front <;> simp_all
    exact ⟨v, rfl, hp u ',' v rfl⟩
  | @comma s p t ps hp hcomma hcut ih =>
    cases front with
    | nil =>
      obtain ⟨rfl, -⟩ : p = u ++ ',' :: v ∧ ps = back := by simpa using hps
      exact ⟨v ++ ',' :: t, by simp [join], hp u ',' v rfl⟩
    | cons q front =>
      obtain ⟨rfl, hrest⟩ : p = q ∧ ps = front ++ (u ++ ',' :: v) :: back := by simpa using hps
      obtain ⟨rest, rfl, hrun⟩ := ih hrest
      have hjoin : join [','] (p :: front ++ [u]) = p ++ ',' :: join [','] (front ++ [u]) := by
        rw [List.cons_append, join_cons_of_ne_nil _ _ (by simp)]
        simp
      rw [hjoin, Scan.run_comma hcomma]
      exact ⟨rest, by simp, hrun⟩

/-- The last piece is empty if there is no text, or if the text ends in a separating comma. -/
theorem getLast?_eq_nil_iff (h : Cut s t ps) :
    ps.getLast? = some [] ↔ t = [] ∨ ∃ u, t = u ++ [','] ∧ (s.run u).separates ',' = true := by
  induction h with
  | @last s p hp =>
    have hnone : ¬∃ u, p = u ++ [','] ∧ (s.run u).separates ',' = true := by
      rintro ⟨u, rfl, hu⟩
      simp [hp u ',' [] rfl] at hu
    simp [hnone]
  | @comma s p t ps hp hcomma hcut ih =>
    rw [List.getLast?_cons_of_ne_nil hcut.ne_nil, ih]
    constructor
    · rintro (rfl | ⟨u, rfl, hu⟩)
      · exact .inr ⟨p, rfl, hcomma⟩
      · exact .inr ⟨p ++ ',' :: u, by simp, by rwa [Scan.run_comma hcomma]⟩
    · rintro (hnil | ⟨u, hu, hseparates⟩)
      · simp at hnil
      · obtain rfl | ⟨w, d, rfl⟩ := List.eq_nil_or_concat t
        · exact .inl rfl
        · -- the final comma is that of the text behind the first piece
          obtain ⟨rfl, rfl⟩ : p ++ ',' :: w = u ∧ d = ',' := by
            have hlast : (p ++ ',' :: w) ++ [d] = u ++ [','] := by simpa using hu
            simpa using List.append_inj' hlast rfl
          exact .inr ⟨w, by simp, by rwa [← Scan.run_comma hcomma]⟩

end Cut

/-- The pieces of a text are a cut of it. -/
theorem cut_scanPieces : ∀ (s : Scan) (t : Text), Cut s t (scanPieces s t)
  | s, [] => .last (whole_nil s)
  | s, c :: t => by
    rw [scanPieces_cons]
    split
    · rename_i hc
      obtain rfl := comma_of_separates hc
      exact .comma (p := []) (whole_nil s) hc (cut_scanPieces s t)
    · rename_i hc
      have ih := cut_scanPieces (s.next c) t
      cases hps : scanPieces (s.next c) t with
      | nil => exact absurd hps (scanPieces_ne_nil _ t)
      | cons p ps =>
        rw [hps] at ih
        exact ih.cons (Bool.eq_false_iff.mpr hc)

/-! ## The empty piece at the end -/

theorem dropEmptyLast_concat (p : Text) : ∀ ps : List Text,
    dropEmptyLast (ps ++ [p]) = if p = [] then ps else ps ++ [p]
  | [] => by cases p <;> rfl
  | q :: ps => by
    have ih := dropEmptyLast_concat p ps
    obtain ⟨r, rs, hps⟩ := List.exists_cons_of_ne_nil (show ps ++ [p] ≠ [] by simp)
    rw [List.cons_append, hps]
    show q :: dropEmptyLast (r :: rs) = _
    rw [← hps, ih]
    split <;> rfl

/-- Without the empty piece at its end, a cut gives the text, or the text without the separating comma at its end. -/
theorem Cut.join_dropEmptyLast {s : Scan} {t : Text} {ps : List Text} (h : Cut s t ps) (hjoin : join [','] ps = t) :
    (join [','] (dropEmptyLast ps) = t ∧ ∀ u, t = u ++ [','] → (s.run u).separates ',' = false) ∨
      join [','] (dropEmptyLast ps) ++ [','] = t ∧ ∃ u, t = u ++ [','] ∧ (s.run u).separates ',' = true := by
  have hlast := h.getLast?_eq_nil_iff
  obtain rfl | ⟨front, p, rfl⟩ := List.eq_nil_or_concat ps
  · exact absurd rfl h.ne_nil
  · simp only [List.concat_eq_append, List.getLast?_concat, Option.some.injEq] at hlast hjoin ⊢
    rw [dropEmptyLast_concat]
    by_cases hp : p = []
    · subst hp
      rw [if_pos rfl]
      by_cases hfront : front = []
      · subst hfront hjoin
        exact .inl ⟨rfl, by simp [join]⟩
      · rw [join_append_of_ne_nil _ hfront (by simp)] at hjoin
        have hne : t ≠ [] := by
          rintro rfl
          simp at hjoin
        exact .inr ⟨by simpa [join] using hjoin, (hlast.mp rfl).resolve_left hne⟩
    · rw [if_neg hp]
      refine .inl ⟨hjoin, fun u hu => Bool.eq_false_iff.mpr fun hseparates => hp ?_⟩
      exact hlast.mpr (.inr ⟨u, hu, hseparates⟩)

theorem dropEmptyLast_prefix (ps : List Text) : dropEmptyLast ps <+: ps := by
  obtain rfl | ⟨front, p, rfl⟩ := List.eq_nil_or_concat ps
  · exact List.prefix_refl _
  · rw [List.concat_eq_append, dropEmptyLast_concat]
    split
    · exact List.prefix_append _ _
    · exact List.prefix_refl _

/-! ## Splitting -/

theorem Scan.separates_comma {s : Scan} : s.separates ',' = true ↔ s.quoting = .none ∧ s.depth ≤ 0 := by
  simp [separates]

theorem Scan.not_separates_comma {s : Scan} : s.separates ',' = false ↔ s.quoting ≠ .none ∨ 0 < s.depth := by
  rw [← Bool.not_eq_true, separates_comma, Decidable.not_and_iff_or_not, Int.not_le]

/-- **Nothing is lost.** The pieces of a text with commas between them are the text, or the text without a final comma, which
is one outside quotes where no parenthesis is open. A comma within a piece was read within quotes or parentheses. -/
theorem join_splitTopLevel (t : Text) :
    (join [','] (splitTopLevel t) = t ∨ join [','] (splitTopLevel t) ++ [','] = t) ∧
      (join [','] (splitTopLevel t) ++ [','] = t ↔
        ∃ u, t = u ++ [','] ∧ (Scan.start.run u).quoting = .none ∧ (Scan.start.run u).depth ≤ 0) ∧
      ∀ front u v back, splitTopLevel t = front ++ (u ++ ',' :: v) :: back →
        ∃ read rest, t = read ++ ',' :: rest ∧ read = join [','] (front ++ [u]) ∧
          ((Scan.start.run read).quoting ≠ .none ∨ 0 < (Scan.start.run read).depth) := by
  have hcut := cut_scanPieces Scan.start t
  have hends := hcut.join_dropEmptyLast (join_scanPieces Scan.start t)
  unfold splitTopLevel
  refine ⟨hends.imp And.left And.left, ?_, ?_⟩
  · simp only [← Scan.separates_comma]
    constructor
    · intro h
      rcases hends with ⟨hsame, -⟩ | ⟨-, hcomma⟩
      · -- the text would be longer than itself
        rw [hsame] at h
        simpa using congrArg List.length h
      · exact hcomma
    · rintro ⟨u, hu, hseparates⟩
      rcases hends with ⟨-, hnone⟩ | ⟨hcomma, -⟩
      · simp [hnone u hu] at hseparates
      · exact hcomma
  · intro front u v back h
    obtain ⟨dropped, hdropped⟩ := dropEmptyLast_prefix (scanPieces Scan.start t)
    have hpieces : scanPieces Scan.start t = front ++ (u ++ ',' :: v) :: (back ++ dropped) := by
      rw [← hdropped, h]
      simp
    obtain ⟨rest, hrest, hseparates⟩ := hcut.separates_eq_false hpieces
    exact ⟨_, rest, hrest, rfl, Scan.not_separates_comma.mp hseparates⟩

/-- A line with commas in quotes, in parentheses, behind a parenthesis too many, and at its end. -/
def pairsLine : Text := "'a,\\',b' ENUM(c,d),)),e,"

/-- The comma at its end is lost, and that between `c` and `d` was read in parentheses. -/
theorem join_splitTopLevel_pairsLine :
    splitTopLevel pairsLine = (["'a,\\',b' ENUM(c,d)", "))", "e"] : List Text) ∧
      join [','] (splitTopLevel pairsLine) ++ [','] = pairsLine ∧
      0 < (Scan.start.run "'a,\\',b' ENUM(c").depth := by
  have hpieces : splitTopLevel pairsLine = (["'a,\\',b' ENUM(c,d)", "))", "e"] : List Text) := by decide +kernel
  obtain ⟨-, hends, hinside⟩ := join_splitTopLevel pairsLine
  refine ⟨hpieces, hends.mpr ⟨pairsLine.dropLast, by decide +kernel⟩, ?_⟩
  obtain ⟨read, rest, -, rfl, hopen⟩ := hinside [] "'a,\\',b' ENUM(c" "d)" ["))", "e"] (hpieces.trans (by decide))
  exact hopen.resolve_left (by decide +kernel)

end StructForge.Sql
