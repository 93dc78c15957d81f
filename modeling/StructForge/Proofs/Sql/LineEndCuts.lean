import StructForge.Proofs.Sql.ContinuedLines
import StructForge.Proofs.Text.Returns

/-!
# Heads and lines of statements with other line ends

A carriage return in front of every newline does not change where a statement is cut: the head is found at the same
place (`findHead?_withReturns`), and the body is the same (`body?_withReturns`), with the same lines
(`bodyLines_withReturns`), each with the carriage returns that belong to it.

At a cut, the carriage return is one more blank between the comma and its newline. For the scan it is a character of no
meaning, also behind a backslash, which then hides the carriage return in place of the newline
(`Scan.next_return_newline`).
-/

namespace StructForge.Sql

open Text

/-! ## The head -/

theorem skipOneOf_withReturns (cs : List Char) (hr : cs.contains '\r' = false) (hn : cs.contains '\n' = false)
    (t : Text) : skipOneOf cs (withReturns t) = withReturns (skipOneOf cs t) := by
  cases t with
  | nil => rfl
  | cons c t =>
    by_cases hc : c = '\n'
    · rw [hc, withReturns_newline, skipOneOf, skipOneOf, hr, hn]
      rfl
    · rw [withReturns_cons hc, skipOneOf, skipOneOf]
      split
      · rfl
      · rw [withReturns_cons hc]

/-- What a reader gives, with carriage returns in the rest that it leaves. -/
def withReturnsBehind {α : Type} (r : α × Text) : α × Text := (r.1, withReturns r.2)

theorem readName?_withReturns (dialect : Sql) (t : Text) :
    dialect.readName? (withReturns t) = (dialect.readName? t).map withReturnsBehind := by
  have hopen := skipOneOf_withReturns dialect.nameOpeners (by cases dialect <;> decide)
    (by cases dialect <;> decide)
  have hclose := skipOneOf_withReturns dialect.nameClosers (by cases dialect <;> decide)
    (by cases dialect <;> decide)
  unfold readName?
  rw [hopen, takeWord_withReturns]
  rcases takeWord (skipOneOf dialect.nameOpeners t) with ⟨_ | ⟨c, name⟩, rest⟩
  · rfl
  · simp only [Option.map_some, withReturnsBehind, hclose]

theorem readTableName?_withReturns (dialect : Sql) (t : Text) :
    dialect.readTableName? (withReturns t) = (dialect.readTableName? t).map withReturnsBehind := by
  have hname := readName?_withReturns dialect
  unfold readTableName?
  rw [hname]
  rcases dialect.readName? t with _ | ⟨name, _ | ⟨c, rest⟩⟩
  · rfl
  · rfl
  · by_cases hdot : c = '.'
    · rw [hdot]
      simp only [Option.map_some, withReturnsBehind, withReturns_cons (show '.' ≠ '\n' by decide), hname]
      cases dialect.readName? rest <;> rfl
    · by_cases hc : c = '\n'
      · rw [hc]
        rfl
      · simp [withReturnsBehind, withReturns_cons hc, hdot]

theorem readHead?_withReturns (dialect : Sql) (t : Text) :
    dialect.readHead? (withReturns t) = (dialect.readHead? t).map withReturnsBehind := by
  have hname := readTableName?_withReturns dialect
  unfold readHead?
  rw [afterPhrase?_withReturns (by decide)]
  cases afterPhrase? ["create", "table"] t with
  | none => rfl
  | some r =>
    simp only [Option.map_some, Option.bind_some, Option.bind_eq_bind]
    refine afterBlanks?_bind_withReturns (fun r => ?_) r
    rw [afterPhrase?_withReturns (by decide), hname]
    cases afterPhrase? ["if", "not", "exists"] r with
    | none => simp
    | some g =>
      simp only [Option.map_some, Option.bind_some, afterBlanks?_bind_withReturns hname]
      cases (afterBlanks? g).bind dialect.readTableName? <;> simp

theorem findHead?_withReturns (dialect : Sql) (t : Text) :
    dialect.findHead? (withReturns t) = (dialect.findHead? t).map withReturnsBehind := by
  refine search_withReturns (fun _ => readHead?_withReturns dialect) (fun _ u => readHead?_of_afterPhrase? ?_) false t
  exact afterPhrase?_of_not_word (by decide) (by decide) (by decide) u

/-! ## The body -/

theorem dropLast_withReturns {t : Text} (h : '\n' ∉ t.getLast?) : (withReturns t).dropLast = withReturns t.dropLast := by
  obtain rfl | ⟨v, c, rfl⟩ := List.eq_nil_or_concat t
  · rfl
  · rw [List.concat_eq_append] at h ⊢
    have hc : c ≠ '\n' := by
      rintro rfl
      exact h (List.getLast?_concat)
    rw [withReturns_append, withReturns_cons hc, withReturns_nil, List.dropLast_concat, List.dropLast_concat]

/-- What is left behind dropped characters does not start with one of them. -/
theorem ne_of_dropWhile {p : Char → Bool} {t u : Text} {c d : Char} (h : t.dropWhile p = c :: u) (hd : p d = true) :
    c ≠ d := by
  rintro rfl
  have hhead := List.head?_dropWhile_not p t
  rw [h] at hhead
  exact absurd (hhead.symm.trans hd) Bool.false_ne_true

theorem body?_withReturns (t : Text) : body? (withReturns t) = (body? t).map withReturns := by
  rw [body?, dropWhile_withReturns (by decide), body?]
  cases hdrop : t.dropWhile (· ≠ '(') with
  | nil => rfl
  | cons c inner =>
    have hlast : '\n' ∉ (dropEndWhile (· ≠ ')') inner).getLast? := fun hmem =>
      absurd (getLast?_dropEndWhile (· ≠ ')') inner '\n' hmem) (by decide)
    simp only [withReturns_cons (ne_of_dropWhile hdrop (by decide)), dropEndWhile_withReturns (p := (· ≠ ')')) (by decide),
      dropLast_withReturns hlast]
    cases (dropEndWhile (· ≠ ')') inner).dropLast with
    | nil => rfl
    | cons d body =>
      obtain ⟨e, u, he⟩ := List.exists_cons_of_ne_nil
        (fun hnil => List.cons_ne_nil d body (withReturns_eq_nil_iff.mp hnil))
      simp [he]

/-! ## The lines of the body -/

/-- Within quotes, the quote is one of the three. -/
def Scan.IsProper (s : Scan) : Prop := ∀ q, s.quoting = .within q ∨ s.quoting = .escaped q → isQuote q = true

theorem Scan.isProper_start : start.IsProper := by
  rintro q (h | h) <;> cases h

theorem Scan.IsProper.next {s : Scan} (hs : s.IsProper) (c : Char) : (s.next c).IsProper := by
  obtain ⟨quoting, depth⟩ := s
  cases quoting with
  | none =>
    rintro q hq
    simp only [Scan.next] at hq
    split at hq
    · rename_i hquote
      rcases hq with hq | hq
      · cases hq
        exact hquote
      · cases hq
    · split at hq
      · rcases hq with hq | hq <;> cases hq
      · split at hq <;> rcases hq with hq | hq <;> cases hq
  | within quote =>
    have hquote := hs quote (.inl rfl)
    rintro q hq
    simp only [Scan.next] at hq
    split at hq
    · rcases hq with hq | hq <;> cases hq
      exact hquote
    · split at hq <;> rcases hq with hq | hq <;> cases hq
      exact hquote
  | escaped quote =>
    rintro q hq
    rcases hq with hq | hq <;> cases hq
    exact hs quote (.inr rfl)

/-- A newline leaves the scan in the same state with a carriage return in front of it. Behind a backslash, the latter is
what is hidden. -/
theorem Scan.next_return_newline {s : Scan} (hs : s.IsProper) : (s.next '\r').next '\n' = s.next '\n' := by
  obtain ⟨quoting, depth⟩ := s
  have hother : ∀ q, isQuote q = true → '\r' ≠ q ∧ '\n' ≠ q := by
    intro q hq
    constructor <;> rintro rfl <;> exact absurd hq (by decide)
  cases quoting with
  | none => rfl
  | within quote =>
    obtain ⟨hr, hn⟩ := hother quote (hs quote (.inl rfl))
    simp [Scan.next, hr, hn]
  | escaped quote =>
    obtain ⟨-, hn⟩ := hother quote (hs quote (.inr rfl))
    simp [Scan.next, hn]

theorem map_withReturns_putFirst {c : Char} (hc : c ≠ '\n') (ps : List Text) :
    (putFirst c ps).map withReturns = putFirst c (ps.map withReturns) := by
  cases ps <;> simp [putFirst, withReturns_cons hc]

theorem map_withReturns_putFirst_newline (ps : List Text) :
    (putFirst '\n' ps).map withReturns = putFirst '\r' (putFirst '\n' (ps.map withReturns)) := by
  cases ps <;> rfl

/-- The pieces between separating commas. -/
theorem scanPieces_withReturns {s : Scan} (hs : s.IsProper) (t : Text) :
    scanPieces s (withReturns t) = (scanPieces s t).map withReturns := by
  induction t generalizing s with
  | nil => rfl
  | cons c t ih =>
    by_cases hc : c = '\n'
    · have hstep : ∀ (s : Scan) (c : Char) (u : Text), c ≠ ',' →
          scanPieces s (c :: u) = putFirst c (scanPieces (s.next c) u) := by
        intro s c u hc
        rw [scanPieces_cons, if_neg (by simp [Scan.separates, hc])]
      rw [hc, withReturns_newline, hstep s '\r' _ (by decide), hstep _ '\n' _ (by decide),
        Scan.next_return_newline hs, ih (hs.next '\n'), hstep s '\n' _ (by decide)]
      exact (map_withReturns_putFirst_newline _).symm
    · rw [withReturns_cons hc, scanPieces_cons, scanPieces_cons, ih hs, ih (hs.next c)]
      split
      · rfl
      · exact (map_withReturns_putFirst hc _).symm

theorem dropEmptyLast_withReturns : ∀ ps : List Text,
    dropEmptyLast (ps.map withReturns) = (dropEmptyLast ps).map withReturns
  | [] => rfl
  | [p] => by
    simp only [List.map_cons, List.map_nil, dropEmptyLast, isEmpty_withReturns]
    split <;> rfl
  | p :: q :: ps => congrArg (withReturns p :: ·) (dropEmptyLast_withReturns (q :: ps))

theorem splitTopLevel_withReturns (t : Text) : splitTopLevel (withReturns t) = (splitTopLevel t).map withReturns := by
  rw [splitTopLevel, scanPieces_withReturns Scan.isProper_start, dropEmptyLast_withReturns, splitTopLevel]

/-- The characters that are skipped may be dropped before. -/
theorem chunksFrom_drop : ∀ (n : Nat) (t : Text), chunksFrom n t = chunksFrom 0 (t.drop n)
  | 0, _ => rfl
  | _ + 1, [] => rfl
  | n + 1, _ :: t => chunksFrom_drop n t

/-- The newlines behind a comma end at the same place. -/
theorem newlineSpan?_withReturns (t : Text) :
    (newlineSpan? (withReturns t)).map (withReturns t).drop = (newlineSpan? t).map (withReturns <| t.drop ·) := by
  induction t with
  | nil => rfl
  | cons c t ih =>
    by_cases hc : c = '\n'
    · rw [hc, withReturns_newline, newlineSpan?, if_pos (by decide), newlineSpan?, if_pos (by decide), newlineSpan?,
        if_pos (by decide)]
      cases hspan : newlineSpan? t with
      | none =>
        rw [hspan, Option.map_none, Option.map_eq_none_iff] at ih
        rw [ih]
        rfl
      | some n =>
        rw [hspan] at ih
        obtain ⟨m, hm, hdrop⟩ := Option.map_eq_some_iff.mp ih
        rw [hm]
        exact congrArg some hdrop
    · rw [withReturns_cons hc, newlineSpan?, newlineSpan?]
      split
      · cases hspan : newlineSpan? t with
        | none =>
          rw [hspan, Option.map_none, Option.map_eq_none_iff] at ih
          rw [ih]
          simp
        | some n =>
          rw [hspan] at ih
          obtain ⟨m, hm, hdrop⟩ := Option.map_eq_some_iff.mp ih
          rw [hm]
          exact congrArg some hdrop
      · rfl

theorem chunksFrom_withReturns (t : Text) : chunksFrom 0 (withReturns t) = (chunksFrom 0 t).map withReturns := by
  -- by induction on the length, since a cut also drops the blanks behind its comma
  induction hlen : t.length using Nat.strongRecOn generalizing t with
  | ind len ih =>
    cases t with
    | nil => rfl
    | cons c t =>
      rw [List.length_cons] at hlen
      have iht := ih t.length (by omega) t rfl
      by_cases hcomma : c = ','
      · have hspan := newlineSpan?_withReturns t
        rw [hcomma, withReturns_cons (by decide), chunksFrom_zero_cons, chunksFrom_zero_cons, if_pos rfl, if_pos rfl]
        cases hn : newlineSpan? t with
        | none =>
          rw [hn, Option.map_none, Option.map_eq_none_iff] at hspan
          rw [hspan, iht]
          exact (map_withReturns_putFirst (by decide) _).symm
        | some n =>
          rw [hn] at hspan
          obtain ⟨m, hm, hdrop⟩ := Option.map_eq_some_iff.mp hspan
          have ihrest := ih (t.drop n).length (by rw [List.length_drop]; omega) (t.drop n) rfl
          rw [hm]
          simp only [chunksFrom_drop m, chunksFrom_drop n, hdrop, ihrest, List.map_cons, withReturns_nil]
      · have hstep : ∀ (c : Char) (u : Text), c ≠ ',' → chunksFrom 0 (c :: u) = putFirst c (chunksFrom 0 u) := by
          intro c u hc
          rw [chunksFrom_zero_cons, if_neg hc]
        by_cases hc : c = '\n'
        · rw [hc, withReturns_newline, hstep '\r' _ (by decide), hstep '\n' _ (by decide), iht,
            hstep '\n' _ (by decide)]
          exact (map_withReturns_putFirst_newline _).symm
        · rw [withReturns_cons hc, hstep c _ hcomma, iht, hstep c _ hcomma]
          exact (map_withReturns_putFirst hc _).symm

theorem splitAtLineEnds_withReturns (t : Text) : splitAtLineEnds (withReturns t) = (splitAtLineEnds t).map withReturns :=
  chunksFrom_withReturns t

/-- The lines of a body are the same, with carriage returns within them. -/
theorem bodyLines_withReturns (body : Text) : bodyLines (withReturns body) = (bodyLines body).map withReturns := by
  have htrim : trim ∘ withReturns = withReturns ∘ trim := funext trim_withReturns
  rw [bodyLines, splitAtLineEnds_withReturns, List.flatMap_map, bodyLines]
  simp only [splitTopLevel_withReturns]
  rw [← List.map_flatMap, List.map_map, htrim, ← List.map_map, List.filter_map]
  exact congrArg (List.map withReturns) (List.filter_congr fun line _ => by simp)

end StructForge.Sql
