import StructForge.Proofs.Text.Trimming
import StructForge.Sql.Splitter

/-!
# How a body falls into lines

Both cuts of a body are compatible with putting texts together: the last piece of the first text and the first piece
of the second become one (`glue`). For the scan this holds everywhere, if it goes on in the state that the first text
leaves (`scanPieces_append`); for the commas at line ends it holds in front of a character that is no blank
(`splitAtLineEnds_append`).

A *piece* is a text that neither cut divides and that the scan leaves as it entered. `bodyLines_joinPieces` says that
pieces with commas and white space between them fall apart into just these pieces again.
-/

namespace StructForge.Sql

open Text

/-! ## Putting pieces together -/

/-- Two lists of pieces, where the last piece of the first goes on with the first piece of the second. -/
def glue : List Text → List Text → List Text
  | [], ys => ys
  | [p], [] => [p]
  | [p], q :: ys => (p ++ q) :: ys
  | p :: p' :: xs, ys => p :: glue (p' :: xs) ys

/-- The pieces with one more character at the start. -/
def putFirst (c : Char) : List Text → List Text
  | [] => [[c]]
  | p :: ps => (c :: p) :: ps

theorem glue_cons (p : Text) {xs : List Text} (h : xs ≠ []) (ys : List Text) : glue (p :: xs) ys = p :: glue xs ys := by
  obtain ⟨q, xs, rfl⟩ := List.exists_cons_of_ne_nil h
  rfl

theorem glue_nil_piece {ys : List Text} (h : ys ≠ []) : glue [[]] ys = ys := by
  obtain ⟨q, ys, rfl⟩ := List.exists_cons_of_ne_nil h
  rfl

theorem glue_glue_one (p q : Text) {ys : List Text} (h : ys ≠ []) : glue [p] (glue [q] ys) = glue [p ++ q] ys := by
  obtain ⟨r, ys, rfl⟩ := List.exists_cons_of_ne_nil h
  simp [glue]

theorem glue_concat (q : Text) (ys : List Text) (p : Text) : ∀ xs : List Text,
    glue (xs ++ [p]) (q :: ys) = xs ++ (p ++ q) :: ys
  | [] => rfl
  | x :: xs => by
    rw [List.cons_append, glue_cons x (by simp), glue_concat q ys p xs, List.cons_append]

theorem glue_getLast_head {xs ys : List Text} (hx : xs ≠ []) (hy : ys ≠ []) :
    glue xs ys = xs.dropLast ++ (xs.getLast hx ++ ys.head hy) :: ys.tail := by
  obtain ⟨y, ys, rfl⟩ := List.exists_cons_of_ne_nil hy
  have h := glue_concat y ys (xs.getLast hx) xs.dropLast
  rwa [List.dropLast_concat_getLast hx] at h

theorem exists_putFirst (c : Char) : ∀ ps : List Text, ∃ q qs, putFirst c ps = (c :: q) :: qs
  | [] => ⟨[], [], rfl⟩
  | p :: ps => ⟨p, ps, rfl⟩

theorem putFirst_glue (c : Char) {xs ys : List Text} (h : xs ≠ []) :
    putFirst c (glue xs ys) = glue (putFirst c xs) ys := by
  match xs, ys, h with
  | [p], [], _ | [p], _ :: _, _ | _ :: _ :: _, _, _ => rfl

theorem glue_length {xs ys : List Text} (hx : xs ≠ []) (hy : ys ≠ []) :
    (glue xs ys).length + 1 = xs.length + ys.length := by
  obtain ⟨q, ys, rfl⟩ := List.exists_cons_of_ne_nil hy
  obtain rfl | ⟨xs, p, rfl⟩ := List.eq_nil_or_concat xs
  · exact absurd rfl hx
  · rw [List.concat_eq_append, glue_concat]
    simp only [List.length_append, List.length_cons, List.length_nil]
    omega

/-! ## The scan -/

theorem Scan.run_append (s : Scan) (t u : Text) : s.run (t ++ u) = (s.run t).run u := List.foldl_append

theorem scanPieces_cons (s : Scan) (c : Char) (t : Text) :
    scanPieces s (c :: t) =
      if s.separates c then [] :: scanPieces s t else putFirst c (scanPieces (s.next c) t) := by
  rw [scanPieces]
  split
  · rfl
  · cases scanPieces (s.next c) t <;> rfl

/-- The pieces of a text that goes on with another one. -/
theorem scanPieces_append : ∀ (s : Scan) (t u : Text),
    scanPieces s (t ++ u) = glue (scanPieces s t) (scanPieces (s.run t) u)
  | s, [], u => (glue_nil_piece (scanPieces_ne_nil s u)).symm
  | s, c :: t, u => by
    rw [List.cons_append, scanPieces_cons, scanPieces_cons, show s.run (c :: t) = (s.next c).run t from rfl]
    split
    · rename_i h
      rw [Scan.next_of_separates h, scanPieces_append s t u, glue_cons _ (scanPieces_ne_nil s t)]
    · rw [scanPieces_append (s.next c) t u, putFirst_glue c (scanPieces_ne_nil _ t)]

/-- A text without separating commas is one piece. -/
theorem scanPieces_eq_singleton : ∀ (s : Scan) (t : Text),
    (∀ p c u, t = p ++ c :: u → (s.run p).separates c = false) → scanPieces s t = [t]
  | _, [], _ => rfl
  | s, c :: t, h => by
    have hc : s.separates c = false := h [] c t rfl
    have ih := scanPieces_eq_singleton (s.next c) t (fun p d u e => h (c :: p) d u (by rw [e]; rfl))
    rw [scanPieces_cons, if_neg (by rw [hc]; exact Bool.false_ne_true), ih]
    rfl

theorem scanPieces_of_length {s : Scan} {t : Text} (h : (scanPieces s t).length = 1) : scanPieces s t = [t] := by
  obtain ⟨p, hp⟩ := List.length_eq_one_iff.mp h
  have hjoin := join_scanPieces s t
  rw [hp] at hjoin ⊢
  exact congrArg (fun p : Text => [p]) hjoin

/-- Two texts make up one piece if they are one each, the second from where the first leaves the scan. -/
theorem scanPieces_append_iff {s : Scan} {t u : Text} :
    scanPieces s (t ++ u) = [t ++ u] ↔ scanPieces s t = [t] ∧ scanPieces (s.run t) u = [u] := by
  constructor
  · intro h
    have hlength := glue_length (scanPieces_ne_nil s t) (scanPieces_ne_nil (s.run t) u)
    have ht := List.length_pos_iff.mpr (scanPieces_ne_nil s t)
    have hu := List.length_pos_iff.mpr (scanPieces_ne_nil (s.run t) u)
    rw [← scanPieces_append, h, List.length_singleton] at hlength
    exact ⟨scanPieces_of_length (by omega), scanPieces_of_length (by omega)⟩
  · rintro ⟨ht, hu⟩
    rw [scanPieces_append, ht, hu, glue]

/-- In one piece, nothing separates. -/
theorem separates_of_scanPieces {s : Scan} {t p u : Text} {c : Char} (h : scanPieces s t = [t]) (ht : t = p ++ c :: u) :
    (s.run p).separates c = false := by
  refine Bool.eq_false_iff.mpr (fun hc => ?_)
  have hcomma := (scanPieces_append_iff.mp (ht ▸ h)).2
  rw [scanPieces_cons, if_pos hc] at hcomma
  exact scanPieces_ne_nil _ u (List.cons.inj hcomma).2

/-! ## Commas at line ends -/

theorem chunksFrom_zero_cons (c : Char) (t : Text) :
    chunksFrom 0 (c :: t) =
      match if c = ',' then newlineSpan? t else none with
      | some n => [] :: chunksFrom n t
      | none => putFirst c (chunksFrom 0 t) := by
  rw [chunksFrom]
  generalize (if c = ',' then newlineSpan? t else none) = span
  cases span with
  | some n => rfl
  | none => cases chunksFrom 0 t <;> rfl

theorem chunksFrom_ne_nil : ∀ (n : Nat) (t : Text), chunksFrom n t ≠ []
  | 0, [] | _ + 1, [] => List.cons_ne_nil _ _
  | n + 1, _ :: t => chunksFrom_ne_nil n t
  | 0, c :: t => by
    rw [chunksFrom_zero_cons]
    split
    · exact List.cons_ne_nil _ _
    · cases chunksFrom 0 t <;> exact List.cons_ne_nil _ _

theorem splitAtLineEnds_ne_nil (t : Text) : splitAtLineEnds t ≠ [] := chunksFrom_ne_nil 0 t

/-- What follows the blanks does not matter for the newlines in them. -/
theorem newlineSpan?_append {c : Char} (hc : isBlank c = false) (u : Text) : ∀ t : Text,
    newlineSpan? (t ++ c :: u) = newlineSpan? t
  | [] => by simp [newlineSpan?, hc]
  | d :: t => by rw [List.cons_append, newlineSpan?, newlineSpan?, newlineSpan?_append hc u t]

/-- The newlines among the blanks at the start of a text end within the text, and the last of them is one. -/
theorem newlineSpan?_some : ∀ {t : Text} {n : Nat}, newlineSpan? t = some n →
    ∃ b u, t = b ++ '\n' :: u ∧ (∀ c ∈ b, isBlank c = true) ∧ n = b.length + 1
  | [], _, h => by cases h
  | c :: t, n, h => by
    rw [newlineSpan?] at h
    split at h
    · rename_i hc
      split at h
      · rename_i m hm
        obtain ⟨b, u, rfl, hb, rfl⟩ := newlineSpan?_some hm
        refine ⟨c :: b, u, rfl, ?_, (Option.some.inj h).symm⟩
        intro d hd
        rcases List.mem_cons.mp hd with rfl | hd
        · exact hc
        · exact hb d hd
      · split at h
        · rename_i hn
          exact ⟨[], t, by rw [hn]; rfl, fun d hd => (by cases hd), (Option.some.inj h).symm⟩
        · cases h
    · cases h

/-- The chunks of a text that goes on with a character other than a blank. -/
theorem chunksFrom_append {c : Char} (hc : isBlank c = false) (u : Text) : ∀ (n : Nat) (t : Text), n ≤ t.length →
    chunksFrom n (t ++ c :: u) = glue (chunksFrom n t) (chunksFrom 0 (c :: u))
  | 0, [], _ => (glue_nil_piece (chunksFrom_ne_nil 0 (c :: u))).symm
  | n + 1, d :: t, h => chunksFrom_append hc u n t (by simpa using h)
  | 0, d :: t, _ => by
    rw [List.cons_append, chunksFrom_zero_cons, chunksFrom_zero_cons, newlineSpan?_append hc]
    split
    · rename_i m hm
      obtain ⟨b, v, rfl, _, rfl⟩ := newlineSpan?_some (by split at hm; exact hm; cases hm)
      rw [chunksFrom_append hc u _ _ (by simp), glue_cons _ (chunksFrom_ne_nil _ _)]
    · rw [chunksFrom_append hc u 0 t (Nat.zero_le _), putFirst_glue d (chunksFrom_ne_nil 0 t)]

theorem splitAtLineEnds_append {c : Char} (hc : isBlank c = false) (t u : Text) :
    splitAtLineEnds (t ++ c :: u) = glue (splitAtLineEnds t) (splitAtLineEnds (c :: u)) :=
  chunksFrom_append hc u 0 t (Nat.zero_le _)

/-- A text in which no comma stands in front of blanks with a newline is one chunk. -/
theorem splitAtLineEnds_eq_singleton : ∀ t : Text,
    (∀ p b u, t = p ++ ',' :: (b ++ '\n' :: u) → ¬∀ c ∈ b, isBlank c = true) → splitAtLineEnds t = [t]
  | [], _ => rfl
  | c :: t, h => by
    have ih := splitAtLineEnds_eq_singleton t (fun p b u e => h (c :: p) b u (by rw [e]; rfl))
    unfold splitAtLineEnds at ih ⊢
    rw [chunksFrom_zero_cons, ih]
    split
    · rename_i n hn
      split at hn
      · rename_i hcomma
        obtain ⟨b, u, rfl, hb, _⟩ := newlineSpan?_some hn
        exact absurd hb (h [] b u (by rw [hcomma]; rfl))
      · cases hn
    · rfl

theorem newlineSpan?_isSome {b : Text} (hb : ∀ c ∈ b, isBlank c = true) (u : Text) :
    (newlineSpan? (b ++ '\n' :: u)).isSome = true := by
  induction b with
  | nil =>
    rw [List.nil_append, newlineSpan?, if_pos (by decide), if_pos rfl]
    split <;> rfl
  | cons c b ih =>
    rw [List.cons_append, newlineSpan?, if_pos (hb c List.mem_cons_self)]
    obtain ⟨n, hn⟩ := Option.isSome_iff_exists.mp (ih (fun d hd => hb d (List.mem_cons_of_mem c hd)))
    rw [hn]
    rfl

theorem splitAtLineEnds_of_length {t : Text} (h : (splitAtLineEnds t).length = 1) : splitAtLineEnds t = [t] := by
  induction t with
  | nil => rfl
  | cons c t ih =>
    rw [splitAtLineEnds, chunksFrom_zero_cons] at h ⊢
    split
    · rename_i n hn
      rw [hn, List.length_cons] at h
      have := List.length_pos_iff.mpr (chunksFrom_ne_nil n t)
      omega
    · rename_i hn
      rw [hn] at h
      obtain ⟨q, qs, hq⟩ := List.exists_cons_of_ne_nil (chunksFrom_ne_nil 0 t)
      rw [hq] at h ⊢
      have hone := ih (by rw [splitAtLineEnds, hq]; exact h)
      rw [splitAtLineEnds, hq] at hone
      rw [hone]
      rfl

/-- Two texts make up one chunk if they are one each, where the second starts with no blank. -/
theorem splitAtLineEnds_append_iff {c : Char} (hc : isBlank c = false) {t u : Text} :
    splitAtLineEnds (t ++ c :: u) = [t ++ c :: u] ↔
      splitAtLineEnds t = [t] ∧ splitAtLineEnds (c :: u) = [c :: u] := by
  constructor
  · intro h
    have hlength := glue_length (splitAtLineEnds_ne_nil t) (splitAtLineEnds_ne_nil (c :: u))
    have ht := List.length_pos_iff.mpr (splitAtLineEnds_ne_nil t)
    have hu := List.length_pos_iff.mpr (splitAtLineEnds_ne_nil (c :: u))
    rw [← splitAtLineEnds_append hc, h, List.length_singleton] at hlength
    exact ⟨splitAtLineEnds_of_length (by omega), splitAtLineEnds_of_length (by omega)⟩
  · rintro ⟨ht, hu⟩
    rw [splitAtLineEnds_append hc, ht, hu, glue]

/-- In one chunk, no comma stands in front of blanks with a newline. -/
theorem not_isBlank_of_splitAtLineEnds {t p b u : Text} (h : splitAtLineEnds t = [t])
    (ht : t = p ++ ',' :: (b ++ '\n' :: u)) : ¬∀ c ∈ b, isBlank c = true := by
  intro hb
  obtain ⟨n, hn⟩ := Option.isSome_iff_exists.mp (newlineSpan?_isSome hb u)
  have hcomma := ((splitAtLineEnds_append_iff (by decide)).mp (ht ▸ h)).2
  rw [splitAtLineEnds, chunksFrom_zero_cons, if_pos rfl, hn] at hcomma
  exact chunksFrom_ne_nil n _ (List.cons.inj hcomma).2

/-- A text without commas is one chunk, from wherever it is read. -/
theorem chunksFrom_no_comma : ∀ (n : Nat) {t : Text}, ',' ∉ t → chunksFrom n t = [t.drop n]
  | 0, [], _ | _ + 1, [], _ => rfl
  | n + 1, _ :: t, h => chunksFrom_no_comma n (fun hm => h (List.mem_cons_of_mem _ hm))
  | 0, c :: t, h => by
    have hc : ¬c = ',' := fun e => h (e ▸ List.mem_cons_self)
    rw [chunksFrom_zero_cons, if_neg hc, chunksFrom_no_comma 0 (fun hm => h (List.mem_cons_of_mem _ hm))]
    rfl

theorem comma_not_mem_blanks {b : Text} (hb : ∀ c ∈ b, isBlank c = true) : ',' ∉ b := by
  intro h
  have := hb ',' h
  revert this
  decide

theorem splitAtLineEnds_no_comma {t : Text} (h : ',' ∉ t) : splitAtLineEnds t = [t] := chunksFrom_no_comma 0 h

/-- A text on one line is one chunk. -/
theorem splitAtLineEnds_no_newline {t : Text} (h : '\n' ∉ t) : splitAtLineEnds t = [t] :=
  splitAtLineEnds_eq_singleton t (fun p b u e _ => h (e ▸ by simp))

/-! ## Texts that the scan leaves as it entered -/

/-- A text that is one piece, behind which the scan is where it was at the start. -/
structure Level (t : Text) : Prop where
  piece : scanPieces Scan.start t = [t]
  closed : Scan.start.run t = Scan.start

theorem Level.append {t u : Text} (ht : Level t) (hu : Level u) : Level (t ++ u) where
  piece := by rw [scanPieces_append, ht.piece, ht.closed, hu.piece, glue]
  closed := by rw [Scan.run_append, ht.closed, hu.closed]

/-- A character that the scan passes over outside quotes. -/
def isPlain (c : Char) : Bool := !Scan.isQuote c && c ≠ '(' && c ≠ ')' && c ≠ ','

/-- Outside quotes, the scan passes over a text of such characters. -/
theorem scan_of_isPlain {d : Int} : ∀ {t : Text}, (∀ c ∈ t, isPlain c = true) →
    scanPieces ⟨.none, d⟩ t = [t] ∧ Scan.run ⟨.none, d⟩ t = ⟨.none, d⟩
  | [], _ => ⟨rfl, rfl⟩
  | c :: t, h => by
    obtain ⟨hpieces, hrun⟩ := scan_of_isPlain (d := d) (fun a ha => h a (List.mem_cons_of_mem c ha))
    have hc := h c List.mem_cons_self
    simp only [isPlain, Bool.and_eq_true, Bool.not_eq_true', decide_eq_true_eq] at hc
    obtain ⟨⟨⟨hq, ho⟩, hcl⟩, hcomma⟩ := hc
    have hnext : Scan.next ⟨.none, d⟩ c = ⟨.none, d⟩ := by simp [Scan.next, hq, ho, hcl]
    refine ⟨?_, ?_⟩
    · rw [scanPieces_cons, if_neg (by simp [Scan.separates, hcomma]), hnext, hpieces]
      rfl
    · show (Scan.next ⟨.none, d⟩ c).run t = _
      rw [hnext, hrun]

theorem level_of_isPlain {t : Text} (h : ∀ c ∈ t, isPlain c = true) : Level t :=
  ⟨(scan_of_isPlain h).1, (scan_of_isPlain h).2⟩

theorem isPlain_of_isBlank {c : Char} (h : isBlank c = true) : isPlain c = true := by
  have hne : ∀ e, isBlank e = false → c ≠ e := fun e he hce => by rw [hce, he] at h; cases h
  simp [isPlain, Scan.isQuote, hne '\'' rfl, hne '"' rfl, hne '\x60' rfl, hne '(' rfl, hne ')' rfl, hne ',' rfl]

theorem isPlain_of_isWordChar {c : Char} (h : isWordChar c = true) : isPlain c = true := by
  have hne : ∀ e, isWordChar e = false → c ≠ e := fun e he hce => by rw [hce, he] at h; cases h
  have hall : ∀ e ∈ ['\'', '"', '\x60', '(', ')', ','], isWordChar e = false := by decide
  simp [isPlain, Scan.isQuote, hne _ (hall '\'' (by simp)), hne _ (hall '"' (by simp)), hne _ (hall '\x60' (by simp)),
    hne _ (hall '(' (by simp)), hne _ (hall ')' (by simp)), hne _ (hall ',' (by simp))]

theorem level_blanks {b : Text} (hb : ∀ c ∈ b, isBlank c = true) : Level b :=
  level_of_isPlain (fun c hc => isPlain_of_isBlank (hb c hc))

/-- Within quotes, a text with neither the quote nor a backslash changes nothing and is one piece. -/
theorem scan_within {q : Char} {d : Int} : ∀ {t : Text}, q ∉ t → '\\' ∉ t →
    scanPieces ⟨.within q, d⟩ t = [t] ∧ Scan.run ⟨.within q, d⟩ t = ⟨.within q, d⟩
  | [], _, _ => ⟨rfl, rfl⟩
  | c :: t, hq, hb => by
    obtain ⟨hpieces, hrun⟩ := scan_within (d := d) (fun h => hq (List.mem_cons_of_mem c h))
      (fun h => hb (List.mem_cons_of_mem c h))
    have hcq : ¬c = q := fun e => hq (e ▸ List.mem_cons_self)
    have hcb : ¬c = '\\' := fun e => hb (e ▸ List.mem_cons_self)
    have hnext : Scan.next ⟨.within q, d⟩ c = ⟨.within q, d⟩ := by simp [Scan.next, hcq, hcb]
    refine ⟨?_, ?_⟩
    · rw [scanPieces_cons, if_neg (by simp [Scan.separates]), hnext, hpieces]
      rfl
    · show (Scan.next ⟨.within q, d⟩ c).run t = _
      rw [hnext, hrun]

/-- A stretch in quotes is one piece, behind which the scan is where it was. -/
theorem scan_quoted {q : Char} (hquote : Scan.isQuote q = true) {d : Int} {t : Text} (hq : q ∉ t) (hb : '\\' ∉ t) :
    scanPieces ⟨.none, d⟩ (q :: (t ++ [q])) = [q :: (t ++ [q])] ∧
      Scan.run ⟨.none, d⟩ (q :: (t ++ [q])) = ⟨.none, d⟩ := by
  obtain ⟨hpieces, hrun⟩ := scan_within (d := d) hq hb
  have hne : ¬q = ',' ∧ ¬q = '\\' := by
    constructor <;> rintro rfl <;> cases hquote
  have hopen : Scan.next ⟨.none, d⟩ q = ⟨.within q, d⟩ := by simp [Scan.next, hquote]
  have hclose : Scan.next ⟨.within q, d⟩ q = ⟨.none, d⟩ := by simp [Scan.next, hne.2]
  refine ⟨?_, ?_⟩
  · rw [scanPieces_cons, if_neg (by simp [Scan.separates, hne.1]), hopen, scanPieces_append, hpieces, hrun,
      scanPieces_cons, if_neg (by simp [Scan.separates]), hclose]
    rfl
  · show (Scan.next ⟨.none, d⟩ q).run (t ++ [q]) = _
    rw [hopen, Scan.run_append, hrun]
    exact hclose

/-- A stretch in parentheses without quotes or further parentheses is one piece. -/
theorem level_parens {t : Text} (h : ∀ c ∈ t, isPlain c = true ∨ c = ',') : Level ('(' :: (t ++ [')'])) := by
  have hinner : ∀ {t : Text}, (∀ c ∈ t, isPlain c = true ∨ c = ',') →
      scanPieces ⟨.none, 1⟩ t = [t] ∧ Scan.run ⟨.none, 1⟩ t = ⟨.none, 1⟩ := by
    intro t
    induction t with
    | nil => exact fun _ => ⟨rfl, rfl⟩
    | cons c t ih =>
      intro h
      obtain ⟨hpieces, hrun⟩ := ih (fun d hd => h d (List.mem_cons_of_mem c hd))
      have hnext : Scan.next ⟨.none, 1⟩ c = ⟨.none, 1⟩ := by
        rcases h c List.mem_cons_self with hc | rfl
        · simp only [isPlain, Bool.and_eq_true, Bool.not_eq_true', decide_eq_true_eq] at hc
          simp [Scan.next, hc.1.1.1, hc.1.1.2, hc.1.2]
        · rfl
      refine ⟨?_, ?_⟩
      · rw [scanPieces_cons, if_neg (by simp [Scan.separates]), hnext, hpieces]
        rfl
      · show (Scan.next ⟨.none, 1⟩ c).run t = _
        rw [hnext, hrun]
  obtain ⟨hpieces, hrun⟩ := hinner h
  refine ⟨?_, ?_⟩
  · rw [scanPieces_cons, if_neg (by decide), show Scan.start.next '(' = ⟨.none, 1⟩ from rfl, scanPieces_append, hpieces,
      hrun]
    rfl
  · show Scan.run ⟨.none, 1⟩ (t ++ [')']) = _
    rw [Scan.run_append, hrun]
    rfl

/-! ## Lines -/

/-- The lines of a chunk: its pieces, trimmed, without blank ones. -/
def chunkLines (chunk : Text) : List Text := ((scanPieces Scan.start chunk).map trim).filter (!·.isEmpty)

/-- A last piece that is empty gives no line. -/
theorem lines_dropEmptyLast : ∀ ps : List Text,
    ((dropEmptyLast ps).map trim).filter (!·.isEmpty) = (ps.map trim).filter (!·.isEmpty)
  | [] => rfl
  | [[]] | [_ :: _] => rfl
  | p :: q :: ps => by
    have ih := lines_dropEmptyLast (q :: ps)
    rw [dropEmptyLast, List.map_cons, List.filter_cons, ih, List.map_cons (l := q :: ps), List.filter_cons]
    exact List.cons_ne_nil q ps

/-- The lines of a body, chunk by chunk. -/
theorem bodyLines_eq (body : Text) : bodyLines body = (splitAtLineEnds body).flatMap chunkLines := by
  unfold bodyLines
  induction splitAtLineEnds body with
  | nil => rfl
  | cons chunk chunks ih =>
    rw [List.flatMap_cons, List.map_append, List.filter_append, ih, List.flatMap_cons, splitTopLevel,
      lines_dropEmptyLast, chunkLines]

theorem chunkLines_of_ne {p : Text} {ps : List Text} {chunk : Text} (h : scanPieces Scan.start chunk = p :: ps)
    (hp : trim p ≠ []) : chunkLines chunk = trim p :: (ps.map trim).filter (!·.isEmpty) := by
  have hne : (!(trim p).isEmpty) = true := by simpa using hp
  rw [chunkLines, h, List.map_cons, List.filter_cons, if_pos hne]

/-! ## Pieces -/

/-- A text that starts with no blank, that neither cut divides, and that the scan leaves as it entered. -/
structure Piece (t : Text) : Prop extends Level t where
  chunk : splitAtLineEnds t = [t]
  start : ∃ c u, t = c :: u ∧ isBlank c = false

/-- A text, and further texts with blanks in front of them, with commas between neighbours. -/
def joinPieces (first : Text) : List (Text × Text) → Text
  | [] => first
  | (blanks, next) :: rest => first ++ ',' :: (blanks ++ joinPieces next rest)

/-- A text that neither cut divides is one line. -/
theorem bodyLines_singleton {t : Text} (hchunk : splitAtLineEnds t = [t]) (hpiece : scanPieces Scan.start t = [t])
    (hne : trim t ≠ []) : bodyLines t = [trim t] := by
  rw [bodyLines_eq, hchunk, List.flatMap_cons, List.flatMap_nil, List.append_nil, chunkLines_of_ne hpiece hne]
  rfl

theorem joinPieces_start {first : Text} (h : Piece first) (rest : List (Text × Text)) :
    ∃ c u, joinPieces first rest = c :: u ∧ isBlank c = false := by
  obtain ⟨c, u, rfl, hc⟩ := h.start
  cases rest with
  | nil => exact ⟨c, u, rfl, hc⟩
  | cons x rest => exact ⟨c, _, rfl, hc⟩

/-- Behind a piece, its comma and blanks, the chunks go on in one of two ways: they start again behind the last newline
of the blanks, or the chunk of the piece goes on if there is none. -/
theorem splitAtLineEnds_comma {p b u : Text} {c : Char} (hp : splitAtLineEnds p = [p])
    (hb : ∀ d ∈ b, isBlank d = true) (hc : isBlank c = false) :
    (∃ n, splitAtLineEnds (p ++ ',' :: (b ++ c :: u)) = p :: glue [b.drop n] (splitAtLineEnds (c :: u))) ∨
      splitAtLineEnds (p ++ ',' :: (b ++ c :: u)) = glue [p ++ ',' :: b] (splitAtLineEnds (c :: u)) := by
  have hne := splitAtLineEnds_ne_nil (c :: u)
  have hchunks : ∀ n ≤ b.length, chunksFrom n (b ++ c :: u) = glue [b.drop n] (splitAtLineEnds (c :: u)) := by
    intro n hn
    rw [chunksFrom_append hc u n b hn, chunksFrom_no_comma n (comma_not_mem_blanks hb)]
    rfl
  have hcomma : splitAtLineEnds (',' :: (b ++ c :: u)) =
      match newlineSpan? b with
      | some n => [] :: chunksFrom n (b ++ c :: u)
      | none => putFirst ',' (chunksFrom 0 (b ++ c :: u)) := by
    rw [splitAtLineEnds, chunksFrom_zero_cons, if_pos rfl, newlineSpan?_append hc]
  rw [splitAtLineEnds_append (by decide), hp, hcomma]
  cases hn : newlineSpan? b with
  | some n =>
    left
    obtain ⟨b₁, b₂, rfl, _, rfl⟩ := newlineSpan?_some hn
    refine ⟨b₁.length + 1, ?_⟩
    simp only [hchunks (b₁.length + 1) (by simp)]
    rw [glue, List.append_nil]
  | none =>
    right
    simp only [hchunks 0 (Nat.zero_le _), List.drop_zero]
    rw [putFirst_glue ',' (List.cons_ne_nil _ _), putFirst, glue_glue_one _ _ hne]

/-- The first line of a chunk that starts with a piece and its comma. -/
theorem chunkLines_comma {b p : Text} (hb : ∀ c ∈ b, isBlank c = true) (hp : Piece p) (u : Text) :
    chunkLines (b ++ (p ++ ',' :: u)) = trim p :: chunkLines u := by
  obtain ⟨c, v, hv, hc⟩ := hp.start
  have hblank := (level_blanks hb).append hp.toLevel
  have hpieces : scanPieces Scan.start (b ++ (p ++ ',' :: u)) = (b ++ p) :: scanPieces Scan.start u := by
    rw [← List.append_assoc, scanPieces_append, hblank.piece, hblank.closed, scanPieces_cons, if_pos (by decide)]
    simp [glue]
  have hne : trim (b ++ p) ≠ [] := by rw [trim_append_blanks hb, hv]; exact trim_ne_nil hc v
  rw [chunkLines_of_ne hpieces hne, trim_append_blanks hb]
  rfl

/-- The only line of a chunk that is a piece. -/
theorem chunkLines_piece {b p : Text} (hb : ∀ c ∈ b, isBlank c = true) (hp : Piece p) :
    chunkLines (b ++ p) = [trim p] := by
  obtain ⟨c, v, hv, hc⟩ := hp.start
  have hblank := (level_blanks hb).append hp.toLevel
  have hne : trim (b ++ p) ≠ [] := by rw [trim_append_blanks hb, hv]; exact trim_ne_nil hc v
  rw [chunkLines_of_ne hblank.piece hne, trim_append_blanks hb]
  rfl

/-- The lines of pieces that are joined by commas, in a chunk that starts with blanks. -/
theorem lines_joinPieces {first : Text} {rest : List (Text × Text)} (hp : Piece first)
    (hrest : ∀ x ∈ rest, (∀ c ∈ x.1, isBlank c = true) ∧ Piece x.2) :
    ∀ b : Text, (∀ c ∈ b, isBlank c = true) →
      (glue [b] (splitAtLineEnds (joinPieces first rest))).flatMap chunkLines =
        (first :: rest.map (·.2)).map trim := by
  induction rest generalizing first with
  | nil =>
    intro b hb
    rw [joinPieces, hp.chunk, glue, List.flatMap_cons, List.flatMap_nil, chunkLines_piece hb hp]
    rfl
  | cons x rest ih =>
    intro b hb
    obtain ⟨gap, next⟩ := x
    obtain ⟨hgap, hnext⟩ := hrest (gap, next) List.mem_cons_self
    have hlines := ih hnext (fun y hy => hrest y (List.mem_cons_of_mem _ hy))
    obtain ⟨c, u, hcu, hc⟩ := joinPieces_start hnext rest
    rw [joinPieces, hcu]
    rw [hcu] at hlines
    have hne := splitAtLineEnds_ne_nil (c :: u)
    rcases splitAtLineEnds_comma (u := u) hp.chunk hgap hc with ⟨n, h⟩ | h
    · -- the chunk ends with the first piece
      have := hlines (gap.drop n) (fun d hd => hgap d (List.mem_of_mem_drop hd))
      rw [h, glue, List.flatMap_cons, this, chunkLines_piece hb hp]
      rfl
    · -- the chunk goes on with the next piece
      obtain ⟨q, qs, hq⟩ := List.exists_cons_of_ne_nil hne
      have := hlines gap hgap
      rw [hq, glue, List.flatMap_cons] at this
      rw [h, glue_glue_one _ _ hne, hq, glue, List.flatMap_cons, List.append_assoc, List.append_assoc,
        List.cons_append, chunkLines_comma hb hp, List.cons_append, this]
      rfl

/-- Pieces that are joined by commas fall apart into the pieces again, trimmed. -/
theorem bodyLines_joinPieces {first : Text} {rest : List (Text × Text)} (hp : Piece first)
    (hrest : ∀ x ∈ rest, (∀ c ∈ x.1, isBlank c = true) ∧ Piece x.2) :
    bodyLines (joinPieces first rest) = (first :: rest.map (·.2)).map trim := by
  have h := lines_joinPieces hp hrest [] (fun _ h => nomatch h)
  rwa [glue_nil_piece (splitAtLineEnds_ne_nil _), ← bodyLines_eq] at h

end StructForge.Sql
