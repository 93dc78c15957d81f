import StructForge.Proofs.Text.Readers

/-!
# Lines and words

Splitting is that of the standard library (`splitWhere_eq_splitOnP`), so that the lines of texts with a newline between
them are those of the texts, one after another (`lines_append`, `lines_join`), splitting undoes joining (`splitOn_join`),
and no blank is left in a word (`isBlank_of_mem_words`). What texts are joined to starts like the first of them and ends like
the last one (`head?_join`, `getLast?_join`).

A text *ends in ink* if its last character is no blank; what stands in front of it does not matter (`EndsInk.append`).
-/

namespace StructForge.Text

/-! ## Lines -/

theorem splitWhere_eq_splitOnP (p : Char → Bool) (t : Text) : splitWhere p t = List.splitOnP p t := by
  induction t with
  | nil => rfl
  | cons c t ih =>
    rw [splitWhere, List.splitOnP_cons_eq_if_modifyHead, ← ih]
    split
    · rfl
    · cases h : splitWhere p t with
      | nil => exact absurd h (splitWhere_ne_nil p t)
      | cons piece rest => rfl

/-- The last piece of a text goes on with the first piece of what follows. -/
theorem exists_splitWhere_append (p : Char → Bool) : ∀ t u : Text, ∃ front last first back,
    splitWhere p t = front ++ [last] ∧ splitWhere p u = first :: back ∧
      splitWhere p (t ++ u) = front ++ (last ++ first) :: back
  | [], u => by
    obtain ⟨first, back, hu⟩ := List.exists_cons_of_ne_nil (splitWhere_ne_nil p u)
    exact ⟨[], [], first, back, rfl, hu, hu⟩
  | c :: t, u => by
    obtain ⟨front, last, first, back, ht, hu, happend⟩ := exists_splitWhere_append p t u
    by_cases hc : p c
    · have hpiece : ∀ v, splitWhere p (c :: v) = [] :: splitWhere p v := fun v => by rw [splitWhere, if_pos hc]
      refine ⟨[] :: front, last, first, back, ?_, hu, ?_⟩
      · rw [hpiece, ht, List.cons_append]
      · rw [List.cons_append, hpiece, happend, List.cons_append]
    · have hpiece : ∀ {v piece rest}, splitWhere p v = piece :: rest → splitWhere p (c :: v) = (c :: piece) :: rest := by
        intro v piece rest hv
        rw [splitWhere, if_neg hc, hv]
      cases front with
      | nil => exact ⟨[], c :: last, first, back, hpiece ht, hu, hpiece happend⟩
      | cons piece front => exact ⟨(c :: piece) :: front, last, first, back, hpiece ht, hu, hpiece happend⟩

/-- A separator ends a piece. -/
theorem splitOn_append_cons (sep : Char) (t u : Text) : splitOn sep (t ++ sep :: u) = splitOn sep t ++ splitOn sep u := by
  simp only [splitOn, splitWhere_eq_splitOnP]
  exact List.splitOnP_append_cons t u (beq_self_eq_true sep)

/-- A text without separators is one piece. -/
theorem splitOn_eq_singleton {sep : Char} {t : Text} (h : sep ∉ t) : splitOn sep t = [t] :=
  (splitWhere_eq_splitOnP _ t).trans (List.splitOn_eq_singleton h)

/-- A newline ends a line. -/
theorem lines_append (t u : Text) : lines (t ++ '\n' :: u) = lines t ++ lines u := splitOn_append_cons '\n' t u

/-- A text without newlines is one line. -/
theorem lines_eq_singleton {t : Text} (h : '\n' ∉ t) : lines t = [t] := splitOn_eq_singleton h

theorem lines_join : ∀ {pieces : List Text}, pieces ≠ [] → lines (join "\n" pieces) = pieces.flatMap lines
  | [piece], _ => by simp [join]
  | piece :: next :: rest, _ => by
    have ih := lines_join (List.cons_ne_nil next rest)
    have hjoin : join "\n" (piece :: next :: rest) = piece ++ '\n' :: join "\n" (next :: rest) := by simp [join]
    rw [hjoin, lines_append, ih, ← List.flatMap_cons]

theorem flatMap_lines_of_not_mem {pieces : List Text} (h : ∀ piece ∈ pieces, '\n' ∉ piece) :
    pieces.flatMap lines = pieces := by
  induction pieces with
  | nil => rfl
  | cons piece rest ih =>
    rw [List.forall_mem_cons] at h
    rw [List.flatMap_cons, lines_eq_singleton h.1, ih h.2, List.singleton_append]

/-- A newline behind the last line opens one more, which is empty. -/
theorem lines_join_newline {pieces : List Text} (hne : pieces ≠ []) :
    lines (join "\n" pieces ++ "\n") = pieces.flatMap lines ++ [[]] := by
  have happend := lines_append (join "\n" pieces) []
  rw [lines_join hne] at happend
  exact happend

/-! ## Joining -/

theorem join_append_of_ne_nil (sep : Text) {xs ys : List Text} (hx : xs ≠ []) (hy : ys ≠ []) :
    join sep (xs ++ ys) = join sep xs ++ sep ++ join sep ys := by
  induction xs with
  | nil => exact absurd rfl hx
  | cons x xs ih =>
    rw [List.cons_append, join_cons_of_ne_nil sep x (List.append_ne_nil_of_right_ne_nil xs hy)]
    cases xs with
    | nil => rfl
    | cons x' xs =>
      rw [ih (List.cons_ne_nil x' xs), join_cons_of_ne_nil sep x (List.cons_ne_nil x' xs)]
      simp only [List.append_assoc]

theorem join_eq_intercalate (sep : Text) : ∀ pieces : List Text, join sep pieces = sep.intercalate pieces
  | [] => rfl
  | [piece] => (List.intercalate_singleton ..).symm
  | piece :: next :: rest => by
    rw [join_cons_of_ne_nil sep piece (List.cons_ne_nil next rest), List.intercalate_cons_cons,
      join_eq_intercalate sep (next :: rest)]

/-- Splitting undoes joining where no piece has the separator. -/
theorem splitOn_join {sep : Char} {pieces : List Text} (hne : pieces ≠ []) (h : ∀ piece ∈ pieces, sep ∉ piece) :
    splitOn sep (join [sep] pieces) = pieces := by
  rw [join_eq_intercalate, splitOn, splitWhere_eq_splitOnP]
  exact List.splitOn_intercalate sep h hne

theorem mem_join {sep : Text} {c : Char} : ∀ {pieces : List Text}, c ∈ join sep pieces →
    c ∈ sep ∨ ∃ piece ∈ pieces, c ∈ piece
  | [piece], h => .inr ⟨piece, List.mem_cons_self, h⟩
  | piece :: next :: rest, h => by
    rw [join_cons_of_ne_nil sep piece (List.cons_ne_nil next rest), List.mem_append, List.mem_append] at h
    obtain (h | h) | h := h
    · exact .inr ⟨piece, List.mem_cons_self, h⟩
    · exact .inl h
    · exact (mem_join h).imp_right fun ⟨p, hp, hc⟩ => ⟨p, List.mem_cons_of_mem piece hp, hc⟩

theorem not_mem_join {sep : Text} {c : Char} {pieces : List Text} (hsep : c ∉ sep) (h : ∀ piece ∈ pieces, c ∉ piece) :
    c ∉ join sep pieces := by
  intro hmem
  rcases mem_join hmem with hmem | ⟨piece, hpiece, hmem⟩
  · exact hsep hmem
  · exact h piece hpiece hmem

theorem map_join (f : Char → Char) (sep : Text) : ∀ pieces : List Text,
    (join sep pieces).map f = join (sep.map f) (pieces.map (·.map f))
  | [] => rfl
  | [_] => rfl
  | piece :: next :: rest => by
    have ih := map_join f sep (next :: rest)
    simp only [join, List.map_append, List.map_cons] at ih ⊢
    rw [ih]

theorem head?_join (sep : Text) {first : Text} (h : first ≠ []) (rest : List Text) :
    (join sep (first :: rest)).head? = first.head? := by
  obtain ⟨c, t, rfl⟩ := List.exists_cons_of_ne_nil h
  cases rest <;> rfl

theorem getLast?_join (sep : Text) (front : List Text) {last : Text} (h : last ≠ []) :
    (join sep (front ++ [last])).getLast? = last.getLast? := by
  by_cases hfront : front = []
  · subst hfront
    rfl
  · have hlast := List.getLast?_eq_some_getLast h
    simp [join_append_of_ne_nil sep hfront, join, hlast]

/-! ## Words -/

/-- Splitting a text leaves out the characters it is split at, and nothing else. -/
theorem flatten_splitWhere (p : Char → Bool) (t : Text) : (splitWhere p t).flatten = t.filter (!p ·) := by
  induction t with
  | nil => rfl
  | cons d t ih =>
    obtain ⟨first, rest, hsplit⟩ := List.exists_cons_of_ne_nil (splitWhere_ne_nil p t)
    rw [hsplit] at ih
    cases hd : p d with
    | true => simp [splitWhere, hd, hsplit, ← ih]
    | false => simp [splitWhere, hd, hsplit, ← ih]

theorem not_of_mem_splitWhere {p : Char → Bool} {t piece : Text} (h : piece ∈ splitWhere p t) {c : Char}
    (hc : c ∈ piece) : p c = false := by
  have hmem : c ∈ (splitWhere p t).flatten := List.mem_flatten.mpr ⟨piece, h, hc⟩
  rw [flatten_splitWhere] at hmem
  simpa using (List.mem_filter.mp hmem).2

/-- The runs of a text, one after another, are its characters of the kind. -/
theorem flatten_runsOf (p : Char → Bool) (t : Text) : (runsOf p t).flatten = t.filter p := by
  rw [runsOf, List.flatten_filter_not_isEmpty, flatten_splitWhere]
  simp

/-- A run has at least one character, and all of them are of the kind. -/
theorem of_mem_runsOf {p : Char → Bool} {t run : Text} (h : run ∈ runsOf p t) : run ≠ [] ∧ ∀ c ∈ run, p c = true := by
  obtain ⟨hmem, hne⟩ := List.mem_filter.mp h
  refine ⟨by simpa using hne, fun c hc => ?_⟩
  simpa using not_of_mem_splitWhere hmem hc

theorem isBlank_of_mem_words {t word : Text} (h : word ∈ words t) : word ≠ [] ∧ ∀ c ∈ word, isBlank c = false := by
  obtain ⟨hne, hchars⟩ := of_mem_runsOf h
  exact ⟨hne, fun c hc => by simpa using hchars c hc⟩

/-! ## Ends of texts -/

/-- A text that ends in something other than a blank. -/
def EndsInk (t : Text) : Prop := ∃ v c, t = v ++ [c] ∧ isBlank c = false

theorem EndsInk.ne_nil {t : Text} (h : EndsInk t) : t ≠ [] := by
  obtain ⟨v, c, rfl, -⟩ := h
  simp

theorem EndsInk.append {t : Text} (h : EndsInk t) (u : Text) : EndsInk (u ++ t) := by
  obtain ⟨v, c, rfl, hc⟩ := h
  exact ⟨u ++ v, c, (List.append_assoc ..).symm, hc⟩

/-- A text without blanks. -/
theorem endsInk_of_forall {t : Text} (hne : t ≠ []) (h : ∀ c ∈ t, isBlank c = false) : EndsInk t := by
  obtain rfl | ⟨v, c, rfl⟩ := List.eq_nil_or_concat t
  · exact absurd rfl hne
  · rw [List.concat_eq_append] at h ⊢
    exact ⟨v, c, rfl, h c (List.mem_append_right v List.mem_cons_self)⟩

theorem endsInk_of_isWordChar {w : Text} (hne : w ≠ []) (hw : ∀ c ∈ w, isWordChar c = true) : EndsInk w :=
  endsInk_of_forall hne fun c hc => isBlank_of_isWordChar (hw c hc)

/-- A text is not trimmed if neither its first nor its last character is to be. -/
theorem trimWhere_eq_self {p : Char → Bool} {t : Text} (hfirst : ∀ c ∈ t.head?, p c = false)
    (hlast : ∀ c ∈ t.getLast?, p c = false) : trimWhere p t = t := by
  obtain rfl | ⟨v, d, rfl⟩ := List.eq_nil_or_concat t
  · rfl
  · rw [List.concat_eq_append] at hfirst hlast ⊢
    have hd : p d = false := hlast d (by simp)
    have hstart : (v ++ [d]).dropWhile p = v ++ [d] := by
      cases v with
      | nil => simp [hd]
      | cons c v => simp [hfirst c rfl]
    rw [trimWhere, hstart, dropEndWhile_stop hd]
    rfl

/-- What starts and ends in ink is trimmed. -/
theorem trim_of_ends {t : Text} (hfirst : ∀ c ∈ t.head?, isBlank c = false) (hlast : EndsInk t) : trim t = t := by
  obtain ⟨v, d, rfl, hd⟩ := hlast
  exact trimWhere_eq_self hfirst (by simpa using hd)

/-- A text between characters that are no blanks is trimmed already. -/
theorem trim_eq_self {c : Char} {u : Text} (hc : isBlank c = false) (h : EndsInk (c :: u)) :
    trim (c :: u) = c :: u :=
  trim_of_ends (by simpa using hc) h

/-- Blanks behind what starts and ends in ink are trimmed away. -/
theorem trim_append_of_ends {c : Char} {u b : Text} (hc : isBlank c = false) (h : EndsInk (c :: u))
    (hb : ∀ a ∈ b, isBlank a = true) : trim (c :: u ++ b) = c :: u := by
  obtain ⟨v, d, hv, hd⟩ := h
  rw [trim, List.cons_append, List.dropWhile_cons_of_neg (by rw [hc]; exact Bool.false_ne_true), ← List.cons_append, hv,
    List.append_assoc, List.singleton_append, dropEndWhile_stop hd, dropEndWhile_eq_nil hb]

theorem trim_of_forall {t : Text} (h : ∀ c ∈ t, isBlank c = false) : trim t = t := by
  cases t with
  | nil => rfl
  | cons c t => exact trim_eq_self (h c List.mem_cons_self) (endsInk_of_forall (List.cons_ne_nil c t) h)

theorem EndsInk.join {sep : Text} : ∀ {pieces : List Text}, pieces ≠ [] → (∀ piece ∈ pieces, EndsInk piece) →
    EndsInk (join sep pieces)
  | [piece], _, h => h piece List.mem_cons_self
  | piece :: next :: rest, _, h => by
    rw [join_cons_of_ne_nil sep piece (List.cons_ne_nil next rest)]
    exact (EndsInk.join (List.cons_ne_nil next rest) fun p hp => h p (List.mem_cons_of_mem piece hp)).append _

end StructForge.Text
