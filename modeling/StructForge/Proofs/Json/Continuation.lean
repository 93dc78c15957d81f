import Mathlib.Data.List.Find
import StructForge.Json.Reader
import StructForge.Proofs.Text.Readers

/-!
# Values in front of blanks

What the readers of JSON find does not depend on where in the text it stands, nor on blanks behind the text.
`Continues b` relates a reading to one with the further text `b` behind it: both fail, or both give the same value, and
the second one leaves `b` behind what the first one leaves.

Blanks close no string (`readString_append`) and continue neither a number nor a word (`readNumber_append`,
`readScalar_append`). Elements and members keep what the reader of their values keeps (`readElements_append`,
`readMembers_append`), which gives the same for values (`readValue_append`).
-/

namespace StructForge.Json

open Text

/-! ## Readings that go on -/

/-- The second reading goes as the first one does, and leaves the further text behind what the first one leaves. -/
inductive Continues {α : Type} (b : Text) : Except Refusal (α × Cursor) → Except Refusal (α × Cursor) → Prop
  | error (e e' : Refusal) : Continues b (.error e) (.error e')
  | ok (a : α) {c c' : Cursor} (h : c'.rest = c.rest ++ b) : Continues b (.ok (a, c)) (.ok (a, c'))

namespace Continues

variable {α β : Type} {b : Text} {r r' : Except Refusal (α × Cursor)}

theorem bind {k k' : α × Cursor → Except Refusal (β × Cursor)} (h : Continues b r r')
    (hk : ∀ a c c', c'.rest = c.rest ++ b → Continues b (k (a, c)) (k' (a, c'))) :
    Continues b (r >>= k) (r' >>= k') := by
  cases h with
  | error e e' => exact .error e e'
  | ok a h => exact hk a _ _ h

theorem map (f : α → β) (h : Continues b r r') :
    Continues b (r.map fun p => (f p.1, p.2)) (r'.map fun p => (f p.1, p.2)) := by
  cases h with
  | error e e' => exact .error e e'
  | ok a h => exact .ok (f a) h

end Continues

/-! ## Cursors -/

theorem one_le_length {c : Cursor} (h : c.rest ≠ []) : 1 ≤ c.rest.length := List.length_pos_iff.mpr h

theorem sees_of_nil {c : Cursor} (h : c.rest = []) (char : Char) : c.sees char = false := by
  simp [Cursor.sees, h]

theorem rest_ne_nil_of_sees {c : Cursor} {char : Char} (h : c.sees char = true) : c.rest ≠ [] := fun hnil => by
  rw [sees_of_nil hnil] at h
  cases h

theorem skipSpace_rest (c : Cursor) : c.skipSpace.rest = c.rest.dropWhile Cursor.isSpace :=
  calc c.rest.drop (c.rest.takeWhile Cursor.isSpace).length
    _ = (c.rest.takeWhile Cursor.isSpace ++ c.rest.dropWhile Cursor.isSpace).drop
          (c.rest.takeWhile Cursor.isSpace).length := by rw [List.takeWhile_append_dropWhile]
    _ = c.rest.dropWhile Cursor.isSpace := List.drop_left

theorem advance_append {b : Text} {c c' : Cursor} (h : c'.rest = c.rest ++ b) {n : Nat} (hn : n ≤ c.rest.length) :
    (c'.advance n).rest = (c.advance n).rest ++ b := by
  rw [Cursor.advance, h, List.drop_append_of_le_length hn, Cursor.advance]

/-- In front of nothing but blanks, only blanks come next. -/
theorem sees_of_blanks {c : Cursor} (h : ∀ d ∈ c.rest, isBlank d = true) {char : Char} (hchar : isBlank char = false) :
    c.sees char = false := by
  cases hrest : c.rest with
  | nil => exact sees_of_nil hrest char
  | cons d t =>
    have hne : d ≠ char := ne_of_isBlank (h d (hrest ▸ List.mem_cons_self)) hchar
    simp [Cursor.sees, hrest, hne]

/-- Further blanks behind a cursor. At the end of its text, some of them may have been passed over. -/
def Extends (b : Text) (c c' : Cursor) : Prop :=
  c'.rest = c.rest ++ b ∨ c.rest = [] ∧ ∀ d ∈ c'.rest, isBlank d = true

theorem Extends.rest_eq {b : Text} {c c' : Cursor} (h : Extends b c c') (hne : c.rest ≠ []) :
    c'.rest = c.rest ++ b :=
  h.elim id fun h => absurd h.1 hne

section Blanks

variable {b : Text} (hb : ∀ c ∈ b, isBlank c = true) {c c' : Cursor}
include hb

/-- A function of texts that stops at blanks does not see blanks at the end. -/
theorem eq_append_blanks {α : Type} {f : Text → α} (h : ∀ {c}, isBlank c = true → ∀ t u, f (t ++ c :: u) = f t)
    (t : Text) : f (t ++ b) = f t := by
  cases b with
  | nil => rw [List.append_nil]
  | cons c b => exact h (hb c List.mem_cons_self) t b

theorem sees_append_blanks (h : c'.rest = c.rest ++ b) {char : Char} (hchar : isBlank char = false) :
    c'.sees char = c.sees char := by
  have hstop : ∀ {c}, isBlank c = true → ∀ t u : Text, ((t ++ c :: u).head? == some char) = (t.head? == some char) := by
    intro c hc t u
    cases t with
    | nil => simp [ne_of_isBlank hc hchar]
    | cons d t => rfl
  rw [Cursor.sees, h, eq_append_blanks hb (f := fun t => t.head? == some char) hstop, Cursor.sees]

theorem Extends.sees (h : Extends b c c') {char : Char} (hchar : isBlank char = false) :
    c'.sees char = c.sees char := by
  rcases h with h | ⟨hnil, hblanks⟩
  · exact sees_append_blanks hb h hchar
  · rw [sees_of_nil hnil, sees_of_blanks hblanks hchar]

/-- White space may reach into the further blanks where nothing else is left. -/
theorem extends_skipSpace (h : c'.rest = c.rest ++ b) : Extends b c.skipSpace c'.skipSpace := by
  rw [Extends, skipSpace_rest, skipSpace_rest, h, List.dropWhile_append]
  split
  · rename_i hnil
    exact .inr ⟨List.isEmpty_iff.mp hnil, fun d hd => hb d ((List.dropWhile_sublist _).subset hd)⟩
  · exact .inl rfl

end Blanks

/-! ## Strings -/

/-- A text without quotes closes no string. -/
theorem exists_error_of_quote_not_mem (start offset : Nat) (t : Text) (h : '"' ∉ t) :
    ∃ e, readCodePoints start offset t = .error e := by
  fun_induction readCodePoints start offset t with
  | case1 | case3 | case5 | case6 | case8 | case9 => exact ⟨_, rfl⟩
  | case2 => exact absurd List.mem_cons_self h
  | case4 offset a₁ a₂ a₃ a₄ e t n hn ih =>
    obtain ⟨e, he⟩ := ih fun hmem => h (List.mem_append_right ['\\', 'u', a₁, a₂, a₃, a₄] hmem)
    exact ⟨e, by rw [he]; rfl⟩
  | case7 offset c t _ hu char hchar ih =>
    obtain ⟨e, he⟩ := ih fun hmem => h (List.mem_append_right ['\\', c] hmem)
    exact ⟨e, by rw [he]; rfl⟩
  | case10 offset c t hquote hend _ _ hslash hcontrol ih =>
    obtain ⟨e, he⟩ := ih fun hmem => h (List.mem_cons_of_mem c hmem)
    exact ⟨e, by rw [he]; rfl⟩

/-- A numeric escape that is cut off is not made complete by a text without quotes. -/
theorem exists_error_of_cutEscape {b u : Text} (hb : '"' ∉ b) (hu : u.length < 5) (start offset : Nat) :
    ∃ e, readCodePoints start offset ('\\' :: 'u' :: (u ++ b)) = .error e := by
  match hv : u ++ b with
  | [] | [_] | [_, _] | [_, _, _] | [_, _, _, _] => exact ⟨_, rfl⟩
  | a₁ :: a₂ :: a₃ :: a₄ :: e :: t =>
    have htail : e :: t = b.drop (4 - u.length) := by
      have hdrop := congrArg (List.drop 4) hv
      rw [List.drop_append, List.drop_eq_nil_of_le (by omega)] at hdrop
      exact hdrop.symm
    simp only [readCodePoints]
    cases hexValue? [a₁, a₂, a₃, a₄] with
    | none => exact ⟨_, rfl⟩
    | some n =>
      obtain ⟨e', he⟩ := exists_error_of_quote_not_mem start (offset + 6) (e :: t) fun hmem =>
        hb ((List.drop_sublist _ _).subset (htail ▸ hmem))
      exact ⟨e', by simp only [he]; rfl⟩

theorem Continues.of_error {α : Type} {b : Text} (e : Refusal) {r : Except Refusal (α × Cursor)}
    (h : ∃ e', r = .error e') : Continues b (.error e) r := by
  obtain ⟨e', rfl⟩ := h
  exact .error e e'

/-- A letter behind a backslash. -/
theorem readCodePoints_escape {c : Char} (hu : c ≠ 'u') (start offset : Nat) (t : Text) :
    readCodePoints start offset ('\\' :: c :: t) =
      match escaped? c with
      | some char => (readCodePoints start (offset + 2) t).bind fun x => .ok (char.toNat :: x.1, x.2)
      | none => .error (.at .unknownEscape offset) := by
  rw [readCodePoints.eq_6 start offset c t (fun _ _ _ _ _ _ h _ => hu h) hu]
  cases escaped? c <;> rfl

/-- A character that stands for itself. -/
theorem readCodePoints_char {c : Char} (hquote : c ≠ '"') (hslash : c ≠ '\\') (start offset : Nat) (t : Text) :
    readCodePoints start offset (c :: t) =
      if c.toNat < 0x20 then .error (.at .controlCharacter offset)
      else (readCodePoints start (offset + 1) t).bind fun x => .ok (c.toNat :: x.1, x.2) :=
  readCodePoints.eq_7 start offset c t hquote (fun h => absurd h hslash) (fun _ _ _ _ _ _ h => absurd h hslash)
    (fun _ h => absurd h hslash) (fun _ _ h => absurd h hslash)

/-- What is neither a backslash at the end of a text nor one in front of something is none. -/
theorem ne_backslash {c : Char} {t : Text} (hend : c = '\\' → t = [] → False)
    (hslash : ∀ d u, c = '\\' → t = d :: u → False) : c ≠ '\\' := fun h => by
  cases t with
  | nil => exact hend h rfl
  | cons d u => exact hslash d u h rfl

theorem readCodePoints_append {b : Text} (hb : '"' ∉ b) (start start' offset : Nat) (t : Text) (offset' : Nat) :
    Continues b (readCodePoints start offset t) (readCodePoints start' offset' (t ++ b)) := by
  fun_induction readCodePoints start offset t generalizing offset' with
  | case1 => exact .of_error _ (exists_error_of_quote_not_mem _ _ _ hb)
  | case2 offset t => exact .ok [] rfl
  | case3 =>
    refine .of_error _ (exists_error_of_quote_not_mem _ _ _ ?_)
    exact fun hmem => hb ((List.mem_cons.mp hmem).resolve_left (by decide))
  | case4 offset a₁ a₂ a₃ a₄ e t n hn ih =>
    simp only [List.cons_append, readCodePoints, hn]
    exact (ih (offset' + 6)).bind fun rest c c' hc => .ok _ hc
  | case5 offset a₁ a₂ a₃ a₄ e t hn =>
    have hnone : hexValue? [a₁, a₂, a₃, a₄] = none := Option.eq_none_iff_forall_ne_some.mpr hn
    simp only [List.cons_append, readCodePoints, hnone]
    exact .error _ _
  | case6 offset u hu =>
    refine .of_error _ (exists_error_of_cutEscape hb ?_ _ _)
    match u, hu with
    | [], _ | [_], _ | [_, _], _ | [_, _, _], _ | [_, _, _, _], _ => simp
    | a₁ :: a₂ :: a₃ :: a₄ :: e :: t, hu => exact absurd rfl (hu a₁ a₂ a₃ a₄ e t)
  | case7 offset c t _ hu char hchar ih =>
    rw [List.cons_append, List.cons_append, readCodePoints_escape hu, hchar]
    exact (ih (offset' + 2)).bind fun rest c c' hc => .ok _ hc
  | case8 offset c t _ hu hnone =>
    rw [List.cons_append, List.cons_append, readCodePoints_escape hu, Option.eq_none_iff_forall_ne_some.mpr hnone]
    exact .error _ _
  | case9 offset c t hquote hend _ _ hslash hcontrol =>
    rw [List.cons_append, readCodePoints_char hquote (ne_backslash hend hslash), if_pos hcontrol]
    exact .error _ _
  | case10 offset c t hquote hend _ _ hslash hcontrol ih =>
    rw [List.cons_append, readCodePoints_char hquote (ne_backslash hend hslash), if_neg hcontrol]
    exact (ih (offset' + 1)).bind fun rest c c' hc => .ok _ hc

theorem quote_not_mem_blanks {b : Text} (hb : ∀ c ∈ b, isBlank c = true) : '"' ∉ b := fun hmem =>
  absurd (hb _ hmem) (by decide)

theorem readString_append {b : Text} (hb : ∀ c ∈ b, isBlank c = true) {c c' : Cursor} (h : c'.rest = c.rest ++ b) :
    Continues b (readString c) (readString c') := by
  rw [readString, readString, h]
  exact (readCodePoints_append (quote_not_mem_blanks hb) _ _ _ _ _).bind fun _ _ _ hc => .ok _ hc

/-! ## The parts of a number -/

section Stop

variable {c : Char} (hc : isBlank c = true)
include hc

theorem wholeDigits_stop (t u : Text) : wholeDigits (t ++ c :: u) = wholeDigits t := by
  have hdigit := isDigit_of_isBlank hc
  have hzero : c ≠ '0' := ne_of_isBlank hc (by decide)
  cases t with
  | nil => simp [wholeDigits, hzero, hdigit]
  | cons d t =>
    by_cases hd : d = '0'
    · simp [wholeDigits, hd]
    · have hdigits := takeWhile_stop hdigit u (d :: t)
      rw [List.cons_append] at hdigits
      simp [wholeDigits, hd, hdigits]

theorem fractionDigits_stop (t u : Text) : fractionDigits (t ++ c :: u) = fractionDigits t := by
  have hpoint : c ≠ '.' := ne_of_isBlank hc (by decide)
  cases t with
  | nil => simp [fractionDigits, hpoint]
  | cons d t =>
    by_cases hd : d = '.'
    · simp [fractionDigits, hd, takeWhile_stop (isDigit_of_isBlank hc)]
    · simp [fractionDigits, hd]

/-- The cases are those of the sign behind the letter of the exponent. -/
theorem readExponent_stop (t u : Text) : readExponent (t ++ c :: u) = readExponent t := by
  have hdigits : ∀ t, (t ++ c :: u).takeWhile Char.isDigit = t.takeWhile Char.isDigit :=
    takeWhile_stop (isDigit_of_isBlank hc) u
  match t with
  | [] =>
    have hexponent : ¬(c = 'e' ∨ c = 'E') := by
      rintro (h | h)
      · exact ne_of_isBlank hc (by decide) h
      · exact ne_of_isBlank hc (by decide) h
    simp [readExponent, hexponent]
  | [d] =>
    have hplus : c ≠ '+' := ne_of_isBlank hc (by decide)
    have hminus : c ≠ '-' := ne_of_isBlank hc (by decide)
    simp [readExponent, hplus, hminus, isDigit_of_isBlank hc]
  | d :: s :: t =>
    have hunsigned := hdigits (s :: t)
    rw [List.cons_append] at hunsigned
    by_cases hminus : s = '-'
    · simp [readExponent, hminus, hdigits]
    · by_cases hplus : s = '+'
      · simp [readExponent, hplus, hdigits]
      · simp [readExponent, hminus, hplus, hunsigned]

end Stop

theorem length_wholeDigits_le (t : Text) : (wholeDigits t).length ≤ t.length := by
  unfold wholeDigits
  split
  · simp
  · exact (List.takeWhile_sublist _).length_le

theorem length_fractionDigits_le (t : Text) :
    (if (fractionDigits t).isEmpty then 0 else 1 + (fractionDigits t).length) ≤ t.length := by
  unfold fractionDigits
  split
  · rename_i t
    have hle := (List.takeWhile_sublist Char.isDigit (l := t)).length_le
    split
    · exact Nat.zero_le _
    · simp only [List.length_cons]
      omega
  · exact Nat.zero_le _

theorem length_readExponent_le (t : Text) : (readExponent t).1 ≤ t.length := by
  unfold readExponent
  split
  · rename_i e t
    split
    · split
      rename_i sign negative hsign
      have hle := (List.takeWhile_sublist Char.isDigit (l := t.drop sign)).length_le
      rw [List.length_drop] at hle
      dsimp only
      split
      · exact Nat.zero_le _
      · rename_i hdigits
        have hpos := List.length_pos_iff.mpr fun hnil => hdigits (List.isEmpty_iff.mpr hnil)
        simp only [List.length_cons]
        omega
    · exact Nat.zero_le _
  · exact Nat.zero_le _

/-! ## Scalars -/

section Blanks

variable {b : Text} (hb : ∀ c ∈ b, isBlank c = true)
include hb

theorem startsWith_append_blanks {w : Text} (hw : ∀ c ∈ w, isBlank c = false) (t : Text) :
    startsWith (t ++ b) w = startsWith t w := by
  refine eq_append_blanks hb (f := (startsWith · w)) (fun {c} hc t u => ?_) t
  have hmem : c ∉ w := fun hm => by rw [hw c hm] at hc; cases hc
  rw [startsWith, afterPrefix?_stop hmem, Option.isSome_map, startsWith]

theorem readNumber_append {c c' : Cursor} (h : c'.rest = c.rest ++ b) : Continues b (readNumber c) (readNumber c') := by
  have hminus : c'.sees '-' = c.sees '-' := sees_append_blanks hb h (by decide)
  have hsign : (if c.sees '-' = true then 1 else 0) ≤ c.rest.length := by
    split
    · rename_i hs
      exact one_le_length (rest_ne_nil_of_sees hs)
    · exact Nat.zero_le _
  unfold readNumber
  simp only [hminus]
  generalize (if c.sees '-' = true then 1 else 0) = sign at *
  have hdrop : c'.rest.drop sign = c.rest.drop sign ++ b := by rw [h, List.drop_append_of_le_length hsign]
  have hwhole : wholeDigits (c'.rest.drop sign) = wholeDigits (c.rest.drop sign) := by
    rw [hdrop, eq_append_blanks hb (f := wholeDigits) wholeDigits_stop]
  have hlength : sign + (wholeDigits (c.rest.drop sign)).length ≤ c.rest.length := by
    have hle := length_wholeDigits_le (c.rest.drop sign)
    rw [List.length_drop] at hle
    omega
  rw [hwhole]
  split
  · exact .error _ _
  · -- the whole part, the fraction and the exponent are passed one after another
    have h₁ := advance_append h hlength
    generalize c.advance (sign + (wholeDigits (c.rest.drop sign)).length) = c₁ at *
    generalize c'.advance (sign + (wholeDigits (c.rest.drop sign)).length) = c₁' at *
    have hfraction : fractionDigits c₁'.rest = fractionDigits c₁.rest := by
      rw [h₁, eq_append_blanks hb (f := fractionDigits) fractionDigits_stop]
    have h₂ := advance_append h₁ (length_fractionDigits_le c₁.rest)
    rw [hfraction]
    generalize c₁.advance _ = c₂ at *
    generalize c₁'.advance _ = c₂' at *
    have hexponent : readExponent c₂'.rest = readExponent c₂.rest := by
      rw [h₂, eq_append_blanks hb (f := readExponent) readExponent_stop]
    have h₃ := advance_append h₂ (length_readExponent_le c₂.rest)
    rw [hexponent]
    generalize readExponent c₂.rest = e at *
    obtain ⟨length, exponent⟩ := e
    dsimp only
    split
    · split
      · exact .error _ _
      · exact .ok _ h₁
    · exact .ok _ h₃

theorem readScalar_append {c c' : Cursor} (h : c'.rest = c.rest ++ b) : Continues b (readScalar c) (readScalar c') := by
  have hquote : c'.sees '"' = c.sees '"' := sees_append_blanks hb h (by decide)
  unfold readScalar
  rw [hquote]
  split
  · rename_i hs
    exact (readString_append hb (advance_append h (one_le_length (rest_ne_nil_of_sees hs)))).map Json.string
  · have hfind : constants.find? (startsWith c'.rest ·.1) = constants.find? (startsWith c.rest ·.1) := by
      have hwords : ∀ e ∈ constants, ∀ d ∈ e.1, isBlank d = false := by decide
      rw [h]
      exact List.find?_congr fun e he => startsWith_append_blanks hb (hwords e he) c.rest
    rw [hfind]
    split
    · rename_i word value hword
      have hstarts : startsWith c.rest word = true :=
        List.find?_some (p := fun e : Text × Except Refusal Json => startsWith c.rest e.1) hword
      obtain ⟨r, hr⟩ := Option.isSome_iff_exists.mp hstarts
      have hlength : word.length ≤ c.rest.length := by
        rw [eq_append_of_afterPrefix? hr, List.length_append]
        exact Nat.le_add_right _ _
      cases value with
      | error e => exact .error e e
      | ok v => exact .ok v (advance_append h hlength)
    · exact readNumber_append hb h

end Blanks

/-! ## Elements and members -/

section Containers

variable {b : Text} (hb : ∀ c ∈ b, isBlank c = true) {read read' : Cursor → Except Refusal (Json × Cursor)}
  (hread : ∀ c c', Extends b c c' → Continues b (read c) (read' c'))
include hb hread

theorem readElements_append : ∀ {n : Nat} {c c' : Cursor}, Extends b c c' →
    Continues b (readElements read n c) (readElements read' n c')
  | 0, _, _, _ => .error _ _
  | n + 1, c, c', hc => by
    refine (hread c c' hc).bind fun element c c' hc => ?_
    have hspace := extends_skipSpace hb hc
    dsimp only
    generalize c.skipSpace = d at *
    generalize c'.skipSpace = d' at *
    have hclose : d'.sees ']' = d.sees ']' := hspace.sees hb (by decide)
    have hcomma : d'.sees ',' = d.sees ',' := hspace.sees hb (by decide)
    rw [hclose, hcomma]
    split
    · rename_i hs
      have hne := rest_ne_nil_of_sees hs
      exact .ok _ (advance_append (hspace.rest_eq hne) (one_le_length hne))
    · split
      · rename_i hs
        have hne := rest_ne_nil_of_sees hs
        have hnext := extends_skipSpace hb (advance_append (hspace.rest_eq hne) (one_le_length hne))
        exact (readElements_append hnext).bind fun _ _ _ hc => .ok _ hc
      · exact .error _ _

theorem readMembers_append : ∀ {n : Nat} {members : List (Text × Json)} {c c' : Cursor}, Extends b c c' →
    Continues b (readMembers read n members c) (readMembers read' n members c')
  | 0, _, _, _, _ => .error _ _
  | n + 1, members, c, c', hc => by
    have hquote : c'.sees '"' = c.sees '"' := hc.sees hb (by decide)
    rw [readMembers, readMembers, hquote]
    cases hs : c.sees '"' with
    | false => exact .error _ _
    | true =>
      -- the key
      have hne := rest_ne_nil_of_sees hs
      refine (readString_append hb (advance_append (hc.rest_eq hne) (one_le_length hne))).bind fun key c c' hc => ?_
      have hspace := extends_skipSpace hb hc
      dsimp only
      generalize c.skipSpace = d at *
      generalize c'.skipSpace = d' at *
      have hcolon : d'.sees ':' = d.sees ':' := hspace.sees hb (by decide)
      rw [hcolon]
      cases hs : d.sees ':' with
      | false => exact .error _ _
      | true =>
        -- the value
        have hne := rest_ne_nil_of_sees hs
        have hnext := extends_skipSpace hb (advance_append (hspace.rest_eq hne) (one_le_length hne))
        refine (hread _ _ hnext).bind fun value c c' hc => ?_
        have hspace := extends_skipSpace hb hc
        dsimp only
        generalize c.skipSpace = d at *
        generalize c'.skipSpace = d' at *
        have hclose : d'.sees '\x7d' = d.sees '\x7d' := hspace.sees hb (by decide)
        have hcomma : d'.sees ',' = d.sees ',' := hspace.sees hb (by decide)
        rw [hclose, hcomma]
        split
        · rename_i hs
          have hne := rest_ne_nil_of_sees hs
          exact .ok _ (advance_append (hspace.rest_eq hne) (one_le_length hne))
        · split
          · rename_i hs
            have hne := rest_ne_nil_of_sees hs
            exact readMembers_append (extends_skipSpace hb (advance_append (hspace.rest_eq hne) (one_le_length hne)))
          · exact .error _ _

end Containers

/-! ## Values -/

/-- Where no reader of a value succeeds: in front of a character that starts none. -/
structure NoValue (c : Cursor) : Prop where
  quote : c.sees '"' = false
  bracket : c.sees '[' = false
  brace : c.sees '\x7b' = false
  minus : c.sees '-' = false
  word : constants.find? (startsWith c.rest ·.1) = none
  digit : wholeDigits c.rest = []

theorem NoValue.of_nil {c : Cursor} (h : c.rest = []) : NoValue c where
  quote := sees_of_nil h _
  bracket := sees_of_nil h _
  brace := sees_of_nil h _
  minus := sees_of_nil h _
  word := by rw [h]; rfl
  digit := by rw [h]; rfl

/-- No value starts with a blank. -/
theorem NoValue.of_isBlank {c : Cursor} {d : Char} {t : Text} (h : c.rest = d :: t) (hd : isBlank d = true) :
    NoValue c := by
  have hsees : ∀ {char}, isBlank char = false → c.sees char = false := fun hchar => by
    simp [Cursor.sees, h, ne_of_isBlank hd hchar]
  refine ⟨hsees (by decide), hsees (by decide), hsees (by decide), hsees (by decide), ?_, ?_⟩
  · have hwords : ∀ e ∈ constants, e.1 ≠ [] ∧ ∀ a ∈ e.1, isBlank a = false := by decide
    refine List.find?_eq_none.mpr fun e he => ?_
    obtain ⟨hne, hchars⟩ := hwords e he
    obtain ⟨a, w, hw⟩ := List.exists_cons_of_ne_nil hne
    have ha : a ≠ d := (ne_of_isBlank hd (hchars a (hw ▸ List.mem_cons_self))).symm
    simp [startsWith, h, hw, afterPrefix?, ha]
  · rw [h]
    exact wholeDigits_stop hd [] t

/-- Blanks are no value. -/
theorem NoValue.of_blanks {c : Cursor} (h : ∀ d ∈ c.rest, isBlank d = true) : NoValue c := by
  cases hrest : c.rest with
  | nil => exact .of_nil hrest
  | cons d t => exact .of_isBlank hrest (h d (hrest ▸ List.mem_cons_self))

theorem NoValue.readValue {c : Cursor} (h : NoValue c) (size depth : Nat) :
    readValue size depth c = .error (.at .expectedValue c.offset) := by
  have hnumber : readNumber c = .error (.at .expectedValue c.offset) := by
    unfold readNumber
    simp [h.minus, h.digit]
  have hscalar : readScalar c = .error (.at .expectedValue c.offset) := by
    rw [readScalar, h.quote, h.word, hnumber]
    rfl
  cases depth <;> simp [Json.readValue, h.bracket, h.brace, hscalar]

/-- A value stays the same with blanks behind the text. -/
theorem readValue_append {b : Text} (hb : ∀ c ∈ b, isBlank c = true) (size : Nat) : ∀ (depth : Nat) {c c' : Cursor},
    Extends b c c' → Continues b (readValue size depth c) (readValue size depth c')
  | depth, c, c', .inr ⟨hnil, hblanks⟩ => by
    rw [(NoValue.of_nil hnil).readValue, (NoValue.of_blanks hblanks).readValue]
    exact .error _ _
  | depth, c, c', .inl hrest => by
    have hsees : ∀ {char}, isBlank char = false → c'.sees char = c.sees char := fun hchar =>
      sees_append_blanks hb hrest hchar
    have hbracket : c'.sees '[' = c.sees '[' := hsees (by decide)
    have hbrace : c'.sees '\x7b' = c.sees '\x7b' := hsees (by decide)
    cases depth with
    | zero =>
      simp only [readValue, hbracket, hbrace]
      split
      · exact .error _ _
      · exact readScalar_append hb hrest
    | succ depth =>
      have hread : ∀ c c', Extends b c c' → Continues b (readValue size depth c) (readValue size depth c') :=
        fun _ _ => readValue_append hb size depth
      have hinside : c.rest ≠ [] → Extends b (c.advance 1).skipSpace (c'.advance 1).skipSpace := fun hne =>
        extends_skipSpace hb (advance_append hrest (one_le_length hne))
      simp only [readValue, hbracket, hbrace]
      generalize (c.advance 1).skipSpace = d at *
      generalize (c'.advance 1).skipSpace = d' at *
      split
      · rename_i hs
        have hspace := hinside (rest_ne_nil_of_sees hs)
        have hclose : d'.sees ']' = d.sees ']' := hspace.sees hb (by decide)
        rw [hclose]
        split
        · rename_i hs
          have hne := rest_ne_nil_of_sees hs
          exact .ok _ (advance_append (hspace.rest_eq hne) (one_le_length hne))
        · exact (readElements_append hb hread hspace).map Json.array
      · split
        · rename_i hs
          have hspace := hinside (rest_ne_nil_of_sees hs)
          have hclose : d'.sees '\x7d' = d.sees '\x7d' := hspace.sees hb (by decide)
          rw [hclose]
          split
          · rename_i hs
            have hne := rest_ne_nil_of_sees hs
            exact .ok _ (advance_append (hspace.rest_eq hne) (one_le_length hne))
          · exact (readMembers_append hb hread hspace).map Json.object
        · exact readScalar_append hb hrest

end StructForge.Json
