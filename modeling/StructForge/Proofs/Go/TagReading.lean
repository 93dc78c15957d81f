import Mathlib.Data.List.Flatten
import StructForge.Go.Tag
import StructForge.Proofs.Text.Readers
import StructForge.Text.Utf8

/-!
# How Go reads a tag

A tag is a raw string literal, a text between backquotes without one inside; carriage returns are no part of its
content. The content is a list of keys with values in double quotes, in which a backslash starts an escape sequence.
The value of a key is a string of bytes.

An escape sequence stands for fewer bytes than it is written in (`length_unquoteFrom`), so what is read from a value is
the value itself only if there is none in it (`eq_of_unquote?`).
-/

namespace StructForge.Go

open Text Text.Utf8

/-! ## Raw literals -/

/-- The content of a raw string literal. -/
def rawContent? (t : Text) : Option Text :=
  let inner := t.tail.dropLast
  if t = backquote :: (inner ++ [backquote]) ∧ backquote ∉ inner then some (inner.filter (· ≠ '\r')) else none

/-! ## Escape sequences -/

/-- The letters that stand for a byte behind a backslash. -/
def letterEscapes : List (Char × Nat) :=
  [('a', 7), ('b', 8), ('t', 9), ('n', 10), ('v', 11), ('f', 12), ('r', 13), ('"', 34), ('\\', 92)]

/-- The number that the next `n` digits make, behind digits with some value. -/
def number? (base : Nat) : (n : Nat) → (value : Nat) → Text → Option Nat
  | 0, value, _ => some value
  | _ + 1, _, [] => none
  | n + 1, value, c :: t => ((hexDigit? c).filter (· < base)).bind fun digit => number? base n (base * value + digit) t

/-- A byte given by `n` digits. -/
def byteEscape? (base n : Nat) (t : Text) : Option Bytes := ((number? base n 0 t).filter (· < 0x100)).map ([·])

/-- A character given by `n` hexadecimal digits. -/
def charEscape? (n : Nat) (t : Text) : Option Bytes :=
  ((number? 16 n 0 t).filter (decide ·.isValidChar)).map fun code => encodeChar (Char.ofNat code)

/-- The bytes that stand behind a backslash, and the number of characters that they are written in. -/
def escape? : Text → Option (Bytes × Nat)
  | [] => none
  | c :: t =>
    match letterEscapes.lookup c with
    | some byte => some ([byte], 1)
    | none =>
      if c = 'x' then (byteEscape? 16 2 t).map (·, 3)
      else if c = 'u' then (charEscape? 4 t).map (·, 5)
      else if c = 'U' then (charEscape? 8 t).map (·, 9)
      else (byteEscape? 8 3 (c :: t)).map (·, 3)

/-- The bytes that the text between two double quotes stands for, behind `skip` characters. -/
def unquoteFrom : (skip : Nat) → Text → Option Bytes
  | _, [] => some []
  | skip + 1, _ :: t => unquoteFrom skip t
  | 0, c :: t =>
    if c = '"' ∨ c = '\n' then none
    else if c = '\\' then (escape? t).bind fun (bytes, n) => (unquoteFrom n t).map (bytes ++ ·)
    else (unquoteFrom 0 t).map (encodeChar c ++ ·)

/-- The bytes that the text between two double quotes stands for. -/
def unquote? (t : Text) : Option Bytes := unquoteFrom 0 t

/-! ## Keys and values -/

/-- The text up to the closing quote, which has no backslash of its own, and what follows the quote. -/
def quotedValue? : Text → Option (Text × Text)
  | [] => none
  | '"' :: t => some ([], t)
  | '\\' :: c :: t => (quotedValue? t).map fun (value, rest) => ('\\' :: c :: value, rest)
  | c :: t => (quotedValue? t).map fun (value, rest) => (c :: value, rest)

/-- Whether a key may have the character: no control, no space, no colon, no quote. -/
def isKeyChar (c : Char) : Bool := ' ' < c && c ≠ ':' && c ≠ '"' && c ≠ '\x7f'

/-- The first key, the value between its quotes, and what follows. -/
def readPair? (t : Text) : Option (Text × Text × Text) :=
  let t := t.dropWhile (· = ' ')
  match t.takeWhile isKeyChar, t.dropWhile isKeyChar with
  | c :: key, ':' :: '"' :: t => (quotedValue? t).map (c :: key, ·)
  | _, _ => none

/-- A value and what follows it are the text, with the closing quote between them. -/
theorem append_of_quotedValue? (t : Text) {value rest : Text} (h : quotedValue? t = some (value, rest)) :
    t = value ++ '"' :: rest := by
  fun_induction quotedValue? t generalizing value with
  | case1 => cases h
  | case2 t =>
    cases h
    rfl
  | case3 c t ih =>
    obtain ⟨⟨v, r⟩, hv, heq⟩ := Option.map_eq_some_iff.mp h
    cases heq
    rw [ih hv]
    rfl
  | case4 c t _ _ ih =>
    obtain ⟨⟨v, r⟩, hv, heq⟩ := Option.map_eq_some_iff.mp h
    cases heq
    rw [ih hv]
    rfl

/-- What follows a key and its value is shorter. -/
theorem length_readPair? {t : Text} {x : Text × Text × Text} (h : readPair? t = some x) :
    x.2.2.length < t.length := by
  rw [readPair?] at h
  split at h
  · rename_i c key u hkey hbehind
    obtain ⟨⟨value, rest⟩, hvalue, rfl⟩ := Option.map_eq_some_iff.mp h
    have hu := congrArg List.length (append_of_quotedValue? u hvalue)
    have hskip := (List.dropWhile_sublist (· = ' ') (l := t)).length_le
    have hdrop := (List.dropWhile_sublist isKeyChar (l := t.dropWhile (· = ' '))).length_le
    rw [hbehind] at hdrop
    simp only [List.length_append, List.length_cons] at hu hdrop ⊢
    omega
  · cases h

/-- The value of a key in the content of a tag. -/
def lookup? (key t : Text) : Option Bytes :=
  match _h : readPair? t with
  | none => none
  | some (name, value, rest) => if name = key then unquote? value else lookup? key rest
termination_by t.length
decreasing_by exact length_readPair? ‹_›

/-! ## Lengths in bytes -/

theorem length_encodeChar (c : Char) : 0 < (encodeChar c).length ∧ (encodeChar c).length ≤ 4 := by
  simp only [encodeChar]
  split
  · simp
  · split
    · simp
    · split <;> simp

theorem encode_append (t u : Text) : encode (t ++ u) = encode t ++ encode u := List.flatMap_append

/-- A text has at least as many bytes as characters. -/
theorem length_le_encode : ∀ t : Text, t.length ≤ (encode t).length
  | [] => Nat.le_refl 0
  | c :: t => by
    have ih := length_le_encode t
    have hc := (length_encodeChar c).1
    rw [encode, List.flatMap_cons, List.length_append, List.length_cons, ← encode]
    omega

/-- A text with characters left out is shorter in bytes, unless none is left out. -/
theorem eq_of_sublist {t u : Text} (h : t.Sublist u) (hlength : (encode u).length ≤ (encode t).length) : t = u := by
  induction h with
  | slnil => rfl
  | @cons t u c h ih =>
    have hle := (h.flatMap encodeChar).length_le
    have hc := (length_encodeChar c).1
    rw [encode, List.flatMap_cons, List.length_append] at hlength
    simp only [encode] at hlength
    omega
  | @cons_cons t u c h ih =>
    rw [encode, encode, List.flatMap_cons, List.flatMap_cons, List.length_append, List.length_append] at hlength
    rw [ih (by simp only [encode]; omega)]

/-! ## Escape sequences and their lengths -/

theorem length_of_number? {base : Nat} : ∀ {n value : Nat} {t : Text} {x : Nat}, number? base n value t = some x →
    n ≤ t.length
  | 0, _, _, _, _ => Nat.zero_le _
  | _ + 1, _, [], _, h => by cases h
  | n + 1, value, c :: t, x, h => by
    rw [number?] at h
    obtain ⟨digit, _, h⟩ := Option.bind_eq_some_iff.mp h
    exact Nat.succ_le_succ (length_of_number? h)

theorem length_byteEscape? {base n : Nat} {t : Text} {bytes : Bytes} (h : byteEscape? base n t = some bytes) :
    bytes.length = 1 ∧ n ≤ t.length := by
  obtain ⟨x, hx, rfl⟩ := Option.map_eq_some_iff.mp h
  exact ⟨rfl, length_of_number? (Option.filter_eq_some_iff.mp hx).1⟩

theorem length_charEscape? {n : Nat} {t : Text} {bytes : Bytes} (h : charEscape? n t = some bytes) :
    bytes.length ≤ 4 ∧ n ≤ t.length := by
  obtain ⟨x, hx, rfl⟩ := Option.map_eq_some_iff.mp h
  exact ⟨(length_encodeChar _).2, length_of_number? (Option.filter_eq_some_iff.mp hx).1⟩

/-- An escape sequence is written in no fewer characters than it has bytes, the backslash not counted. -/
theorem length_escape? {t : Text} {bytes : Bytes} {n : Nat} (h : escape? t = some (bytes, n)) :
    bytes.length ≤ n ∧ n ≤ t.length := by
  cases t with
  | nil => cases h
  | cons c t =>
    rw [escape?] at h
    split at h
    · cases h
      exact ⟨Nat.le_refl 1, by simp⟩
    · split at h
      · obtain ⟨b, hb, heq⟩ := Option.map_eq_some_iff.mp h
        cases heq
        have hlength := length_byteEscape? hb
        simp only [List.length_cons]
        omega
      · split at h
        · obtain ⟨b, hb, heq⟩ := Option.map_eq_some_iff.mp h
          cases heq
          have hlength := length_charEscape? hb
          simp only [List.length_cons]
          omega
        · split at h
          · obtain ⟨b, hb, heq⟩ := Option.map_eq_some_iff.mp h
            cases heq
            have hlength := length_charEscape? hb
            simp only [List.length_cons]
            omega
          · obtain ⟨b, hb, heq⟩ := Option.map_eq_some_iff.mp h
            cases heq
            have hlength := length_byteEscape? hb
            omega

/-- What is read between quotes has no more bytes than what is written there, and fewer if there is a backslash. -/
theorem length_unquoteFrom : ∀ (t : Text) {skip : Nat} {bytes : Bytes}, unquoteFrom skip t = some bytes →
    bytes.length ≤ (encode (t.drop skip)).length ∧
      ('\\' ∈ t.drop skip → bytes.length < (encode (t.drop skip)).length)
  | [], skip, bytes, h => by
    cases skip <;> cases h <;> simp [encode]
  | c :: t, skip + 1, bytes, h => length_unquoteFrom t h
  | c :: t, 0, bytes, h => by
    have hc := (length_encodeChar c).1
    have hencode : (encode (c :: t)).length = (encodeChar c).length + (encode t).length := by
      rw [encode, List.flatMap_cons, List.length_append, encode]
    rw [List.drop_zero, hencode]
    rw [unquoteFrom] at h
    split at h
    · cases h
    · split at h
      · -- the sequence is taken off the text, and what follows it is read
        obtain ⟨⟨b, n⟩, hescape, h⟩ := Option.bind_eq_some_iff.mp h
        obtain ⟨rest, hrest, rfl⟩ := Option.map_eq_some_iff.mp h
        have ih := (length_unquoteFrom t hrest).1
        have hb := length_escape? hescape
        have htaken := length_le_encode (t.take n)
        have happend := congrArg List.length (encode_append (t.take n) (t.drop n))
        rw [List.take_append_drop, List.length_append] at happend
        rw [List.length_take] at htaken
        simp only [List.length_append]
        omega
      · rename_i hc'
        obtain ⟨rest, hrest, rfl⟩ := Option.map_eq_some_iff.mp h
        have ih := length_unquoteFrom t hrest
        rw [List.drop_zero] at ih
        simp only [List.length_append, List.mem_cons]
        refine ⟨by omega, ?_⟩
        rintro (heq | hmem)
        · exact absurd heq.symm hc'
        · have hlt := ih.2 hmem
          omega

/-- Without a backslash, what is read between quotes is what is written there, without quotes and line ends. -/
theorem unquoteFrom_of_not_mem : ∀ {t : Text} {bytes : Bytes}, '\\' ∉ t → unquoteFrom 0 t = some bytes →
    bytes = encode t ∧ '"' ∉ t ∧ '\n' ∉ t
  | [], bytes, _, h => by
    cases h
    exact ⟨rfl, List.not_mem_nil, List.not_mem_nil⟩
  | c :: t, bytes, hno, h => by
    rw [List.mem_cons, not_or] at hno
    rw [unquoteFrom] at h
    split at h
    · cases h
    · rename_i hc
      rw [if_neg fun e => hno.1 e.symm] at h
      obtain ⟨rest, hrest, rfl⟩ := Option.map_eq_some_iff.mp h
      obtain ⟨rfl, hquote, hend⟩ := unquoteFrom_of_not_mem hno.2 hrest
      rw [not_or] at hc
      refine ⟨rfl, ?_, ?_⟩
      · exact List.not_mem_cons_of_ne_of_not_mem (Ne.symm hc.1) hquote
      · exact List.not_mem_cons_of_ne_of_not_mem (Ne.symm hc.2) hend

/-! ## Plain texts -/

/-- The characters that do not stand for themselves in a tag. -/
def special : List Char := [backquote, '"', '\\', '\n', '\r']

/-- A text in which every character stands for itself in a tag. -/
def IsPlain (t : Text) : Prop := ∀ c ∈ t, c ∉ special

instance (t : Text) : Decidable (IsPlain t) := inferInstanceAs (Decidable (∀ c ∈ t, c ∉ special))

/-- A plain text is read as it is written. -/
theorem unquote?_of_isPlain : ∀ {t : Text}, IsPlain t → unquote? t = some (encode t)
  | [], _ => rfl
  | c :: t, h => by
    have ih := unquote?_of_isPlain fun d hd => h d (List.mem_cons_of_mem c hd)
    have hc := h c List.mem_cons_self
    simp only [special, List.mem_cons, not_or] at hc
    obtain ⟨_, hquote, hbackslash, hend, _⟩ := hc
    rw [unquote?] at ih ⊢
    rw [unquoteFrom, if_neg (by simp [hquote, hend]), if_neg hbackslash, ih]
    rfl

/-- A plain text ends at the quote behind it. -/
theorem quotedValue?_of_isPlain : ∀ {t : Text}, IsPlain t → ∀ u, quotedValue? (t ++ '"' :: u) = some (t, u)
  | [], _, _ => rfl
  | c :: t, h, u => by
    have ih := quotedValue?_of_isPlain (fun d hd => h d (List.mem_cons_of_mem c hd)) u
    have hc := h c List.mem_cons_self
    simp only [special, List.mem_cons, not_or] at hc
    obtain ⟨_, hquote, hbackslash, _⟩ := hc
    rw [List.cons_append, quotedValue?, ih]
    · rfl
    · exact fun e => hquote e
    · exact fun _ _ e => absurd e hbackslash

/-- If what is read is a text with characters left out, none is left out and nothing was escaped. -/
theorem eq_of_unquote? {t name : Text} (hsub : t.Sublist name) (h : unquote? t = some (encode name)) :
    t = name ∧ '"' ∉ name ∧ '\\' ∉ name ∧ '\n' ∉ name := by
  have hlength := length_unquoteFrom t h
  rw [List.drop_zero] at hlength
  obtain rfl := eq_of_sublist hsub hlength.1
  have hbackslash : '\\' ∉ t := fun hmem => absurd (hlength.2 hmem) (Nat.lt_irrefl _)
  obtain ⟨_, hquote, hend⟩ := unquoteFrom_of_not_mem hbackslash h
  exact ⟨rfl, hquote, hbackslash, hend⟩

/-! ## Contents and their keys -/

/-- The content of a literal without a backquote inside. -/
theorem rawContent?_eq (inner : Text) :
    rawContent? (backquote :: (inner ++ [backquote])) =
      if backquote ∈ inner then none else some (inner.filter (· ≠ '\r')) := by
  have hinner : (backquote :: (inner ++ [backquote])).tail.dropLast = inner := by
    rw [List.tail_cons, List.dropLast_concat]
  simp only [rawContent?, hinner, true_and, ite_not]

/-- The first key decides, or what follows its value does. -/
theorem lookup?_eq (key t : Text) :
    lookup? key t = (readPair? t).bind fun x => if x.1 = key then unquote? x.2.1 else lookup? key x.2.2 := by
  rw [lookup?]
  split
  · rename_i h
    rw [h, Option.bind_none]
  · rename_i name value rest h
    rw [h, Option.bind_some]

/-- Spaces between keys do not matter. -/
theorem lookup?_space (key t : Text) : lookup? key (' ' :: t) = lookup? key t := by
  have hread : readPair? (' ' :: t) = readPair? t := by
    simp only [readPair?, List.dropWhile_cons_of_pos (p := (decide <| · = ' ')) (a := ' ') (by rfl)]
  rw [lookup?_eq, lookup?_eq, hread]

section Key

variable {key : Text} (hne : key ≠ []) (hkey : ∀ c ∈ key, isKeyChar c = true)
include hne hkey

/-- A key with its value at the start of a content. -/
theorem readPair?_append (t : Text) : readPair? (key ++ ':' :: '"' :: t) = (quotedValue? t).map (key, ·) := by
  obtain ⟨c, k, rfl⟩ := List.exists_cons_of_ne_nil hne
  have hspace : c ≠ ' ' := fun e => absurd (e ▸ hkey c List.mem_cons_self) (by decide)
  have hcolon : isKeyChar ':' = false := by decide
  have hstart : (c :: k ++ ':' :: '"' :: t).dropWhile (· = ' ') = c :: k ++ ':' :: '"' :: t := by
    rw [List.cons_append, List.dropWhile_cons_of_neg (by simpa using hspace)]
  have htake : (c :: k ++ ':' :: '"' :: t).takeWhile isKeyChar = c :: k := by
    rw [List.takeWhile_append_of_pos hkey, List.takeWhile_cons_of_neg (by rw [hcolon]; exact Bool.false_ne_true),
      List.append_nil]
  have hdrop : (c :: k ++ ':' :: '"' :: t).dropWhile isKeyChar = ':' :: '"' :: t := by
    rw [List.dropWhile_append_of_pos hkey, List.dropWhile_cons_of_neg (by rw [hcolon]; exact Bool.false_ne_true)]
  simp only [readPair?, hstart, htake, hdrop]

/-- The value of the first key. -/
theorem lookup?_first (t : Text) :
    lookup? key (key ++ ':' :: '"' :: t) = (quotedValue? t).bind fun x => unquote? x.1 := by
  rw [lookup?_eq, readPair?_append hne hkey]
  cases quotedValue? t with
  | none => rfl
  | some x => exact if_pos rfl

/-- The value of another key than the first. -/
theorem lookup?_next {other value : Text} (hother : key ≠ other) (hvalue : IsPlain value) (t : Text) :
    lookup? other (key ++ ':' :: '"' :: (value ++ '"' :: t)) = lookup? other t := by
  rw [lookup?_eq, readPair?_append hne hkey, quotedValue?_of_isPlain hvalue]
  exact if_neg hother

end Key

end StructForge.Go
