import StructForge.Proofs.Naming.Spelling

/-!
# Letters of Go names

The spelling of a name goes on behind a part of it with what the last character of the part leaves to do (`spell_append`),
so that in ASCII each letter and digit of the name has its place in the spelling: behind as many others as stand in front
of it in the name, and in upper case where it starts a segment (`isCapitalised_spelling`). A Go name is this spelling, with
the fallback in front where there is nothing or a digit first. It is one segment that starts with a capital, and so it is
its own Go name (`camel_camel`, `camel_keeps_letters`).
-/

namespace StructForge

namespace Text

/-! ## Characters of ASCII -/

variable {c : Char}

theorem isAlphanumeric_of_ascii (h : c.toNat < 0x80) : isAlphanumeric c = c.isAlphanum :=
  of_ascii (P := fun c => isAlphanumeric c = c.isAlphanum) (by decide +kernel) h

theorem isDigit_of_ascii (h : c.toNat < 0x80) : isDigit c = c.isDigit :=
  of_ascii (P := fun c => isDigit c = c.isDigit) (by decide +kernel) h

theorem upperChar_of_ascii (h : c.toNat < 0x80) : upperChar c = [c.toUpper] :=
  of_ascii (P := fun c => upperChar c = [c.toUpper]) (by decide +kernel) h

/-- Upper case does not lead out of ASCII, and neither makes digits nor takes them away. -/
theorem toUpper_of_ascii (h : c.toNat < 0x80) : c.toUpper.toNat < 0x80 ∧ c.toUpper.isDigit = c.isDigit :=
  of_ascii (P := fun c => c.toUpper.toNat < 0x80 ∧ c.toUpper.isDigit = c.isDigit) (by decide +kernel) h

end Text

namespace Naming

open Text

/-! ## Parts of a spelling -/

/-- Whether a segment may start behind a text; behind nothing it does if `starts` says so. -/
def startsBehind (starts : Bool) (t : Text) : Bool := (t.getLast?.map (!isAlphanumeric ·)).getD starts

theorem startsBehind_cons (starts : Bool) (c : Char) (t : Text) :
    startsBehind starts (c :: t) = startsBehind (!isAlphanumeric c) t := by
  rw [startsBehind, startsBehind, List.getLast?_cons]
  cases t.getLast? <;> rfl

/-- A spelling goes on as the last character in front leaves it. -/
theorem spell_append (starts : Bool) (t u : Text) :
    spell starts (t ++ u) = spell starts t ++ spell (startsBehind starts t) u := by
  induction t generalizing starts with
  | nil => rfl
  | cons c t ih =>
    rw [List.cons_append, spell, spell, startsBehind_cons]
    cases isAlphanumeric c with
    | true => simp [ih]
    | false => simp [ih]

/-- What is spelled comes from a letter or numeral, in upper case or as it is. -/
theorem exists_of_mem_spell {x : Char} {starts : Bool} {t : Text} (h : x ∈ spell starts t) :
    ∃ c ∈ t, isAlphanumeric c = true ∧ (x ∈ upperChar c ∨ x = c) := by
  induction t generalizing starts with
  | nil => cases h
  | cons c t ih =>
    rw [spell] at h
    split at h
    · rename_i hc
      rcases List.mem_append.mp h with h | h
      · refine ⟨c, List.mem_cons_self, hc, ?_⟩
        split at h
        · exact .inl h
        · exact .inr (List.mem_singleton.mp h)
      · obtain ⟨d, hd, hx⟩ := ih h
        exact ⟨d, List.mem_cons_of_mem c hd, hx⟩
    · obtain ⟨d, hd, hx⟩ := ih h
      exact ⟨d, List.mem_cons_of_mem c hd, hx⟩

/-! ## Spellings in ASCII -/

/-- The letters and digits of ASCII of a name. -/
def letters (name : Text) : Text := name.filter Char.isAlphanum

/-- The letters and digits of a name, in their order. Each is as it is in the name, but in upper case where none stands
just in front of it. -/
structure IsCapitalised (name written : Text) : Prop where
  length : written.length = (letters name).length
  place : ∀ front c back, name = front ++ c :: back → c.isAlphanum = true →
    written[(letters front).length]? = some (if front.getLast?.any Char.isAlphanum then c else c.toUpper)

theorem length_spell {t : Text} (h : ∀ c ∈ t, c.toNat < 0x80) (starts : Bool) :
    (spell starts t).length = (letters t).length := by
  induction t generalizing starts with
  | nil => rfl
  | cons c t ih =>
    rw [List.forall_mem_cons] at h
    rw [spell, letters, List.filter_cons, isAlphanumeric_of_ascii h.1]
    split
    · have hone : (if starts then upperChar c else [c]).length = 1 := by
        rw [upperChar_of_ascii h.1]
        cases starts <;> rfl
      rw [List.length_append, hone, ih h.2, List.length_cons, letters, Nat.add_comm]
    · exact ih h.2 true

theorem startsBehind_of_ascii {t : Text} (h : ∀ c ∈ t, c.toNat < 0x80) :
    startsBehind true t = !t.getLast?.any Char.isAlphanum := by
  rw [startsBehind]
  cases hlast : t.getLast? with
  | none => rfl
  | some c => simp [isAlphanumeric_of_ascii (h c (List.mem_of_getLast? hlast))]

theorem isCapitalised_spelling {name : Text} (h : ∀ c ∈ name, c.toNat < 0x80) : IsCapitalised name (spelling name) where
  length := length_spell h true
  place := by
    rintro front c back rfl hc
    rw [List.forall_mem_append, List.forall_mem_cons] at h
    obtain ⟨hfront, hascii, -⟩ := h
    rw [spelling, spell_append, spell, isAlphanumeric_of_ascii hascii, if_pos hc, upperChar_of_ascii hascii,
      startsBehind_of_ascii hfront, List.getElem?_append_right (Nat.le_of_eq (length_spell hfront true)),
      length_spell hfront true, Nat.sub_self]
    cases front.getLast?.any Char.isAlphanum <;> rfl

/-- The first letter or digit starts a segment. -/
theorem head?_spelling {name : Text} (h : ∀ c ∈ name, c.toNat < 0x80) :
    (spelling name).head? = (letters name).head?.map Char.toUpper := by
  rw [spelling]
  induction name with
  | nil => rfl
  | cons c t ih =>
    rw [List.forall_mem_cons] at h
    rw [spell, letters, List.filter_cons, isAlphanumeric_of_ascii h.1, upperChar_of_ascii h.1]
    split
    · rfl
    · exact ih h.2

/-- The fallback is needed for a name without letters and digits, and for one with a digit first. -/
theorem needsFallback_spelling_iff {name : Text} (h : ∀ c ∈ name, c.toNat < 0x80) :
    NeedsFallback (spelling name) ↔ letters name = [] ∨ (letters name).head?.any Char.isDigit = true := by
  rw [NeedsFallback, head?_spelling h]
  cases hletters : letters name with
  | nil => simp
  | cons c t =>
    have hc : c ∈ letters name := hletters ▸ List.mem_cons_self
    have hascii := h c (List.mem_filter.mp hc).1
    obtain ⟨hupper, hdigit⟩ := toUpper_of_ascii hascii
    simp [isDigit_of_ascii hupper, hdigit]

/-! ## Go names of Go names -/

/-- A segment that starts with a capital is its own Go name. -/
theorem camel_eq_self {c : Char} {t : Text} (hc : isCapital c = true) (ht : t.all isAlphanumeric = true) :
    camel (c :: t) = c :: t := by
  have hspelling : spelling (c :: t) = c :: t := by
    rw [spelling_cons (isAlphanumeric_of_isCapital hc) ht, upperChar_of_isCapital hc]
    rfl
  have hdigit : ¬NeedsFallback (c :: t) := by simp [NeedsFallback, isDigit_of_isCapital hc]
  rw [camel_eq, hspelling, if_neg hdigit]

theorem toNat_lt_of_mem_camel {name : Text} (h : ∀ c ∈ name, c.toNat < 0x80) {x : Char} (hx : x ∈ camel name) :
    x.toNat < 0x80 := by
  have hspelling : ∀ x ∈ spelling name, x.toNat < 0x80 := by
    intro x hx
    obtain ⟨c, hc, -, hupper | rfl⟩ := exists_of_mem_spell hx
    · rw [upperChar_of_ascii (h c hc), List.mem_singleton] at hupper
      rw [hupper]
      exact (toUpper_of_ascii (h c hc)).1
    · exact h x hc
  have hfallback : ∀ x ∈ fallback, x.toNat < 0x80 := by decide
  rw [camel_eq] at hx
  split at hx
  · exact (List.mem_append.mp hx).elim (hfallback x) (hspelling x)
  · exact hspelling x hx

/-- The Go name of a name of ASCII is its own Go name. -/
theorem camel_camel {name : Text} (h : ∀ c ∈ name, c.toNat < 0x80) : camel (camel name) = camel name := by
  have hascii : ∀ c ∈ camel name, c.toNat < 0x80 := fun _ => toNat_lt_of_mem_camel h
  obtain ⟨⟨c, t, hname, hcapital⟩, halnum⟩ := isGoName_camel name
  rw [hname] at hascii halnum ⊢
  have ht : t.all isAlphanumeric = true := List.all_eq_true.mpr fun d hd =>
    halnum d (List.mem_cons_of_mem c hd) (hascii d (List.mem_cons_of_mem c hd))
  exact camel_eq_self (hcapital (hascii c List.mem_cons_self)) ht

/-- **Go names keep all letters and digits.** The Go name of a name of ASCII has the letters and digits of the name, those
that start a segment in upper case and all others as they are. `Field` is in front of them exactly if there are none, or a
digit is first. The Go name of a Go name is the same. -/
theorem camel_keeps_letters {name : Text} (h : ∀ c ∈ name, c.toNat < 0x80) :
    (∃ written, IsCapitalised name written ∧ camel name =
        (if letters name = [] ∨ (letters name).head?.any Char.isDigit = true then ("Field" : Text) else []) ++ written) ∧
      camel (camel name) = camel name := by
  refine ⟨⟨spelling name, isCapitalised_spelling h, ?_⟩, camel_camel h⟩
  rw [camel_eq]
  by_cases hneeds : NeedsFallback (spelling name)
  · rw [if_pos hneeds, if_pos ((needsFallback_spelling_iff h).mp hneeds)]
    rfl
  · rw [if_neg hneeds, if_neg (mt (needsFallback_spelling_iff h).mpr hneeds)]
    rfl

/-- A name that starts with separators and a digit, and has two separators in front of a small letter. -/
theorem camel_keeps_letters_rankColumn :
    (∀ c ∈ ("--2nd__place-ID" : Text), c.toNat < 0x80) ∧
      (∃ written : Text, written.length = 10 ∧ written[0]? = some '2' ∧ written[3]? = some 'P' ∧
        written[4]? = some 'l' ∧ camel "--2nd__place-ID" = "Field" ++ written) ∧
      camel (camel "--2nd__place-ID") = camel "--2nd__place-ID" := by
  have hascii : ∀ c ∈ ("--2nd__place-ID" : Text), c.toNat < 0x80 := by decide
  obtain ⟨⟨written, hwritten, hcamel⟩, hagain⟩ := camel_keeps_letters hascii
  have hdigit := hwritten.place "--" '2' "nd__place-ID" (by decide) (by decide)
  have hstart := hwritten.place "--2nd__" 'p' "lace-ID" (by decide) (by decide)
  have hinner := hwritten.place "--2nd__p" 'l' "ace-ID" (by decide) (by decide)
  exact ⟨hascii, ⟨written, hwritten.length, hdigit, hstart, hinner, hcamel⟩, hagain⟩

end Naming

end StructForge
