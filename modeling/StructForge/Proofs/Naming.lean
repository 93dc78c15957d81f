import StructForge.Naming
import StructForge.Proofs.Text.Lines

/-!
# Upper case and Go names

In upper case, a character of ASCII comes from itself or is a capital, and no small letter of ASCII is left
(`mem_upperChar`). So a Go name that is made from a source name starts with a capital of ASCII or a character beyond
it, and has letters and digits of ASCII only (`isGoName_camel`), whatever the source name is. No name of a Go type of
scalars is of this kind.
-/

namespace StructForge

/-! ## Upper case -/

namespace Text

/-- The image of a code point lies in the image of a run that contains it. -/
theorem CaseRun.exists_of_image? : ∀ {runs : List CaseRun} {n m : Nat}, CaseRun.image? runs n = some m →
    ∃ r ∈ runs, r.first ≤ n ∧ n ≤ r.last ∧ r.step ∣ n - r.first ∧ m = r.image + (n - r.first)
  | [], _, _, h => by cases h
  | r :: runs, n, m, h => by
    rw [CaseRun.image?] at h
    split at h
    · cases h
    · split at h
      · rename_i hfirst hlast
        simp only [Bool.and_eq_true, decide_eq_true_eq, beq_iff_eq] at hlast
        exact ⟨r, List.mem_cons_self, by omega, hlast.1, Nat.dvd_of_mod_eq_zero hlast.2, (Option.some.inj h).symm⟩
      · obtain ⟨r', hr, h⟩ := CaseRun.exists_of_image? h
        exact ⟨r', List.mem_cons_of_mem r hr, h⟩

/-- The character of a code point that there is. -/
theorem toNat_ofNat {n : Nat} (h : n.isValidChar) : (Char.ofNat n).toNat = n := by
  rw [Char.ofNat, dif_pos h]
  rfl

/-- The code points of capitals. -/
def IsCapitalCode (n : Nat) : Prop := 0x41 ≤ n ∧ n ≤ 0x5A

theorem isCapital_of_code {c : Char} (h : IsCapitalCode c.toNat) : Naming.isCapital c = true := by
  have hc : c.toNat < 0x80 := Nat.lt_of_le_of_lt h.2 (by decide)
  revert h
  exact of_ascii (P := fun c => IsCapitalCode c.toNat → Naming.isCapital c = true)
    (by unfold IsCapitalCode; decide +kernel) hc

theorem toNat_lt_of_isSmall {c : Char} (h : Naming.isSmall c = true) : c.toNat < 0x80 := by
  simp only [Naming.isSmall, Bool.and_eq_true, decide_eq_true_eq] at h
  exact Nat.lt_of_le_of_lt h.2 (by decide)

theorem toNat_lt_of_isCapital {c : Char} (h : Naming.isCapital c = true) : c.toNat < 0x80 := by
  simp only [Naming.isCapital, Bool.and_eq_true, decide_eq_true_eq] at h
  exact Nat.lt_of_le_of_lt h.2 (by decide)

/-- What holds of small letters is decided one after another, as for all characters of ASCII. -/
theorem of_isSmall {P : Char → Prop}
    (h : ∀ n ∈ List.range 0x80, Naming.isSmall (Char.ofNat n) = true → P (Char.ofNat n)) {c : Char}
    (hc : Naming.isSmall c = true) : P c :=
  of_ascii (P := fun c => Naming.isSmall c = true → P c) h (toNat_lt_of_isSmall hc) hc

/-- What holds of capitals, too. -/
theorem of_isCapital {P : Char → Prop}
    (h : ∀ n ∈ List.range 0x80, Naming.isCapital (Char.ofNat n) = true → P (Char.ofNat n)) {c : Char}
    (hc : Naming.isCapital c = true) : P c :=
  of_ascii (P := fun c => Naming.isCapital c = true → P c) h (toNat_lt_of_isCapital hc) hc

theorem isSome_image?_of_isSmall {c : Char} (h : Naming.isSmall c = true) :
    (CaseRun.image? upperRuns c.toNat).isSome = true :=
  of_isSmall (P := fun c => (CaseRun.image? upperRuns c.toNat).isSome = true) (by decide +kernel) h

/-- The upper case of a character: what the table of expansions has, its place in a run, or the character itself. -/
theorem upperChar_cases (c : Char) :
    (∃ image, (c.toNat, image) ∈ upperExpansions ∧ upperChar c = image.map Char.ofNat) ∨
    (upperExpansions.lookup c.toNat = none ∧ ∃ r ∈ upperRuns, r.first ≤ c.toNat ∧ c.toNat ≤ r.last ∧
      r.step ∣ c.toNat - r.first ∧ (r.image + (c.toNat - r.first)).isValidChar ∧
      upperChar c = [Char.ofNat (r.image + (c.toNat - r.first))]) ∨
    upperExpansions.lookup c.toNat = none ∧ CaseRun.image? upperRuns c.toNat = none ∧ upperChar c = [c] := by
  have hruns : ∀ r ∈ upperRuns, r.image + (r.last - r.first) < 0xD800 ∨
      0xDFFF < r.image ∧ r.image + (r.last - r.first) < 0x110000 := by decide +kernel
  rw [upperChar]
  split
  · rename_i image himage
    obtain ⟨front, back, hsplit, _⟩ := List.lookup_eq_some_iff.mp himage
    exact .inl ⟨image, by rw [hsplit]; simp, rfl⟩
  · rename_i hlookup
    split
    · rename_i n hn
      obtain ⟨r, hr, hfirst, hlast, hstep, rfl⟩ := CaseRun.exists_of_image? hn
      refine .inr (.inl ⟨hlookup, r, hr, hfirst, hlast, hstep, ?_, rfl⟩)
      rcases hruns r hr with hvalid | hvalid
      · exact .inl (by omega)
      · exact .inr (by omega)
    · rename_i hnone
      exact .inr (.inr ⟨hlookup, hnone, rfl⟩)

/-- A character of ASCII in upper case is a capital, or it comes from itself and is no small letter. -/
theorem mem_upperChar {c x : Char} (h : x ∈ upperChar c) (hx : x.toNat < 0x80) :
    Naming.isCapital x = true ∨ x = c ∧ Naming.isSmall c = false := by
  have hexpansions : ∀ e ∈ upperExpansions, ∀ n ∈ e.2, n.isValidChar ∧ (0x80 ≤ n ∨ 0x41 ≤ n ∧ n ≤ 0x5A) := by decide
  have hruns : ∀ r ∈ upperRuns, 0x80 ≤ r.image ∨ 0x41 ≤ r.image ∧ r.image + (r.last - r.first) ≤ 0x5A := by
    decide +kernel
  rcases upperChar_cases c with ⟨image, himage, hupper⟩ | ⟨-, r, hr, hfirst, hlast, -, hvalid, hupper⟩ | ⟨-, hnone, hupper⟩
  · rw [hupper] at h
    obtain ⟨n, hn, rfl⟩ := List.mem_map.mp h
    obtain ⟨hvalid, hcode⟩ := hexpansions (c.toNat, image) himage n hn
    rw [toNat_ofNat hvalid] at hx
    exact .inl (isCapital_of_code (by rw [toNat_ofNat hvalid]; exact hcode.resolve_left (by omega)))
  · have hcode := hruns r hr
    rw [hupper] at h
    obtain rfl := List.mem_singleton.mp h
    rw [toNat_ofNat hvalid] at hx
    refine .inl (isCapital_of_code ?_)
    rw [toNat_ofNat hvalid, IsCapitalCode]
    omega
  · rw [hupper] at h
    refine .inr ⟨List.mem_singleton.mp h, ?_⟩
    cases hsmall : Naming.isSmall c with
    | false => rfl
    | true =>
      have hsome := isSome_image?_of_isSmall hsmall
      rw [hnone] at hsome
      cases hsome

theorem upperChar_ne_nil (c : Char) : upperChar c ≠ [] := by
  have hexpansions : ∀ e ∈ upperExpansions, e.2 ≠ [] := by decide
  rcases upperChar_cases c with ⟨image, himage, hupper⟩ | ⟨-, r, -, -, -, -, -, hupper⟩ | ⟨-, -, hupper⟩ <;> rw [hupper]
  · simpa using hexpansions (c.toNat, image) himage
  · exact List.cons_ne_nil _ _
  · exact List.cons_ne_nil _ _

end Text

/-! ## Go names -/

namespace Naming

open Text

/-- A name that starts with a capital or beyond ASCII, and in which all that is of ASCII is a letter or a digit. -/
structure IsGoName (name : Text) : Prop where
  start : ∃ c t, name = c :: t ∧ (c.toNat < 0x80 → isCapital c = true)
  ascii : ∀ c ∈ name, c.toNat < 0x80 → isAlphanumeric c = true

theorem IsGoName.append {name t : Text} (h : IsGoName name) (ht : ∀ c ∈ t, isAlphanumeric c = true) :
    IsGoName (name ++ t) where
  start := by
    obtain ⟨c, u, rfl, hc⟩ := h.start
    exact ⟨c, u ++ t, rfl, hc⟩
  ascii c hc hascii := (List.mem_append.mp hc).elim (fun hc => h.ascii c hc hascii) (ht c)

/-- Characters of ASCII that are no letters or digits occur in no Go name. -/
theorem IsGoName.not_mem {name : Text} (h : IsGoName name) {c : Char} (hc : c.toNat < 0x80)
    (hno : isAlphanumeric c = false) : c ∉ name := by
  intro hmem
  rw [h.ascii c hmem hc] at hno
  cases hno

theorem isAlphanumeric_of_isCapital {c : Char} (h : isCapital c = true) : isAlphanumeric c = true :=
  of_isCapital (P := fun c => isAlphanumeric c = true) (by decide +kernel) h

theorem isSmall_of_isCapital {c : Char} (h : isCapital c = true) : isSmall c = false :=
  of_isCapital (P := fun c => isSmall c = false) (by decide +kernel) h

/-- A letter or digit of ASCII that is neither a digit nor small is a capital. -/
theorem isCapital_of_ascii {c : Char} (hc : c.toNat < 0x80) (hword : isAlphanumeric c = true)
    (hdigit : isDigit c = false) (hsmall : isSmall c = false) : isCapital c = true := by
  revert hword hdigit hsmall
  exact of_ascii (P := fun c => isAlphanumeric c = true → isDigit c = false → isSmall c = false → isCapital c = true)
    (by decide +kernel) hc

/-- What is of ASCII in a capitalised segment is a letter or a digit. -/
theorem isAlphanumeric_of_mem_capitalise {segment : Text} (h : ∀ c ∈ segment, isAlphanumeric c = true) {c : Char}
    (hc : c ∈ capitalise segment) (hascii : c.toNat < 0x80) : isAlphanumeric c = true := by
  cases segment with
  | nil => cases hc
  | cons d t =>
    rw [List.forall_mem_cons] at h
    rcases List.mem_append.mp hc with hc | hc
    · rcases mem_upperChar hc hascii with hcapital | ⟨rfl, -⟩
      · exact isAlphanumeric_of_isCapital hcapital
      · exact h.1
    · exact h.2 c hc

/-- The start of a capitalised segment is a capital, a digit, or beyond ASCII. -/
theorem exists_capitalise {segment : Text} (hne : segment ≠ []) (h : ∀ c ∈ segment, isAlphanumeric c = true) :
    ∃ c t, capitalise segment = c :: t ∧ (isDigit c = false → c.toNat < 0x80 → isCapital c = true) := by
  obtain ⟨d, t, rfl⟩ := List.exists_cons_of_ne_nil hne
  obtain ⟨c, u, hupper⟩ := List.exists_cons_of_ne_nil (upperChar_ne_nil d)
  refine ⟨c, u ++ t, by rw [capitalise, hupper, List.cons_append], fun hdigit hascii => ?_⟩
  rcases mem_upperChar (hupper ▸ List.mem_cons_self) hascii with hcapital | ⟨rfl, hsmall⟩
  · exact hcapital
  · exact isCapital_of_ascii hascii (h c List.mem_cons_self) hdigit hsmall

theorem isGoName_fallback : IsGoName fallback := ⟨⟨'F', "ield", rfl, fun _ => rfl⟩, by decide +kernel⟩

/-- Whatever a source name is made of, its Go name is one. -/
theorem isGoName_camel (name : Text) : IsGoName (camel name) := by
  have hsegments : ∀ segment ∈ segments name, segment ≠ [] ∧ ∀ c ∈ segment, isAlphanumeric c = true :=
    fun _ => of_mem_runsOf
  have hascii : ∀ c ∈ (segments name).flatMap capitalise, c.toNat < 0x80 → isAlphanumeric c = true := by
    intro c hc
    obtain ⟨segment, hsegment, hc⟩ := List.mem_flatMap.mp hc
    exact isAlphanumeric_of_mem_capitalise (hsegments segment hsegment).2 hc
  rw [camel]
  cases hjoined : (segments name).flatMap capitalise with
  | nil => exact isGoName_fallback
  | cons c t =>
    rw [hjoined] at hascii
    dsimp only
    split
    · exact ⟨⟨'F', "ield" ++ c :: t, rfl, fun _ => rfl⟩, fun d hd hlow =>
        (List.mem_append.mp hd).elim (fun hd => isGoName_fallback.ascii d hd hlow) fun hd => hascii d hd hlow⟩
    · rename_i hdigit
      refine ⟨⟨c, t, rfl, ?_⟩, hascii⟩
      cases hs : segments name with
      | nil =>
        rw [hs] at hjoined
        cases hjoined
      | cons first rest =>
        obtain ⟨hne, hchars⟩ := hsegments first (hs ▸ List.mem_cons_self)
        obtain ⟨d, u, hfirst, hd⟩ := exists_capitalise hne hchars
        rw [hs, List.flatMap_cons, hfirst] at hjoined
        obtain ⟨rfl, -⟩ := List.cons_eq_cons.mp hjoined
        exact hd (Bool.eq_false_iff.mpr hdigit)

theorem newline_not_mem_camel (name : Text) : '\n' ∉ camel name :=
  (isGoName_camel name).not_mem (by decide) (by decide +kernel)

end Naming

end StructForge
