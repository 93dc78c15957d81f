import StructForge.Proofs.Naming.Spelling

/-!
# Go names and identifiers

An identifier of Go is a letter or an underscore, with letters, underscores and decimal digits behind it. A Go name
has no other start, since it has the fallback in front of a digit, so it is an identifier exactly if its spelling has
no other characters (`isIdentifier_camel_iff_spelling`). Two kinds of source names have some: those with a numeral
that is no decimal digit, such as a superscript, and those with a segment whose first letter has no capital of its
own and is written as one with marks instead (`isIdentifier_upperChar_iff`, `isIdentifier_camel_iff`).
-/

namespace StructForge

namespace Text

/-! ## Stretches of code points

The checks below run over the tables of characters, so they compare with `Nat.ble` and `Nat.blt`, which the kernel
computes at once.
-/

/-- The ranges without the first ones that end in front of a code point. -/
def Ranges.from (r : Ranges) (a : Nat) : Ranges := r.dropWhile fun p => Nat.blt p.1 a && Nat.blt p.2 a

theorem Ranges.contains_from {n a : Nat} (ha : a ≤ n) (r : Ranges) : (r.from a).contains n = r.contains n := by
  induction r with
  | nil => rfl
  | cons p rest ih =>
    rw [Ranges.from, List.dropWhile_cons]
    split
    · rename_i hp
      rw [Bool.and_eq_true, Nat.blt_eq, Nat.blt_eq] at hp
      rw [Ranges.contains, if_neg (by omega), if_neg (by omega)]
      exact ih
    · rfl

/-- Whether two lists of ranges in increasing order have no code point in common: one pass over both. -/
def Ranges.apart : Ranges → Ranges → Bool
  | [], _ => true
  | (a, b) :: rest, others =>
    (others.from a).head?.all (fun p => Nat.blt b p.1) && Ranges.apart rest (others.from a)

theorem Ranges.contains_of_apart {n : Nat} : ∀ {r others : Ranges}, r.apart others = true → r.contains n = true →
    others.contains n = false
  | [], _, _, h => by cases h
  | (a, b) :: rest, others, hapart, h => by
    simp only [Ranges.apart, Bool.and_eq_true] at hapart
    rw [Ranges.contains] at h
    split at h
    · cases h
    · rename_i ha
      rw [← Ranges.contains_from (Nat.le_of_not_lt ha) others]
      split at h
      · -- the first of the ranges that are left begins behind `b`
        cases hrest : others.from a with
        | nil => rfl
        | cons p back =>
          have hp : b < p.1 := by simpa [hrest] using hapart.1
          rw [Ranges.contains, if_pos (by omega)]
      · exact Ranges.contains_of_apart hapart.2 h

/-- Whether every range lies within one of the others, in increasing order: one pass over both. -/
def Ranges.within : Ranges → Ranges → Bool
  | [], _ => true
  | (a, b) :: rest, others =>
    (others.from a).head?.any (fun p => Nat.ble p.1 a && Nat.ble b p.2) && Ranges.within rest (others.from a)

theorem Ranges.contains_of_within {n : Nat} : ∀ {r others : Ranges}, r.within others = true → r.contains n = true →
    others.contains n = true
  | [], _, _, h => by cases h
  | (a, b) :: rest, others, hwithin, h => by
    simp only [Ranges.within, Bool.and_eq_true] at hwithin
    rw [Ranges.contains] at h
    split at h
    · cases h
    · rename_i ha
      rw [← Ranges.contains_from (Nat.le_of_not_lt ha) others]
      split at h
      · cases hrest : others.from a with
        | nil =>
          rw [hrest] at hwithin
          cases hwithin.1
        | cons p back =>
          have hp : p.1 ≤ a ∧ b ≤ p.2 := by simpa [hrest, Nat.ble_eq] using hwithin.1
          exact Ranges.contains_cons_of_mem back (by omega) (by omega)
      · exact Ranges.contains_of_within hwithin.2 h

/-- Whether one of the ranges has all code points from `lo` to `hi`. -/
def Ranges.covers (r : Ranges) (lo hi : Nat) : Bool := Ranges.within [(lo, hi)] r

/-- Whether none of the ranges has a code point from `lo` to `hi`. -/
def Ranges.misses (r : Ranges) (lo hi : Nat) : Bool := Ranges.apart [(lo, hi)] r

theorem Ranges.contains_of_covers {r : Ranges} {lo hi n : Nat} (hlo : lo ≤ n) (hhi : n ≤ hi)
    (h : r.covers lo hi = true) : r.contains n = true :=
  Ranges.contains_of_within h (Ranges.contains_cons_of_mem [] hlo hhi)

theorem Ranges.contains_of_misses {r : Ranges} {lo hi n : Nat} (hlo : lo ≤ n) (hhi : n ≤ hi)
    (h : r.misses lo hi = true) : r.contains n = false :=
  Ranges.contains_of_apart h (Ranges.contains_cons_of_mem [] hlo hhi)

/-- The ranges of letters with all those that have another case, so that a search for one of them is short. -/
def caseLetterRanges : Ranges :=
  [(0x41, 0x5A), (0x61, 0x7A), (0xB5, 0xB5), (0xC0, 0xD6), (0xD8, 0xF6), (0xF8, 0x2C1), (0x370, 0x374), (0x376, 0x377),
   (0x37A, 0x37D), (0x37F, 0x37F), (0x386, 0x386), (0x388, 0x38A), (0x38C, 0x38C), (0x38E, 0x3A1), (0x3A3, 0x3F5),
   (0x3F7, 0x481), (0x48A, 0x52F), (0x531, 0x556), (0x560, 0x588), (0x10A0, 0x10C5), (0x10C7, 0x10C7),
   (0x10CD, 0x10CD), (0x10D0, 0x10FA), (0x10FC, 0x1248), (0x13A0, 0x13F5), (0x13F8, 0x13FD), (0x1C80, 0x1C88),
   (0x1C90, 0x1CBA), (0x1CBD, 0x1CBF), (0x1D00, 0x1DBF), (0x1E00, 0x1F15), (0x1F18, 0x1F1D), (0x1F20, 0x1F45),
   (0x1F48, 0x1F4D), (0x1F50, 0x1F57), (0x1F59, 0x1F59), (0x1F5B, 0x1F5B), (0x1F5D, 0x1F5D), (0x1F5F, 0x1F7D),
   (0x1F80, 0x1FB4), (0x1FB6, 0x1FBC), (0x1FBE, 0x1FBE), (0x1FC2, 0x1FC4), (0x1FC6, 0x1FCC), (0x1FD0, 0x1FD3),
   (0x1FD6, 0x1FDB), (0x1FE0, 0x1FEC), (0x1FF2, 0x1FF4), (0x1FF6, 0x1FFC), (0x212F, 0x2139), (0x214E, 0x214E),
   (0x2183, 0x2184), (0x2C00, 0x2CE4), (0x2CEB, 0x2CEE), (0x2CF2, 0x2CF3), (0x2D00, 0x2D25), (0x2D27, 0x2D27),
   (0x2D2D, 0x2D2D), (0xA640, 0xA66E), (0xA67F, 0xA69D), (0xA722, 0xA788), (0xA78B, 0xA7CA), (0xA7D0, 0xA7D1),
   (0xA7D5, 0xA7D9), (0xA7F2, 0xA801), (0xAB30, 0xAB5A), (0xAB70, 0xABE2), (0xFB00, 0xFB06), (0xFB13, 0xFB17),
   (0xFF21, 0xFF3A), (0xFF41, 0xFF5A), (0x10400, 0x1049D), (0x104B0, 0x104D3), (0x104D8, 0x104FB), (0x10570, 0x1057A),
   (0x1057C, 0x1058A), (0x1058C, 0x10592), (0x10594, 0x10595), (0x10597, 0x105A1), (0x105A3, 0x105B1),
   (0x105B3, 0x105B9), (0x105BB, 0x105BC), (0x10C80, 0x10CB2), (0x10CC0, 0x10CF2), (0x118A0, 0x118DF),
   (0x16E40, 0x16E7F), (0x1E900, 0x1E943)]

theorem contains_letterRanges {n : Nat} (h : caseLetterRanges.contains n = true) : letterRanges.contains n = true :=
  Ranges.contains_of_within (by decide +kernel) h

/-- No numeral is a letter. -/
theorem isLetter_of_isNumeral {c : Char} (h : isNumeral c = true) : isLetter c = false :=
  Ranges.contains_of_apart (r := numeralRanges) (by decide +kernel) h

end Text

namespace Naming

open Text

/-! ## Identifiers -/

/-- Whether a code point is that of a letter, an underscore or a decimal digit. -/
def isIdentifierCode (n : Nat) : Bool := letterRanges.contains n || n == 0x5F || decimalRanges.contains n

/-- Whether an identifier may go on with the character. -/
def isIdentifierChar (c : Char) : Bool := isLetter c || c == '_' || isDecimal c

/-- Whether an identifier may start with the character. -/
def startsIdentifier (c : Char) : Bool := isLetter c || c == '_'

/-- Whether a text is an identifier of Go. -/
def isIdentifier : Text → Bool
  | [] => false
  | c :: t => startsIdentifier c && t.all isIdentifierChar

/-- Letters without a capital of their own: in upper case they are a letter with combining marks. -/
def markedCapitalRanges : Ranges :=
  [(0x1F0, 0x1F0), (0x390, 0x390), (0x3B0, 0x3B0), (0x1E96, 0x1E99), (0x1F50, 0x1F50), (0x1F52, 0x1F52),
   (0x1F54, 0x1F54), (0x1F56, 0x1F56), (0x1FB6, 0x1FB7), (0x1FC6, 0x1FC7), (0x1FD2, 0x1FD3), (0x1FD6, 0x1FD7),
   (0x1FE2, 0x1FE4), (0x1FE6, 0x1FE7), (0x1FF6, 0x1FF7)]

/-- Whether the capital of a letter is written with combining marks. -/
def hasMarkedCapital (c : Char) : Bool := markedCapitalRanges.contains c.toNat

theorem isIdentifierCode_toNat (c : Char) : isIdentifierCode c.toNat = isIdentifierChar c := by
  have hunderscore : (c.toNat == 0x5F) = (c == '_') := by
    rw [Bool.eq_iff_iff, beq_iff_eq, beq_iff_eq]
    exact ⟨fun h => by rw [← Char.ofNat_toNat c, h], fun h => by rw [h]; rfl⟩
  rw [isIdentifierCode, hunderscore]
  rfl

theorem isIdentifierChar_ofNat {n : Nat} (h : n.isValidChar) :
    isIdentifierChar (Char.ofNat n) = isIdentifierCode n := by
  rw [← isIdentifierCode_toNat, toNat_ofNat h]

/-- The letters and numerals of identifiers are letters and decimal digits. -/
theorem isIdentifierChar_iff {c : Char} (h : isAlphanumeric c = true) :
    isIdentifierChar c = true ↔ (isNumeral c = true → isDecimal c = true) := by
  simp only [isIdentifierChar, Bool.or_eq_true, beq_iff_eq]
  constructor
  · rintro ((hletter | rfl) | hdecimal) hnumeral
    · rw [isLetter_of_isNumeral hnumeral] at hletter
      cases hletter
    · exact absurd hnumeral (by decide)
    · exact hdecimal
  · intro hdecimal
    simp only [isAlphanumeric, Bool.or_eq_true] at h
    exact h.elim (fun hletter => .inl (.inl hletter)) fun hnumeral => .inr (hdecimal hnumeral)

/-! ## Identifiers and upper case -/

/-- A letter with a marked capital is not one of those that have one character for a capital. -/
theorem hasMarkedCapital_of_lookup {c : Char} (h : upperExpansions.lookup c.toNat = none) :
    hasMarkedCapital c = false := by
  cases hmarked : hasMarkedCapital c with
  | false => rfl
  | true =>
    have hsome := Ranges.of_contains (P := fun n => (upperExpansions.lookup n).isSome) (by decide +kernel) hmarked
    rw [h] at hsome
    cases hsome

/-- Whether none of the code points from `lo` to `hi` is of identifiers. -/
def avoidsIdentifiers (lo hi : Nat) : Bool :=
  letterRanges.misses lo hi && decimalRanges.misses lo hi && (Nat.blt hi 0x5F || Nat.blt 0x5F lo)

theorem isIdentifierCode_of_avoidsIdentifiers {lo hi n : Nat} (hlo : lo ≤ n) (hhi : n ≤ hi)
    (h : avoidsIdentifiers lo hi = true) : isIdentifierCode n = false := by
  simp only [avoidsIdentifiers, Bool.and_eq_true, Bool.or_eq_true, Nat.blt_eq] at h
  obtain ⟨⟨hletters, hdecimals⟩, hunderscore⟩ := h
  have hne : (n == 0x5F) = false := beq_false_of_ne (by omega)
  rw [isIdentifierCode, Ranges.contains_of_misses hlo hhi hletters, Ranges.contains_of_misses hlo hhi hdecimals, hne]
  rfl

/-- Whether a run leads from letters to letters. All but a few do. -/
def joinsLetters (r : CaseRun) : Bool :=
  caseLetterRanges.covers r.first r.last && (caseLetterRanges.covers r.image (r.image + (r.last - r.first)) ||
    (List.range' r.image ((r.last - r.first) / r.step + 1) r.step).all caseLetterRanges.contains)

theorem contains_image_of_joinsLetters {r : CaseRun} {n : Nat} (hfirst : r.first ≤ n) (hlast : n ≤ r.last)
    (hstep : r.step ∣ n - r.first) (h : joinsLetters r = true) :
    letterRanges.contains n = true ∧ letterRanges.contains (r.image + (n - r.first)) = true := by
  simp only [joinsLetters, Bool.and_eq_true, Bool.or_eq_true] at h
  obtain ⟨hsource, himage⟩ := h
  refine ⟨contains_letterRanges (Ranges.contains_of_covers hfirst hlast hsource), contains_letterRanges ?_⟩
  rcases himage with hcovers | hsteps
  · exact Ranges.contains_of_covers (by omega) (by omega) hcovers
  · -- the code points between the steps are of no letters
    refine List.all_eq_true.mp hsteps _ (List.mem_range'.mpr ⟨(n - r.first) / r.step, ?_, ?_⟩)
    · exact Nat.lt_succ_of_le (Nat.div_le_div_right (by omega))
    · rw [Nat.mul_div_cancel' hstep]

/-- Whether a run neither leads from identifiers nor to them, as with Roman numerals. -/
def joinsOthers (r : CaseRun) : Bool :=
  avoidsIdentifiers r.first r.last && avoidsIdentifiers r.image (r.image + (r.last - r.first))

/-- Whether a run starts at marks and symbols, of which no segment has one. -/
def startsAtMarks (r : CaseRun) : Bool :=
  letterRanges.misses r.first r.last && numeralRanges.misses r.first r.last

/-- What the capitals of a run have to do with identifiers. -/
inductive Bearing (r : CaseRun) : Prop
  | letters (h : joinsLetters r = true)
  | others (h : joinsOthers r = true)
  | marks (h : startsAtMarks r = true)

theorem bearing_of_mem {r : CaseRun} (hr : r ∈ upperRuns) : Bearing r := by
  have hruns : ∀ r ∈ upperRuns, (joinsLetters r || joinsOthers r || startsAtMarks r) = true := by decide +kernel
  have hrun := hruns r hr
  rw [Bool.or_eq_true, Bool.or_eq_true] at hrun
  exact hrun.elim (·.elim .letters .others) .marks

/-- What a run leads to is of identifiers if what it comes from is. -/
theorem isIdentifierCode_image {r : CaseRun} (hr : r ∈ upperRuns) {c : Char} (hc : isAlphanumeric c = true)
    (hfirst : r.first ≤ c.toNat) (hlast : c.toNat ≤ r.last) (hstep : r.step ∣ c.toNat - r.first) :
    isIdentifierCode (r.image + (c.toNat - r.first)) = isIdentifierChar c := by
  rw [← isIdentifierCode_toNat]
  cases bearing_of_mem hr with
  | letters h =>
    obtain ⟨hsource, himage⟩ := contains_image_of_joinsLetters hfirst hlast hstep h
    rw [isIdentifierCode, isIdentifierCode, hsource, himage]
    rfl
  | others h =>
    simp only [joinsOthers, Bool.and_eq_true] at h
    rw [isIdentifierCode_of_avoidsIdentifiers hfirst hlast h.1,
      isIdentifierCode_of_avoidsIdentifiers (by omega) (by omega) h.2]
  | marks h =>
    simp only [startsAtMarks, Bool.and_eq_true] at h
    rw [isAlphanumeric, isLetter, isNumeral, Ranges.contains_of_misses hfirst hlast h.1,
      Ranges.contains_of_misses hfirst hlast h.2] at hc
    cases hc

/-- What a letter is written with in upper case is of identifiers, unless there are marks. -/
theorem all_isIdentifierCode {e : Nat × List Nat} (he : e ∈ upperExpansions) :
    e.2.all isIdentifierCode = !markedCapitalRanges.contains e.1 := by
  have hexpansions : ∀ e ∈ upperExpansions,
      (bif markedCapitalRanges.contains e.1 then e.2.any fun n => avoidsIdentifiers n n
        else e.2.all fun n => caseLetterRanges.covers n n) = true := by decide +kernel
  have himages := hexpansions e he
  cases hmarked : markedCapitalRanges.contains e.1 with
  | true =>
    rw [hmarked, cond_true, List.any_eq_true] at himages
    obtain ⟨n, hn, havoids⟩ := himages
    refine Bool.eq_false_iff.mpr fun hall => ?_
    have hcode := List.all_eq_true.mp hall n hn
    rw [isIdentifierCode_of_avoidsIdentifiers (Nat.le_refl n) (Nat.le_refl n) havoids] at hcode
    cases hcode
  | false =>
    rw [hmarked, cond_false, List.all_eq_true] at himages
    refine List.all_eq_true.mpr fun n hn => ?_
    have hletter := contains_letterRanges (Ranges.contains_of_covers (Nat.le_refl n) (Nat.le_refl n) (himages n hn))
    rw [isIdentifierCode, hletter, Bool.true_or, Bool.true_or]

/-- In upper case, a letter or numeral has characters of identifiers only if it is one and its capital has no marks. -/
theorem isIdentifier_upperChar_iff {c : Char} (hc : isAlphanumeric c = true) :
    (∀ d ∈ upperChar c, isIdentifierChar d = true) ↔ isIdentifierChar c = true ∧ hasMarkedCapital c = false := by
  have hvalid : ∀ e ∈ upperExpansions, ∀ n ∈ e.2, n.isValidChar := by decide
  have hletters : ∀ e ∈ upperExpansions, caseLetterRanges.covers e.1 e.1 = true := by decide +kernel
  rcases upperChar_cases c with ⟨image, himage, hupper⟩ | ⟨hlookup, r, hr, hfirst, hlast, hstep, hvalid, hupper⟩ |
    ⟨hlookup, -, hupper⟩ <;> rw [hupper]
  · have hletter : isIdentifierChar c = true := by
      have hcovers := Ranges.contains_of_covers (Nat.le_refl _) (Nat.le_refl _) (hletters _ himage)
      rw [← isIdentifierCode_toNat, isIdentifierCode, contains_letterRanges hcovers, Bool.true_or, Bool.true_or]
    rw [List.forall_mem_map, hletter, hasMarkedCapital, ← Bool.not_eq_true', ← all_isIdentifierCode himage,
      List.all_eq_true, eq_self, true_and]
    exact forall₂_congr fun n hn => by rw [isIdentifierChar_ofNat (hvalid _ himage n hn)]
  · simp only [List.mem_singleton, forall_eq, isIdentifierChar_ofNat hvalid,
      isIdentifierCode_image hr hc hfirst hlast hstep, hasMarkedCapital_of_lookup hlookup, and_true]
  · simp only [List.mem_singleton, forall_eq, hasMarkedCapital_of_lookup hlookup, and_true]

/-! ## Identifiers and Go names -/

/-- A Go name never starts with a digit, so that it is an identifier if its spelling has no other characters. -/
theorem isIdentifier_camel_iff_spelling (name : Text) :
    isIdentifier (camel name) = true ↔ ∀ d ∈ spelling name, isIdentifierChar d = true := by
  have hstart : startsIdentifier 'F' = true := by decide
  have hfallback : ("ield" : Text).all isIdentifierChar = true := by decide
  rw [camel_eq]
  split
  · change (startsIdentifier 'F' && ("ield" ++ spelling name).all isIdentifierChar) = true ↔ _
    rw [List.all_append, hstart, hfallback, Bool.true_and, Bool.true_and, List.all_eq_true]
  · rename_i hletters
    cases hspelling : spelling name with
    | nil => exact absurd (by rw [hspelling]; nofun) hletters
    | cons c t =>
      have hdigit : isDigit c = false := by
        simpa [NeedsFallback, hspelling] using hletters
      have hdecimal : isDecimal c = false := by
        simp only [isDigit, Bool.or_eq_false_iff] at hdigit
        exact hdigit.1
      rw [isIdentifier, Bool.and_eq_true, List.all_eq_true, List.forall_mem_cons, isIdentifierChar, hdecimal,
        Bool.or_false, startsIdentifier]

/-- A capitalised segment has characters of identifiers only if all its numerals are decimal digits and the capital
of its first letter has no marks. -/
theorem isIdentifier_capitalise_iff {segment : Text} (h : ∀ c ∈ segment, isAlphanumeric c = true) :
    (∀ d ∈ capitalise segment, isIdentifierChar d = true) ↔
      (∀ c ∈ segment, isNumeral c = true → isDecimal c = true) ∧ ∀ c ∈ segment.head?, hasMarkedCapital c = false := by
  cases segment with
  | nil => simp [capitalise]
  | cons c t =>
    rw [List.forall_mem_cons] at h
    have hrest : (∀ d ∈ t, isIdentifierChar d = true) ↔ ∀ d ∈ t, isNumeral d = true → isDecimal d = true :=
      forall₂_congr fun d hd => isIdentifierChar_iff (h.2 d hd)
    rw [capitalise, List.forall_mem_append, isIdentifier_upperChar_iff h.1, isIdentifierChar_iff h.1, hrest,
      List.forall_mem_cons]
    simp only [List.head?_cons, Option.mem_some_iff, forall_eq']
    tauto

/-- The letters and numerals of a name are those of its segments. -/
theorem mem_segments_iff {name : Text} {c : Char} :
    (∃ segment ∈ segments name, c ∈ segment) ↔ c ∈ name ∧ isAlphanumeric c = true := by
  rw [← List.mem_flatten, segments, flatten_runsOf, List.mem_filter]

/-- **The Go names that are identifiers.** The Go name of a source name is an identifier of Go exactly if all
numerals of the source name are decimal digits and no segment starts with a letter that has a marked capital. -/
theorem isIdentifier_camel_iff (name : Text) :
    isIdentifier (camel name) = true ↔
      (∀ c ∈ name, isNumeral c = true → isDecimal c = true) ∧
        ∀ segment ∈ segments name, ∀ c ∈ segment.head?, hasMarkedCapital c = false := by
  have hsegments : ∀ segment ∈ segments name, ∀ c ∈ segment, isAlphanumeric c = true :=
    fun _ hsegment => (of_mem_runsOf hsegment).2
  have hnumerals : (∀ segment ∈ segments name, ∀ c ∈ segment, isNumeral c = true → isDecimal c = true) ↔
      ∀ c ∈ name, isNumeral c = true → isDecimal c = true := by
    constructor
    · intro h c hc hnumeral
      obtain ⟨segment, hsegment, hmem⟩ := mem_segments_iff.mpr ⟨hc, by rw [isAlphanumeric, hnumeral, Bool.or_true]⟩
      exact h segment hsegment c hmem hnumeral
    · exact fun h segment hsegment c hmem => h c (mem_segments_iff.mp ⟨segment, hsegment, hmem⟩).1
  calc isIdentifier (camel name) = true
    _ ↔ ∀ d ∈ (segments name).flatMap capitalise, isIdentifierChar d = true := by
      rw [isIdentifier_camel_iff_spelling, flatMap_capitalise_segments]
    _ ↔ ∀ segment ∈ segments name, ∀ d ∈ capitalise segment, isIdentifierChar d = true := by
      exact List.forall_mem_flatMap
    _ ↔ ∀ segment ∈ segments name, (∀ c ∈ segment, isNumeral c = true → isDecimal c = true) ∧
          ∀ c ∈ segment.head?, hasMarkedCapital c = false :=
      forall₂_congr fun segment hsegment => isIdentifier_capitalise_iff (hsegments segment hsegment)
    _ ↔ (∀ c ∈ name, isNumeral c = true → isDecimal c = true) ∧
          ∀ segment ∈ segments name, ∀ c ∈ segment.head?, hasMarkedCapital c = false := by
      rw [← hnumerals]
      exact forall₂_and

/-- A superscript is a numeral that Go takes in no identifier. -/
theorem not_isIdentifier_areaSquared : camel "area_m²" = "AreaM²" ∧ isIdentifier (camel "area_m²") = false := by
  decide

end Naming

end StructForge
