import Mathlib.Data.List.Nodup
import StructForge.Proofs.Naming

/-!
# Names that become one Go name

The segments of a name, capitalised and joined, are its *spelling*: one pass over the name that skips what is neither a
letter nor a numeral and writes the next character in upper case (`flatMap_capitalise_segments`). Two names become the
same Go name exactly if they are *alike*: they have one spelling, or one of them spells what the other gets with the
fallback in front of it (`camel_eq_iff`).

Within one of the usual conventions for names nothing is merged. There, the words of a name can be read off its
spelling, since they are what starts at its capitals (`eq_of_camel`).
-/

namespace StructForge.Naming

open Text

/-! ## Spelling -/

/-- The letters and numerals of a text. Those that start a segment are written in upper case; the first one does if
`starts` says so. -/
def spell : (starts : Bool) → Text → Text
  | _, [] => []
  | starts, c :: t =>
    if isAlphanumeric c then (if starts then upperChar c else [c]) ++ spell false t else spell true t

/-- The letters and numerals of a name, with every segment capitalised. -/
def spelling (name : Text) : Text := spell true name

/-- The pieces of a text between its separators, against what the pass over it writes. -/
theorem spell_eq : ∀ t : Text, ∃ first rest, splitWhere (!isAlphanumeric ·) t = first :: rest ∧
    spell true t = capitalise first ++ rest.flatMap capitalise ∧ spell false t = first ++ rest.flatMap capitalise
  | [] => ⟨[], [], rfl, rfl, rfl⟩
  | c :: t => by
    obtain ⟨first, rest, hsplit, htrue, hfalse⟩ := spell_eq t
    cases hc : isAlphanumeric c with
    | true => exact ⟨c :: first, rest, by simp [splitWhere, hc, hsplit], by simp [spell, hc, hfalse, capitalise],
        by simp [spell, hc, hfalse]⟩
    | false => exact ⟨[], first :: rest, by simp [splitWhere, hc, hsplit], by simp [spell, hc, htrue, capitalise],
        by simp [spell, hc, htrue]⟩

/-- Pieces without characters add nothing. -/
theorem flatMap_capitalise_filter (pieces : List Text) :
    (pieces.filter (!·.isEmpty)).flatMap capitalise = pieces.flatMap capitalise := by
  induction pieces with
  | nil => rfl
  | cons piece rest ih =>
    cases piece with
    | nil => exact ih
    | cons c t => exact congrArg (capitalise (c :: t) ++ ·) ih

/-- Capitalising the segments of a name and joining them is one pass over the name. -/
theorem flatMap_capitalise_segments (name : Text) : (segments name).flatMap capitalise = spelling name := by
  obtain ⟨first, rest, hsplit, hspell, -⟩ := spell_eq name
  rw [segments, runsOf, flatMap_capitalise_filter, hsplit, List.flatMap_cons, spelling, hspell]

/-! ## Names that are alike -/

/-- Letters that are no name by themselves: there are none, or they start with a digit. -/
def NeedsFallback (letters : Text) : Prop := ∀ c ∈ letters.head?, isDigit c = true

/-- Only the first letter is looked at, not every character there is. -/
instance (letters : Text) : Decidable (NeedsFallback letters) :=
  decidable_of_iff (letters.head?.all isDigit = true) (Option.all_eq_true _ _)

/-- The first name needs the fallback in front of its letters, and the second one spells both. -/
def SpellsFallback (a b : Text) : Prop := NeedsFallback (spelling a) ∧ spelling b = fallback ++ spelling a

/-- Names that have the same letters, or that do with the fallback in front of those of one of them. -/
def Alike (a b : Text) : Prop := spelling a = spelling b ∨ SpellsFallback a b ∨ SpellsFallback b a

instance (a b : Text) : Decidable (Alike a b) := by
  unfold Alike SpellsFallback
  infer_instance

theorem camel_eq (name : Text) :
    camel name = if NeedsFallback (spelling name) then fallback ++ spelling name else spelling name := by
  rw [camel, flatMap_capitalise_segments]
  cases spelling name with
  | nil => rfl
  | cons c t => simp [NeedsFallback]

/-- The fallback is a name by itself, with whatever letters behind it. -/
theorem not_needsFallback_fallback (letters : Text) : ¬NeedsFallback (fallback ++ letters) := by
  intro h
  exact absurd (h 'F' rfl) (by decide +kernel)

/-- Two names become the same Go name exactly if they are alike. -/
theorem camel_eq_iff (a b : Text) : camel a = camel b ↔ Alike a b := by
  rw [camel_eq, camel_eq, Alike, SpellsFallback, SpellsFallback]
  by_cases ha : NeedsFallback (spelling a) <;> by_cases hb : NeedsFallback (spelling b)
  · -- neither spelling starts with the fallback
    have hne : ∀ {x y : Text}, NeedsFallback x → x ≠ fallback ++ y := by
      rintro x y hx rfl
      exact not_needsFallback_fallback y hx
    simp [ha, hb, hne ha, hne hb]
  · have hne : spelling a ≠ spelling b := fun h => hb (h ▸ ha)
    simp [ha, hb, hne, eq_comm]
  · have hne : spelling a ≠ spelling b := fun h => ha (h ▸ hb)
    simp [ha, hb, hne]
  · simp [ha, hb]

/-! ## Conventions -/

/-- The usual ways of writing names. -/
inductive Convention where
  /-- Words with a separator between them, as in `user_id` or `user-id`. -/
  | separated (sep : Char)
  /-- As in `userId`. -/
  | camelCase
  /-- As in `UserId`. -/
  | pascalCase
  deriving DecidableEq

/-- A small letter with letters and numerals behind it, none of them a capital. -/
def isLowerWord : Text → Bool
  | [] => false
  | c :: t => isSmall c && t.all fun d => isAlphanumeric d && !isCapital d

/-- Whether a name is written like that. -/
def Convention.covers : Convention → Text → Bool
  | .separated sep, name => !isAlphanumeric sep && (splitOn sep name).all isLowerWord
  | .camelCase, c :: t => isSmall c && t.all isAlphanumeric
  | .pascalCase, c :: t => isCapital c && t.all isAlphanumeric
  | .camelCase, [] | .pascalCase, [] => false

theorem exists_upperChar_of_isSmall {c : Char} (h : isSmall c = true) :
    ∃ d, upperChar c = [d] ∧ isCapital d = true ∧ Char.ofNat (d.toNat + 0x20) = c ∧ isAlphanumeric c = true := by
  have hupper : ((upperChar c).all fun d => isCapital d && Char.ofNat (d.toNat + 0x20) == c) = true ∧
      (upperChar c).length = 1 ∧ isAlphanumeric c = true :=
    of_isSmall (P := fun c => ((upperChar c).all fun d => isCapital d && Char.ofNat (d.toNat + 0x20) == c) = true ∧
      (upperChar c).length = 1 ∧ isAlphanumeric c = true) (by decide +kernel) h
  obtain ⟨hall, hlength, halnum⟩ := hupper
  obtain ⟨d, hd⟩ := List.length_eq_one_iff.mp hlength
  rw [hd] at hall
  simp only [List.all_cons, List.all_nil, Bool.and_true, Bool.and_eq_true, beq_iff_eq] at hall
  exact ⟨d, hd, hall.1, hall.2, halnum⟩

theorem upperChar_of_isCapital {c : Char} (h : isCapital c = true) : upperChar c = [c] :=
  of_isCapital (P := fun c => upperChar c = [c]) (by decide +kernel) h

theorem isDigit_of_isCapital {c : Char} (h : isCapital c = true) : isDigit c = false :=
  of_isCapital (P := fun c => isDigit c = false) (by decide +kernel) h

/-- The small letter is known from the capital. -/
theorem eq_of_upperChar {c d : Char} (hc : isSmall c = true) (hd : isSmall d = true)
    (h : upperChar c = upperChar d) : c = d := by
  obtain ⟨c', hc', -, hback, -⟩ := exists_upperChar_of_isSmall hc
  obtain ⟨d', hd', -, hback', -⟩ := exists_upperChar_of_isSmall hd
  rw [hc', hd', List.singleton_inj] at h
  rw [← hback, ← hback', h]

theorem spell_of_forall {t : Text} (h : t.all isAlphanumeric = true) : spell false t = t := by
  induction t with
  | nil => rfl
  | cons c t ih =>
    simp only [List.all_cons, Bool.and_eq_true] at h
    simp [spell, h.1, ih h.2]

/-- A name that is one segment. -/
theorem spelling_cons {c : Char} {t : Text} (hc : isAlphanumeric c = true) (ht : t.all isAlphanumeric = true) :
    spelling (c :: t) = upperChar c ++ t := by
  simp [spelling, spell, hc, spell_of_forall ht]

/-! ## Words of a spelling -/

/-- A text that is empty or starts with a capital. -/
def OpensWord (t : Text) : Prop := ∀ c ∈ t.head?, isCapital c = true

/-- What stands in front of the next capital is known from the whole. -/
theorem append_inj_of_opensWord {t t' u u' : Text} (ht : ∀ c ∈ t, isCapital c = false)
    (ht' : ∀ c ∈ t', isCapital c = false) (hu : OpensWord u) (hu' : OpensWord u') (h : t ++ u = t' ++ u') :
    t = t' ∧ u = u' := by
  have htake : ∀ {v w : Text}, (∀ c ∈ v, isCapital c = false) → OpensWord w →
      (v ++ w).takeWhile (!isCapital ·) = v := by
    intro v w hv hw
    rw [List.takeWhile_append_of_pos (by simpa using hv)]
    cases w with
    | nil => exact List.append_nil v
    | cons c w => simp [hw c rfl]
  have hfront : t = t' := by rw [← htake ht hu, h, htake ht' hu']
  subst hfront
  exact ⟨rfl, List.append_cancel_left h⟩

/-- The capitalised form of a word: a capital, and the rest of the word, where there is none. -/
theorem exists_of_isLowerWord {word : Text} (h : isLowerWord word = true) : ∃ c d t, word = c :: t ∧
    isSmall c = true ∧ capitalise word = d :: t ∧ upperChar c = [d] ∧ isCapital d = true ∧
    ∀ e ∈ t, isCapital e = false := by
  obtain _ | ⟨c, t⟩ := word
  · cases h
  · simp only [isLowerWord, Bool.and_eq_true, List.all_eq_true, Bool.not_eq_true'] at h
    obtain ⟨d, hd, hcapital, -, -⟩ := exists_upperChar_of_isSmall h.1
    exact ⟨c, d, t, rfl, h.1, by rw [capitalise, hd, List.singleton_append], hd, hcapital, fun e he => (h.2 e he).2⟩

theorem opensWord_flatMap {words : List Text} (h : ∀ word ∈ words, isLowerWord word = true) :
    OpensWord (words.flatMap capitalise) := by
  cases words with
  | nil => nofun
  | cons word rest =>
    obtain ⟨c, d, t, -, -, hcapitalise, -, hd, -⟩ := exists_of_isLowerWord (h word List.mem_cons_self)
    rw [List.flatMap_cons, hcapitalise]
    rintro e ⟨⟩
    exact hd

/-- Words are read off what they are when capitalised and joined, one capital after another. -/
theorem flatMap_capitalise_inj : ∀ {words words' : List Text}, (∀ word ∈ words, isLowerWord word = true) →
    (∀ word ∈ words', isLowerWord word = true) → words.flatMap capitalise = words'.flatMap capitalise → words = words'
  | [], [], _, _, _ => rfl
  | [], word :: rest, _, h', h | word :: rest, [], h', _, h => by
    obtain ⟨c, d, t, -, -, hcapitalise, -⟩ := exists_of_isLowerWord (h' word List.mem_cons_self)
    rw [List.flatMap_cons, hcapitalise] at h
    cases h
  | word :: rest, word' :: rest', hw, hw', h => by
    rw [List.forall_mem_cons] at hw hw'
    obtain ⟨c, d, t, rfl, hc, hcapitalise, hd, -, ht⟩ := exists_of_isLowerWord hw.1
    obtain ⟨c', d', t', rfl, hc', hcapitalise', hd', -, ht'⟩ := exists_of_isLowerWord hw'.1
    rw [List.flatMap_cons, List.flatMap_cons, hcapitalise, hcapitalise', List.cons_append, List.cons_append] at h
    obtain ⟨rfl, htail⟩ := List.cons_eq_cons.mp h
    obtain ⟨rfl, hrest⟩ := append_inj_of_opensWord ht ht' (opensWord_flatMap hw.2) (opensWord_flatMap hw'.2) htail
    rw [eq_of_upperChar hc hc' (hd.trans hd'.symm), flatMap_capitalise_inj hw.2 hw'.2 hrest]

/-! ## Names of one convention -/

theorem splitWhere_congr {p q : Char → Bool} {t : Text} (h : ∀ c ∈ t, p c = q c) : splitWhere p t = splitWhere q t := by
  induction t with
  | nil => rfl
  | cons c t ih =>
    rw [List.forall_mem_cons] at h
    rw [splitWhere, splitWhere, h.1, ih h.2]

theorem isAlphanumeric_of_mem_lowerWord {word : Text} (h : isLowerWord word = true) {c : Char} (hc : c ∈ word) :
    isAlphanumeric c = true := by
  obtain _ | ⟨d, t⟩ := word
  · cases hc
  · simp only [isLowerWord, Bool.and_eq_true, List.all_eq_true] at h
    rcases List.mem_cons.mp hc with rfl | hc
    · obtain ⟨-, -, -, -, halnum⟩ := exists_upperChar_of_isSmall h.1
      exact halnum
    · exact (h.2 c hc).1

/-- The segments of words with separators between them are the words. -/
theorem segments_of_separated {sep : Char} {name : Text} (hsep : isAlphanumeric sep = false)
    (h : ∀ word ∈ splitOn sep name, isLowerWord word = true) : segments name = splitOn sep name := by
  have hchars : ∀ c ∈ name, (!isAlphanumeric c) = (c == sep) := by
    intro c hc
    rw [← join_splitOn sep name] at hc
    rcases mem_join hc with hc | ⟨word, hword, hc⟩
    · simp [List.mem_singleton.mp hc, hsep]
    · have halnum := isAlphanumeric_of_mem_lowerWord (h word hword) hc
      have hne : c ≠ sep := by
        rintro rfl
        rw [hsep] at halnum
        cases halnum
      simp [halnum, hne]
  rw [segments, runsOf, splitWhere_congr hchars]
  refine List.filter_eq_self.mpr fun word hword => ?_
  obtain ⟨c, d, t, rfl, -⟩ := exists_of_isLowerWord (h word hword)
  rfl

/-- A name of any convention is spelled with a capital at the start. -/
theorem exists_spelling_of_covers {k : Convention} {name : Text} (h : k.covers name = true) :
    ∃ c t, spelling name = c :: t ∧ isCapital c = true := by
  cases k with
  | separated sep =>
    simp only [Convention.covers, Bool.and_eq_true, Bool.not_eq_true', List.all_eq_true] at h
    rw [← flatMap_capitalise_segments, segments_of_separated h.1 h.2]
    obtain ⟨word, rest, hwords⟩ := List.exists_cons_of_ne_nil (splitWhere_ne_nil (· == sep) name)
    rw [splitOn, hwords] at h ⊢
    obtain ⟨c, d, t, -, -, hcapitalise, -, hd, -⟩ := exists_of_isLowerWord (h.2 word List.mem_cons_self)
    exact ⟨d, t ++ rest.flatMap capitalise, by rw [List.flatMap_cons, hcapitalise, List.cons_append], hd⟩
  | camelCase =>
    obtain _ | ⟨c, t⟩ := name
    · cases h
    · simp only [Convention.covers, Bool.and_eq_true] at h
      obtain ⟨d, hd, hcapital, -, halnum⟩ := exists_upperChar_of_isSmall h.1
      exact ⟨d, t, by rw [spelling_cons halnum h.2, hd, List.singleton_append], hcapital⟩
  | pascalCase =>
    obtain _ | ⟨c, t⟩ := name
    · cases h
    · simp only [Convention.covers, Bool.and_eq_true] at h
      exact ⟨c, t, by rw [spelling_cons (isAlphanumeric_of_isCapital h.1) h.2, upperChar_of_isCapital h.1,
        List.singleton_append], h.1⟩

/-- A name of a convention is known from its spelling. -/
theorem eq_of_spelling {k : Convention} {a b : Text} (ha : k.covers a = true) (hb : k.covers b = true)
    (h : spelling a = spelling b) : a = b := by
  cases k with
  | separated sep =>
    simp only [Convention.covers, Bool.and_eq_true, Bool.not_eq_true', List.all_eq_true] at ha hb
    rw [← flatMap_capitalise_segments, ← flatMap_capitalise_segments, segments_of_separated ha.1 ha.2,
      segments_of_separated hb.1 hb.2] at h
    rw [← join_splitOn sep a, ← join_splitOn sep b, flatMap_capitalise_inj ha.2 hb.2 h]
  | camelCase =>
    obtain _ | ⟨c, t⟩ := a
    · cases ha
    obtain _ | ⟨d, u⟩ := b
    · cases hb
    simp only [Convention.covers, Bool.and_eq_true] at ha hb
    obtain ⟨c', hc, -, -, hcalnum⟩ := exists_upperChar_of_isSmall ha.1
    obtain ⟨d', hd, -, -, hdalnum⟩ := exists_upperChar_of_isSmall hb.1
    rw [spelling_cons hcalnum ha.2, spelling_cons hdalnum hb.2, hc, hd, List.singleton_append,
      List.singleton_append] at h
    obtain ⟨rfl, rfl⟩ := List.cons_eq_cons.mp h
    rw [eq_of_upperChar ha.1 hb.1 (hc.trans hd.symm)]
  | pascalCase =>
    obtain _ | ⟨c, t⟩ := a
    · cases ha
    obtain _ | ⟨d, u⟩ := b
    · cases hb
    simp only [Convention.covers, Bool.and_eq_true] at ha hb
    rwa [spelling_cons (isAlphanumeric_of_isCapital ha.1) ha.2, spelling_cons (isAlphanumeric_of_isCapital hb.1) hb.2,
      upperChar_of_isCapital ha.1, upperChar_of_isCapital hb.1] at h

/-- Names of a convention need no fallback, so that no two of them are alike. -/
theorem eq_of_alike {k : Convention} {a b : Text} (ha : k.covers a = true) (hb : k.covers b = true)
    (h : Alike a b) : a = b := by
  have hneeds : ∀ {name : Text}, k.covers name = true → ¬NeedsFallback (spelling name) := by
    intro name hname hneeds
    obtain ⟨c, t, hspelling, hcapital⟩ := exists_spelling_of_covers hname
    rw [hspelling] at hneeds
    have hdigit := hneeds c rfl
    rw [isDigit_of_isCapital hcapital] at hdigit
    cases hdigit
  rcases h with h | h | h
  · exact eq_of_spelling ha hb h
  · exact absurd h.1 (hneeds ha)
  · exact absurd h.1 (hneeds hb)

/-! ## Lists of names -/

/-- The Go names of some names are distinct exactly if no two of the names are alike. -/
theorem nodup_map_camel_iff {names : List Text} : (names.map camel).Nodup ↔ names.Pairwise fun a b => ¬Alike a b := by
  rw [List.Nodup, List.pairwise_map]
  exact List.Pairwise.iff fun {a b} => not_congr (camel_eq_iff a b)

/-- Distinct names of one convention have distinct Go names. -/
theorem nodup_map_camel_of_covers {k : Convention} {names : List Text} (hnames : names.Nodup)
    (h : ∀ name ∈ names, k.covers name = true) : (names.map camel).Nodup :=
  List.Nodup.map_on (fun a ha b hb hcamel => eq_of_alike (h a ha) (h b hb) ((camel_eq_iff a b).mp hcamel))
    hnames

end StructForge.Naming
