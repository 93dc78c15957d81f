import StructForge.Proofs.Go.Imports
import StructForge.Proofs.Sql.ArraySuffixes
import StructForge.Proofs.Sql.NormalForms
import StructForge.Proofs.Sql.SpacedTypes

/-!
# Types with array suffixes

The Go type of a type of PostgreSQL comes from a recursion: the type is brought into normal form, and if it then ends in
an array suffix, the recursion goes on with what stands in front of the suffix (`Unwraps`). It ends for every type
(`exists_unwraps`), since the normal form of what stands in front is no longer than that. The suffixes that are peeled
off all at once are those of the recursion (`peelArrays_of_unwraps`), and a suffix behind a type is one more call
(`Unwraps.append`).

So a suffix puts the brackets of one slice in front of the Go type, as long as there is room for all the slices
(`wraps_iff_of_unwraps`); the other dialects pass over it (`goType_append`). Both are put together in `wraps_iff`.
-/

namespace StructForge.Sql

open Text

/-! ## Suffixes -/

/-- An array suffix: decimal digits, or nothing, in brackets. -/
structure ArraySuffix where
  digits : Text
  decimal : ∀ c ∈ digits, isDecimal c = true

namespace ArraySuffix

/-- The suffix without digits. -/
def empty : ArraySuffix := ⟨[], nofun⟩

variable (a : ArraySuffix)

/-- The suffix as it is written. -/
def text : Text := '[' :: (a.digits ++ [']'])

theorem mem_text {c : Char} (h : c ∈ a.text) : c = '[' ∨ isDecimal c = true ∨ c = ']' := by
  rw [text, List.mem_cons, List.mem_append, List.mem_singleton] at h
  exact h.imp_right (Or.imp_left (a.decimal c))

theorem isBlank_of_mem_text {c : Char} (h : c ∈ a.text) : isBlank c = false := by
  rcases a.mem_text h with rfl | hdecimal | rfl
  · decide
  · refine Bool.eq_false_iff.mpr fun hblank => ?_
    rw [isDecimal_of_isBlank hblank] at hdecimal
    cases hdecimal
  · decide

theorem upperChar_of_mem_text {c : Char} (h : c ∈ a.text) : upperChar c = [c] := by
  rcases a.mem_text h with rfl | hdecimal | rfl
  · decide
  · exact upperChar_of_isDecimal hdecimal
  · decide

/-- Behind a type, a suffix stands behind its normal form. -/
theorem normalType_append (type : Text) : normalType (type ++ a.text) = normalFront type ++ a.text := by
  have htrim : trim (type ++ a.text) = type.dropWhile isBlank ++ a.text := by
    rw [text, trim_stop type _ (by decide), dropEndWhile_stop (by decide)]
    rfl
  have hsuffix : collapseBlanks a.text = a.text := collapseBlanks_of_forall fun c hc => a.isBlank_of_mem_text hc
  have hupper : upper a.text = a.text := upper_eq_self fun c hc => a.upperChar_of_mem_text hc
  have hfront : collapseBlanks (upper (type.dropWhile isBlank) ++ a.text) = normalFront type ++ collapseBlanks a.text :=
    collapseBlanks_append (by decide) _ _
  rw [normalType, htrim, upper_append, hupper, hfront, hsuffix]

/-- It is what is dropped there. -/
theorem dropArraySuffix?_append (type : Text) :
    dropArraySuffix? (normalType (type ++ a.text)) = some (normalFront type) :=
  dropArraySuffix?_eq_some_iff.mpr ⟨a.digits, a.decimal, a.normalType_append type⟩

end ArraySuffix

/-- Array suffixes one after another. -/
def suffixTexts (suffixes : List ArraySuffix) : Text := suffixes.flatMap ArraySuffix.text

/-! ## The recursion -/

/-- The recursion over the suffixes of a type: how often it calls itself, and the text that it then looks up. Every call
starts with bringing its type into normal form. -/
inductive Unwraps : (calls : Nat) → (type element : Text) → Prop
  | done {type : Text} (h : dropArraySuffix? (normalType type) = none) : Unwraps 0 type (normalType type)
  | call {calls : Nat} {type base element : Text} (h : dropArraySuffix? (normalType type) = some base)
      (hbase : Unwraps calls base element) : Unwraps (calls + 1) type element

/-- What stands in front of a suffix is only trimmed by the next call. -/
theorem normalType_of_dropArraySuffix? {type base : Text} (h : dropArraySuffix? (normalType type) = some base) :
    normalType base = trim base := by
  obtain ⟨digits, -, hsplit⟩ := dropArraySuffix?_eq_some_iff.mp h
  have hfront : base <+: normalType type := hsplit ▸ List.prefix_append base _
  exact ((isNormal_normalType type).part hfront.isInfix).normalType_eq

/-- The recursion ends for every type: the normal forms get shorter and shorter. -/
theorem exists_unwraps (type : Text) : ∃ calls element, Unwraps calls type element := by
  induction hlength : (normalType type).length using Nat.strongRecOn generalizing type with
  | ind length ih =>
    cases hdrop : dropArraySuffix? (normalType type) with
    | none => exact ⟨0, normalType type, .done hdrop⟩
    | some base =>
      rw [← trim_normalType] at hdrop
      have hshorter := length_lt_of_dropArraySuffix? hdrop
      rw [trim_normalType] at hdrop
      have htrim := length_trim_le base
      rw [← normalType_of_dropArraySuffix? hdrop] at htrim
      obtain ⟨calls, element, hbase⟩ := ih _ (by omega) base rfl
      exact ⟨calls + 1, element, .call hdrop hbase⟩

namespace Unwraps

variable {calls : Nat} {type element : Text}

/-- Only the normal form of a type matters. -/
theorem congr (h : Unwraps calls type element) {type' : Text} (hnormal : normalType type' = normalType type) :
    Unwraps calls type' element := by
  cases h with
  | done hdrop =>
    rw [← hnormal] at hdrop ⊢
    exact .done hdrop
  | call hdrop hbase =>
    rw [← hnormal] at hdrop
    exact .call hdrop hbase

/-- Another suffix is one more call. -/
theorem append (h : Unwraps calls type element) (a : ArraySuffix) : Unwraps (calls + 1) (type ++ a.text) element := by
  have hfront : normalType (normalFront type) = normalType type := by
    rw [(isNormal_normalFront type).normalType_eq, trim_normalFront]
  exact .call (a.dropArraySuffix?_append type) (h.congr hfront)

/-- And so are all the suffixes behind a type. -/
theorem append_suffixTexts (h : Unwraps calls type element) (suffixes : List ArraySuffix) :
    Unwraps (calls + suffixes.length) (type ++ suffixTexts suffixes) element := by
  induction suffixes generalizing calls type with
  | nil =>
    rw [suffixTexts, List.flatMap_nil, List.append_nil]
    exact h
  | cons a suffixes ih =>
    have hrest := ih (h.append a)
    rw [List.append_assoc] at hrest
    rw [List.length_cons, Nat.add_comm suffixes.length, ← Nat.add_assoc, suffixTexts, List.flatMap_cons]
    exact hrest

end Unwraps

/-- Peeling off the suffixes all at once takes off those of the recursion, by induction over its calls. -/
theorem peelArrays_of_unwraps {calls : Nat} {type element : Text} (h : Unwraps calls type element) {fuel : Nat}
    {t : Text} (ht : trim t = normalType type) (hfuel : t.length ≤ fuel) :
    (peelArrays fuel t).1 = calls ∧ trim (peelArrays fuel t).2 = element := by
  induction h generalizing fuel t with
  | done hdrop =>
    rw [← ht] at hdrop
    have hpeel : peelArrays fuel t = (0, t) := by
      cases fuel with
      | zero => rfl
      | succ fuel => rw [peelArrays, hdrop]
    rw [hpeel]
    exact ⟨rfl, ht⟩
  | @call calls type base element hdrop hbase ih =>
    have htrim := (normalType_of_dropArraySuffix? hdrop).symm
    rw [← ht] at hdrop
    have hshorter := length_lt_of_dropArraySuffix? hdrop
    cases fuel with
    | zero => omega
    | succ fuel =>
      have hrest : base.length ≤ fuel := by omega
      obtain ⟨hcalls, helement⟩ := ih htrim hrest
      rw [peelArrays, hdrop]
      exact ⟨congrArg (· + 1) hcalls, helement⟩

/-- The Go type of a type of PostgreSQL has the brackets of a slice for every call of the recursion. -/
theorem goType_of_unwraps {calls : Nat} {type element : Text} (h : Unwraps calls type element) :
    Sql.postgresql.goType type =
      if calls > maxArrayDepth then .error .tooDeep
      else .ok (Go.TypeName.slices calls ((lookup? .postgresql element).getD Go.TypeName.string)) := by
  obtain ⟨hcalls, helement⟩ := peelArrays_of_unwraps h (trim_normalType type) (Nat.le_refl _)
  rw [goType, TypeReading.goType, readType]
  simp only [if_true]
  split
  · rename_i hpeel
    rw [hpeel] at hcalls
    obtain rfl : 0 = calls := hcalls
    cases h
    rfl
  · rename_i hpeel
    rw [hpeel] at hcalls helement
    rw [← hcalls, ← helement]

/-! ## Suffixes that are passed over -/

theorem occursIn_append_of_forall {part t u : Text} (hne : part ≠ []) (h : ∀ c ∈ u, c ∉ part) :
    occursIn part (t ++ u) = occursIn part t := by
  cases u with
  | nil => rw [List.append_nil]
  | cons c u =>
    rw [List.forall_mem_cons] at h
    have hrest : occursIn part u = false := by
      obtain ⟨d, hd⟩ := List.exists_mem_of_ne_nil part hne
      exact Bool.eq_false_iff.mpr fun hoccurs => h.2 d (Go.mem_of_occursIn hoccurs hd) hd
    rw [occursIn_stop h.1 hne, hrest, Bool.or_false]

theorem eligible_append {key t u : Text} (h : ∀ c ∈ u.head?, isLetter c = false ∧ c ∉ key) :
    eligible key (t ++ u) = eligible key t := by
  cases u with
  | nil => rw [List.append_nil]
  | cons c u =>
    obtain ⟨hletter, hkey⟩ := h c rfl
    exact eligible_stop hletter hkey t u

/-- In the dialects without arrays, neither spaces nor a suffix at the end of a type matter. -/
theorem lookup?_append {dialect : Sql} (hdialect : dialect ≠ .postgresql) {b : Text} (hb : ∀ c ∈ b, c = ' ')
    (a : ArraySuffix) (t : Text) : dialect.lookup? (t ++ (b ++ a.text)) = dialect.lookup? t := by
  have hkeys : ∀ e ∈ dialect.types, ' ' ∉ e.1 ∧ '[' ∉ e.1 := by
    cases dialect with
    | mysql => decide
    | postgresql => exact absurd rfl hdialect
    | sqlite => decide
  have htable : longestEligible? dialect.types (t ++ (b ++ a.text)) = longestEligible? dialect.types t := by
    refine longestEligible?_congr fun e he => eligible_append fun c hc => ?_
    have hstop : c = ' ' ∨ c = '[' := by
      cases b with
      | nil => exact .inr (Option.some.inj hc).symm
      | cons d b => exact .inl ((Option.some.inj hc).symm.trans (hb d List.mem_cons_self))
    rcases hstop with rfl | rfl
    · exact ⟨by decide, (hkeys e he).1⟩
    · exact ⟨by decide, (hkeys e he).2⟩
  have haffinity : affinity? (t ++ (b ++ a.text)) = affinity? t := by
    have hparts : ∀ rule ∈ affinityRules, ∀ part ∈ rule.1,
        part ≠ [] ∧ ∀ c ∈ part, c ≠ ' ' ∧ c ≠ '[' ∧ isDecimal c = false ∧ c ≠ ']' := by decide
    have hrules : ∀ rule ∈ affinityRules,
        (rule.1.any (occursIn · (t ++ (b ++ a.text)))) = rule.1.any (occursIn · t) := by
      intro rule hrule
      rw [Bool.eq_iff_iff, List.any_eq_true, List.any_eq_true]
      refine exists_congr fun part => and_congr_right fun hpart => ?_
      obtain ⟨hne, hchars⟩ := hparts rule hrule part hpart
      rw [occursIn_append_of_forall hne]
      intro c hc hmem
      obtain ⟨hspace, hopen, hdecimal, hclose⟩ := hchars c hmem
      rcases List.mem_append.mp hc with hc | hc
      · exact hspace (hb c hc)
      · rcases a.mem_text hc with rfl | hdigit | rfl
        · exact hopen rfl
        · rw [hdecimal] at hdigit
          cases hdigit
        · exact hclose rfl
    rw [affinity?, affinity?, ← List.head?_filter, List.filter_congr hrules, List.head?_filter]
  rw [lookup?, lookup?, htable, haffinity]

theorem goType_of_ne_postgresql {dialect : Sql} (hdialect : dialect ≠ .postgresql) (type : Text) :
    dialect.goType type = .ok ((dialect.lookup? (normalType type)).getD Go.TypeName.string) := by
  rw [goType, readType]
  simp only [if_neg hdialect]
  rfl

/-- In these dialects, a type has the same Go type with a suffix and without it. -/
theorem goType_append {dialect : Sql} (hdialect : dialect ≠ .postgresql) (type : Text) (a : ArraySuffix) :
    dialect.goType (type ++ a.text) = dialect.goType type := by
  obtain ⟨b, hfront, hb⟩ := exists_normalFront_eq type
  rw [goType_of_ne_postgresql hdialect, goType_of_ne_postgresql hdialect, a.normalType_append, hfront,
    List.append_assoc, lookup?_append hdialect hb]

theorem goType_append_suffixTexts {dialect : Sql} (hdialect : dialect ≠ .postgresql) (type : Text)
    (suffixes : List ArraySuffix) : dialect.goType (type ++ suffixTexts suffixes) = dialect.goType type := by
  induction suffixes generalizing type with
  | nil => rw [suffixTexts, List.flatMap_nil, List.append_nil]
  | cons a suffixes ih =>
    have hrest := ih (type ++ a.text)
    rw [goType_append hdialect, List.append_assoc] at hrest
    rw [suffixTexts, List.flatMap_cons]
    exact hrest

/-! ## Suffixes that become slices -/

/-- Both the type and the type with suffixes have a Go type in PostgreSQL, and the suffixes are the slices in front. -/
def Wraps (type : Text) (suffixes : List ArraySuffix) : Prop :=
  ∃ goType, Sql.postgresql.goType type = .ok goType ∧
    Sql.postgresql.goType (type ++ suffixTexts suffixes) = .ok (Go.TypeName.slices suffixes.length goType)

theorem slices_add (m n : Nat) (element : Text) :
    Go.TypeName.slices (m + n) element = Go.TypeName.slices n (Go.TypeName.slices m element) := by
  induction n with
  | zero => rfl
  | succ n ih => exact congrArg Go.TypeName.slice ih

/-- Suffixes become slices as long as there is room for the calls. -/
theorem wraps_iff_of_unwraps {calls : Nat} {type element : Text} (h : Unwraps calls type element)
    (suffixes : List ArraySuffix) : Wraps type suffixes ↔ calls + suffixes.length ≤ maxArrayDepth := by
  rw [Wraps, goType_of_unwraps h, goType_of_unwraps (h.append_suffixTexts suffixes)]
  by_cases hroom : calls + suffixes.length ≤ maxArrayDepth
  · refine iff_of_true ?_ hroom
    rw [if_neg (by omega), if_neg (by omega), slices_add]
    exact ⟨_, rfl, rfl⟩
  · refine iff_of_false ?_ hroom
    rw [if_pos (show calls + suffixes.length > maxArrayDepth by omega)]
    rintro ⟨_, -, h⟩
    cases h

/-- **Array suffixes become slices.** For every type the recursion ends, after as many calls as there are slices in front
of the Go type. Suffixes behind a type are slices in front of its Go type, up to `maxArrayDepth` calls; behind a type
that has no suffix in normal form, these are as many as there are suffixes. In the other dialects, suffixes make no
difference. -/
theorem wraps_iff (type : Text) (suffixes : List ArraySuffix) :
    (∃ calls element, Unwraps calls type element ∧
      (Sql.postgresql.goType type =
        if calls > maxArrayDepth then .error .tooDeep
        else .ok (Go.TypeName.slices calls ((lookup? .postgresql element).getD Go.TypeName.string))) ∧
      (Wraps type suffixes ↔ calls + suffixes.length ≤ maxArrayDepth)) ∧
    (dropArraySuffix? (normalType type) = none → (Wraps type suffixes ↔ suffixes.length ≤ maxArrayDepth)) ∧
    ∀ dialect : Sql, dialect ≠ .postgresql →
      ∃ goType, dialect.goType type = .ok goType ∧ dialect.goType (type ++ suffixTexts suffixes) = .ok goType := by
  refine ⟨?_, fun htype => ?_, fun dialect hdialect => ?_⟩
  · obtain ⟨calls, element, hunwraps⟩ := exists_unwraps type
    exact ⟨calls, element, hunwraps, goType_of_unwraps hunwraps, wraps_iff_of_unwraps hunwraps suffixes⟩
  · rw [wraps_iff_of_unwraps (.done htype), Nat.zero_add]
  · have hgoType := goType_of_ne_postgresql hdialect type
    exact ⟨_, hgoType, (goType_append_suffixTexts hdialect type suffixes).trans hgoType⟩

/-- Two suffixes, one of them with a length. -/
def intSuffixes : List ArraySuffix := [⟨"3", by decide⟩, .empty]

/-- Behind a type with blanks around it, they are two slices in PostgreSQL and nothing in MySQL. -/
theorem wraps_iff_int :
    dropArraySuffix? (normalType " int ") = none ∧ Wraps " int " intSuffixes ∧ Sql.mysql ≠ .postgresql ∧
      Sql.mysql.goType (" int " ++ suffixTexts intSuffixes) = .ok Go.TypeName.int64 := by
  have hint : dropArraySuffix? (normalType " int ") = none := by decide +kernel
  have hint64 : Sql.mysql.goType " int " = .ok Go.TypeName.int64 := by decide +kernel
  obtain ⟨-, hwraps, hothers⟩ := wraps_iff " int " intSuffixes
  obtain ⟨goType, htype, hsuffixes⟩ := hothers .mysql (by decide)
  obtain rfl : Go.TypeName.int64 = goType := Except.ok.inj (hint64.symm.trans htype)
  exact ⟨hint, (hwraps hint).mpr (by decide), by decide, hsuffixes⟩

theorem suffixTexts_replicate (n : Nat) : suffixTexts (List.replicate n .empty) = arraySuffixes n := by
  induction n with
  | zero => rfl
  | succ n ih => exact congrArg (fun t => '[' :: ']' :: t) ih

/-- There is no room for all suffixes of a type with 1500 of them. -/
theorem not_wraps_arrayType :
    dropArraySuffix? (normalType "INT") = none ∧ Sql.postgresql.goType "INT" = .ok Go.TypeName.int64 ∧
      "INT" ++ suffixTexts (List.replicate 1500 .empty) = arrayType 1500 ∧
      ¬Wraps "INT" (List.replicate 1500 .empty) := by
  have htype : "INT" ++ suffixTexts (List.replicate 1500 .empty) = arrayType 1500 :=
    congrArg (("INT" : Text) ++ ·) (suffixTexts_replicate 1500)
  refine ⟨by decide +kernel, by decide +kernel, htype, ?_⟩
  rintro ⟨goType, -, hsuffixes⟩
  rw [htype, goType_arrayType (by decide)] at hsuffixes
  cases hsuffixes

end StructForge.Sql
