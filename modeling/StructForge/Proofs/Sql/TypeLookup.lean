import StructForge.Proofs.Sql.ArrayTypes
import StructForge.Proofs.Sql.Fields

/-!
# Looking types up

A type is looked up in a table whose keys are distinct. What decides is the one eligible key that is longer than all
others (`Decides`): there is a value exactly if there is such a key, and it is the value of that key, in whatever order
the table lists its entries (`longestEligible?_eq_some_iff`, `longestEligible?_perm`). The running best of the look-up is
at least as long as every key that was passed (`length_le_of_foldl`), and of one length no type has two prefixes.

So a key that is a proper prefix of another eligible key has no say in the Go type of a column, whatever its entry is
(`goType_longest`).
-/

namespace StructForge.Sql

open Text

/-! ## Eligible keys -/

/-- The key is a prefix of the type that is all of the type or is followed by something else than a letter. -/
def Eligible (key type : Text) : Prop := ∃ rest, type = key ++ rest ∧ ∀ c ∈ rest.head?, isLetter c = false

theorem eligible_iff {key type : Text} : eligible key type = true ↔ Eligible key type := by
  rw [eligible]
  constructor
  · intro h
    split at h
    · cases h
    · rename_i hrest
      exact ⟨[], eq_append_of_afterPrefix? hrest, nofun⟩
    · rename_i c rest hrest
      refine ⟨c :: rest, eq_append_of_afterPrefix? hrest, fun d hd => ?_⟩
      obtain rfl : c = d := Option.some.inj hd
      simpa using h
  · rintro ⟨rest, rfl, hrest⟩
    rw [afterPrefix?_append]
    cases rest with
    | nil => rfl
    | cons c rest => simpa using hrest c rfl

instance (key type : Text) : Decidable (Eligible key type) := decidable_of_iff _ eligible_iff

/-- Of one length, a type has one prefix. -/
theorem Eligible.key_unique {key key' type : Text} (h : Eligible key type) (h' : Eligible key' type)
    (hlength : key'.length = key.length) : key' = key := by
  obtain ⟨rest, rfl, -⟩ := h
  obtain ⟨rest', hsplit, -⟩ := h'
  exact (List.append_inj hsplit.symm hlength).1

/-! ## The running best -/

section Best

variable {α : Type}

/-- One step makes the best no shorter, and as long as the entry. -/
theorem length_le_longerEntry (best : Option (Text × α)) (entry : Text × α) :
    ∃ next, longerEntry best entry = some next ∧ entry.1.length ≤ next.1.length ∧
      ∀ b ∈ best, b.1.length ≤ next.1.length := by
  cases best with
  | none => exact ⟨entry, rfl, Nat.le_refl _, nofun⟩
  | some b =>
    rw [longerEntry]
    by_cases h : b.1.length < entry.1.length
    · refine ⟨entry, if_pos h, Nat.le_refl _, fun b' hb' => ?_⟩
      obtain rfl : b = b' := Option.some.inj hb'
      exact Nat.le_of_lt h
    · refine ⟨b, if_neg h, Nat.le_of_not_lt h, fun b' hb' => ?_⟩
      obtain rfl : b = b' := Option.some.inj hb'
      exact Nat.le_refl _

/-- So is the last best as long as all entries, by induction on the table. -/
theorem length_le_of_foldl {table : List (Text × α)} {best : Option (Text × α)} {last : Text × α}
    (h : table.foldl longerEntry best = some last) :
    (∀ b ∈ best, b.1.length ≤ last.1.length) ∧ ∀ e ∈ table, e.1.length ≤ last.1.length := by
  induction table generalizing best with
  | nil =>
    refine ⟨fun b hb => ?_, nofun⟩
    obtain rfl : b = last := Option.some.inj (hb.symm.trans h)
    exact Nat.le_refl _
  | cons entry table ih =>
    obtain ⟨hnext, htable⟩ := ih h
    obtain ⟨next, hstep, hentry, hbest⟩ := length_le_longerEntry best entry
    have hle := hnext next hstep
    exact ⟨fun b hb => Nat.le_trans (hbest b hb) hle, List.forall_mem_cons.mpr ⟨Nat.le_trans hentry hle, htable⟩⟩

/-- There is no best at the end only if there was none at the start, and no entry. -/
theorem foldl_longerEntry_eq_none_iff {table : List (Text × α)} {best : Option (Text × α)} :
    table.foldl longerEntry best = none ↔ best = none ∧ table = [] := by
  induction table generalizing best with
  | nil => simp
  | cons entry table ih =>
    obtain ⟨next, hstep, -⟩ := length_le_longerEntry best entry
    rw [List.foldl_cons, ih, hstep]
    simp

end Best

/-! ## What decides -/

/-- The entry of a table whose key is eligible for a type, and longer than all others that are. -/
structure Decides {α : Type} (table : List (Text × α)) (type : Text) (entry : Text × α) : Prop where
  mem : entry ∈ table
  eligible : Eligible entry.1 type
  longest : ∀ e ∈ table, Eligible e.1 type → e = entry ∨ e.1.length < entry.1.length

section Table

variable {α : Type} {table : List (Text × α)} {type : Text}

theorem mem_filter_eligible_iff {e : Text × α} :
    e ∈ table.filter (Sql.eligible ·.1 type) ↔ e ∈ table ∧ Eligible e.1 type :=
  List.mem_filter.trans (and_congr_right fun _ => eligible_iff)

/-- Nothing is found exactly if no key is eligible. -/
theorem longestEligible?_eq_none_iff : longestEligible? table type = none ↔ ∀ e ∈ table, ¬Eligible e.1 type := by
  rw [longestEligible?, Option.map_eq_none_iff, foldl_longerEntry_eq_none_iff, List.eq_nil_iff_forall_not_mem]
  simp only [mem_filter_eligible_iff, true_and, not_and]

section Distinct

variable (hkeys : (table.map (·.1)).Nodup)
include hkeys

/-- With distinct keys, the best entry at the end decides. -/
theorem decides_of_foldl {entry : Text × α}
    (h : (table.filter (Sql.eligible ·.1 type)).foldl longerEntry none = some entry) : Decides table type entry := by
  have hmem := (mem_of_foldl_longerEntry h).resolve_left (Option.some_ne_none _).symm
  obtain ⟨hentry, heligible⟩ := mem_filter_eligible_iff.mp hmem
  refine ⟨hentry, heligible, fun e he he' => ?_⟩
  have hle := (length_le_of_foldl h).2 e (mem_filter_eligible_iff.mpr ⟨he, he'⟩)
  rcases Nat.lt_or_eq_of_le hle with hlt | heq
  · exact .inr hlt
  · exact .inl (List.inj_on_of_nodup_map hkeys he hentry (heligible.key_unique he' heq))

/-- With distinct keys, what is found is the value of the entry that decides. -/
theorem longestEligible?_eq_some_iff {value : α} :
    longestEligible? table type = some value ↔ ∃ key, Decides table type (key, value) := by
  rw [longestEligible?, Option.map_eq_some_iff]
  constructor
  · rintro ⟨⟨key, value⟩, hfold, rfl⟩
    exact ⟨key, decides_of_foldl hkeys hfold⟩
  · rintro ⟨key, hdecides⟩
    have hmem := mem_filter_eligible_iff.mpr ⟨hdecides.mem, hdecides.eligible⟩
    cases hfold : (table.filter (Sql.eligible ·.1 type)).foldl longerEntry none with
    | none =>
      rw [(foldl_longerEntry_eq_none_iff.mp hfold).2] at hmem
      cases hmem
    | some last =>
      have hlast := decides_of_foldl hkeys hfold
      have hle := (length_le_of_foldl hfold).2 _ hmem
      rcases hdecides.longest last hlast.mem hlast.eligible with rfl | hlt
      · exact ⟨_, rfl, rfl⟩
      · omega

/-- Two tables with distinct keys are alike for a type if the same entries decide. -/
theorem longestEligible?_eq_of_decides {table' : List (Text × α)} (hkeys' : (table'.map (·.1)).Nodup)
    (h : ∀ entry, Decides table' type entry ↔ Decides table type entry) :
    longestEligible? table' type = longestEligible? table type := by
  refine Option.ext fun value => ?_
  rw [longestEligible?_eq_some_iff hkeys', longestEligible?_eq_some_iff hkeys]
  exact exists_congr fun key => h (key, value)

/-- The order of the entries does not matter. -/
theorem longestEligible?_perm {table' : List (Text × α)} (h : table'.Perm table) :
    longestEligible? table' type = longestEligible? table type := by
  refine longestEligible?_eq_of_decides hkeys ((h.map _).nodup_iff.mpr hkeys) fun entry => ?_
  constructor
  · intro hentry
    exact ⟨h.mem_iff.mp hentry.mem, hentry.eligible, fun e he => hentry.longest e (h.mem_iff.mpr he)⟩
  · intro hentry
    exact ⟨h.mem_iff.mpr hentry.mem, hentry.eligible, fun e he => hentry.longest e (h.mem_iff.mp he)⟩

end Distinct

/-! ## Keys without a say -/

/-- The tables have the same entries, in any order, but for the entries of a key. -/
def SameBut (key : Text) (table table' : List (Text × α)) : Prop :=
  (table'.filter (·.1 ≠ key)).Perm (table.filter (·.1 ≠ key))

theorem SameBut.symm {key : Text} {table' : List (Text × α)} (h : SameBut key table table') :
    SameBut key table' table :=
  List.Perm.symm h

theorem SameBut.mem_iff {key : Text} {table' : List (Text × α)} (h : SameBut key table table') {e : Text × α}
    (he : e.1 ≠ key) : e ∈ table' ↔ e ∈ table := by
  have hmem := List.Perm.mem_iff (a := e) h
  rw [List.mem_filter, List.mem_filter] at hmem
  simpa [he] using hmem

/-- What decides does not change with the entries of a key that is shorter than an eligible one. -/
theorem Decides.of_sameBut {key : Text} {table' : List (Text × α)} (hsame : SameBut key table table')
    {longer : Text × α} (hmem : longer ∈ table) (heligible : Eligible longer.1 type)
    (hlength : key.length < longer.1.length) {entry : Text × α} (h : Decides table type entry) :
    Decides table' type entry := by
  have hentry : key.length < entry.1.length := by
    rcases h.longest longer hmem heligible with rfl | hlt
    · exact hlength
    · exact Nat.lt_trans hlength hlt
  have hne : entry.1 ≠ key := fun heq => by
    rw [heq] at hentry
    exact Nat.lt_irrefl _ hentry
  refine ⟨(hsame.mem_iff hne).mpr h.mem, h.eligible, fun e he he' => ?_⟩
  by_cases hkey : e.1 = key
  · rw [hkey]
    exact .inr hentry
  · exact h.longest e ((hsame.mem_iff hkey).mp he) he'

/-- The entries of a key that is a proper prefix of an eligible key have no say. -/
theorem longestEligible?_of_sameBut {key : Text} {table' : List (Text × α)} (hkeys : (table.map (·.1)).Nodup)
    (hkeys' : (table'.map (·.1)).Nodup) (hsame : SameBut key table table') {longer : Text}
    (hshorter : key <+: longer) (hne : key ≠ longer) (hmem : longer ∈ table.map (·.1)) (heligible : Eligible longer type) :
    longestEligible? table' type = longestEligible? table type := by
  obtain ⟨e, he, rfl⟩ := List.mem_map.mp hmem
  have hlength : key.length < e.1.length :=
    Nat.lt_of_le_of_ne hshorter.length_le fun heq => hne (hshorter.eq_of_length heq)
  have he' : e ∈ table' := (hsame.mem_iff hne.symm).mpr he
  refine longestEligible?_eq_of_decides hkeys hkeys' fun entry => ?_
  exact ⟨fun h => h.of_sameBut hsame.symm he' heligible hlength, fun h => h.of_sameBut hsame he heligible hlength⟩

end Table

/-! ## Go types from a table -/

theorem isNormal_peelArrays (fuel : Nat) {t : Text} (h : IsNormal t) : IsNormal (peelArrays fuel t).2 := by
  induction fuel generalizing t with
  | zero => exact h
  | succ fuel ih =>
    rw [peelArrays]
    cases hdrop : dropArraySuffix? (trim t) with
    | none => exact h
    | some base =>
      obtain ⟨digits, -, hsplit⟩ := dropArraySuffix?_eq_some_iff.mp hdrop
      have hfront : base <+: trim t := hsplit ▸ List.prefix_append base _
      exact ih ((h.part (isInfix_trim t)).part hfront.isInfix)

/-- The text that is looked up for a type: the normal form of the type behind its slices. -/
def elementOf (dialect : Sql) (type : Text) : Text := normalType (readType dialect type).element

theorem readType_goType? (dialect : Sql) (type : Text) :
    (readType dialect type).goType? = dialect.lookup? (dialect.elementOf type) := by
  by_cases hdialect : dialect = .postgresql
  · subst hdialect
    have hpeeled := isNormal_peelArrays (normalType type).length (isNormal_normalType type)
    rw [elementOf, readType]
    simp only [if_true]
    split
    · rfl
    · rename_i hpeel
      rw [hpeel] at hpeeled
      rw [hpeeled.normalType_eq]
  · rw [elementOf, readType]
    simp only [if_neg hdialect]

/-- The look-up of a dialect in another table than its own. -/
def lookupIn? (table : List (Text × Text)) (dialect : Sql) (type : Text) : Option Text :=
  match longestEligible? table type with
  | some goType => some goType
  | none => if dialect = .sqlite then affinity? type else none

/-- The Go type of a column type, with another table than the dialect's own. -/
def goTypeIn (table : List (Text × Text)) (dialect : Sql) (type : Text) : Except TooDeep Text :=
  TypeReading.goType { readType dialect type with goType? := lookupIn? table dialect (dialect.elementOf type) }

/-- With its own table, a dialect has its own Go types. -/
theorem goTypeIn_types (dialect : Sql) (type : Text) : goTypeIn dialect.types dialect type = dialect.goType type := by
  have hlookup : lookupIn? dialect.types dialect (dialect.elementOf type) = (readType dialect type).goType? :=
    (readType_goType? dialect type).symm
  rw [goTypeIn, hlookup]
  rfl

theorem nodup_keys (dialect : Sql) : (dialect.types.map (·.1)).Nodup := by
  cases dialect <;> decide +kernel

/-- **The longest eligible key decides.** In a table with distinct keys, nothing is found for a type exactly if no key
is eligible, and else the value of the one eligible key that is longer than all others, in whatever order the entries
are. So for a column type, a key of the dialect's table that is a proper prefix of another eligible key has no say:
with any other entry for it, or with none, the Go type is the same. -/
theorem longest_key_decides :
    (∀ {α : Type} (table : List (Text × α)), (table.map (·.1)).Nodup → ∀ type,
      (longestEligible? table type = none ↔ ∀ e ∈ table, ¬Eligible e.1 type) ∧
      (∀ value, longestEligible? table type = some value ↔ ∃ key, Decides table type (key, value)) ∧
      ∀ table', table'.Perm table → longestEligible? table' type = longestEligible? table type) ∧
    ∀ (dialect : Sql) (type key longer : Text), key <+: longer → key ≠ longer → longer ∈ dialect.types.map (·.1) →
      Eligible longer (dialect.elementOf type) → ∀ table, (table.map (·.1)).Nodup → SameBut key dialect.types table →
        goTypeIn table dialect type = dialect.goType type := by
  constructor
  · intro α table hkeys type
    exact ⟨longestEligible?_eq_none_iff, fun value => longestEligible?_eq_some_iff hkeys,
      fun table' => longestEligible?_perm hkeys⟩
  · intro dialect type key longer hshorter hne hmem heligible table hkeys hsame
    have hlookup := longestEligible?_of_sameBut (nodup_keys dialect) hkeys hsame hshorter hne hmem heligible
    rw [← goTypeIn_types, goTypeIn, goTypeIn, lookupIn?, lookupIn?, hlookup]

/-- MySQL's table without `TINYINT`. -/
def withoutTinyint : List (Text × Text) := mysqlTypes.filter (·.1 ≠ "TINYINT")

/-- Both `TINYINT` and `TINYINT(1)` are eligible for `TINYINT(1)`, and the longer one decides: the table may be listed
backwards, and the shorter one may be missing. -/
theorem longest_key_decides_tinyint :
    Decides mysqlTypes "TINYINT(1)" ("TINYINT(1)", Go.TypeName.bool) ∧
      longestEligible? mysqlTypes.reverse "TINYINT(1)" = some Go.TypeName.bool ∧
      Eligible "TINYINT" (elementOf .mysql " tinyint(1)") ∧ SameBut "TINYINT" mysqlTypes withoutTinyint ∧
      goTypeIn withoutTinyint .mysql " tinyint(1)" = .ok Go.TypeName.bool := by
  have hdecides : Decides mysqlTypes "TINYINT(1)" ("TINYINT(1)", Go.TypeName.bool) :=
    ⟨by decide +kernel, by decide +kernel, by decide +kernel⟩
  have hsame : SameBut "TINYINT" mysqlTypes withoutTinyint := List.Perm.of_eq (by decide +kernel)
  have hgoType : Sql.mysql.goType " tinyint(1)" = .ok Go.TypeName.bool := by decide +kernel
  have helement : Eligible "TINYINT(1)" (elementOf .mysql " tinyint(1)") := by decide +kernel
  obtain ⟨-, hsome, hperm⟩ := longest_key_decides.1 mysqlTypes (by decide +kernel) "TINYINT(1)"
  have hlookup := (hsome _).mpr ⟨_, hdecides⟩
  have hwithout := longest_key_decides.2 .mysql " tinyint(1)" "TINYINT" "TINYINT(1)" (by decide +kernel)
    (by decide +kernel) (by decide +kernel) helement withoutTinyint (by decide +kernel) hsame
  exact ⟨hdecides, (hperm _ (List.reverse_perm _)).trans hlookup, by decide +kernel, hsame, hwithout.trans hgoType⟩

end StructForge.Sql
