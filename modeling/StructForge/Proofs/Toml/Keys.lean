import Mathlib.Data.Option.Basic
import StructForge.Proofs.Json.Keys
import StructForge.Toml.Document

/-!
# The keys of a TOML document

Every table that is read has distinct keys, at every level of the document (`areKeyed_of_read`). Entries are added only
under keys that are not there yet, and a change inside a table puts that table back into its place, so each step keeps
the keys of all tables distinct: `updateAt` if the change it makes does, the readers of arrays and inline tables if the
readers of their parts do, and the statements of a document one after another.
-/

namespace StructForge.Toml

open Settings

/-! ## Distinct keys -/

/-- All tables in a value have distinct keys. -/
inductive IsKeyed : Value → Prop
  | scalar {value : Value} (h : isContainer value = false) : IsKeyed value
  | array {elements : List Value} (h : ∀ element ∈ elements, IsKeyed element) : IsKeyed (.array elements)
  | table {entries : Entries} (keys : (entries.map (·.1)).Nodup) (values : ∀ entry ∈ entries, IsKeyed entry.2) :
      IsKeyed (.table entries)

/-- Entries with distinct keys, whose values have distinct keys as well. -/
structure AreKeyed (entries : Entries) : Prop where
  keys : (entries.map (·.1)).Nodup
  values : ∀ entry ∈ entries, IsKeyed entry.2

theorem AreKeyed.nil : AreKeyed [] := ⟨List.nodup_nil, nofun⟩

theorem AreKeyed.table {entries : Entries} (h : AreKeyed entries) : IsKeyed (.table entries) := .table h.keys h.values

theorem areKeyed_of_table {entries : Entries} (h : IsKeyed (.table entries)) : AreKeyed entries := by
  cases h with
  | scalar h => cases h
  | table keys values => exact ⟨keys, values⟩

theorem isKeyed_of_array {elements : List Value} (h : IsKeyed (.array elements)) : ∀ e ∈ elements, IsKeyed e := by
  cases h with
  | scalar h => cases h
  | array h => exact h

theorem AreKeyed.lookup {entries : Entries} (h : AreKeyed entries) {key : Text} {value : Value}
    (hvalue : entries.lookup key = some value) : IsKeyed value := by
  obtain ⟨front, back, rfl, -⟩ := List.lookup_eq_some_iff.mp hvalue
  exact h.values (key, value) (by simp)

/-- One more entry, with a key of its own. -/
theorem AreKeyed.append {entries : Entries} (h : AreKeyed entries) {key : Text} {value : Value}
    (hkey : entries.lookup key = none) (hvalue : IsKeyed value) : AreKeyed (entries ++ [(key, value)]) where
  keys := by
    rw [List.map_append]
    refine List.nodup_append.mpr ⟨h.keys, List.nodup_singleton key, fun a ha b hb hab => ?_⟩
    rw [hab, List.mem_singleton.mp hb] at ha
    exact Json.lookup_eq_none_iff_not_mem.mp hkey ha
  values entry hentry := by
    rcases List.mem_append.mp hentry with hentry | hentry
    · exact h.values entry hentry
    · rw [List.mem_singleton.mp hentry]
      exact hvalue

/-- A new value in the place of an old one. -/
theorem AreKeyed.insertMember {entries : Entries} (h : AreKeyed entries) (key : Text) {value : Value}
    (hvalue : IsKeyed value) : AreKeyed (Json.insertMember key value entries) where
  keys := Json.nodup_insertMember h.keys
  values entry hentry := by
    rcases Json.mem_insertMember hentry with hentry | rfl
    · exact h.values entry hentry
    · exact hvalue

/-- The array with another last element. -/
theorem isKeyed_array_concat {elements : List Value} (h : ∀ element ∈ elements, IsKeyed element) {last : Value}
    (hlast : IsKeyed last) : IsKeyed (.array (elements ++ [last])) :=
  .array fun element helement => (List.mem_append.mp helement).elim (h element)
    fun helement => List.mem_singleton.mp helement ▸ hlast

/-! ## Changes -/

/-- A change of entries that keeps keys distinct. -/
def KeepsKeyed (change : Entries → Option Entries) : Prop :=
  ∀ entries entries', AreKeyed entries → change entries = some entries' → AreKeyed entries'

/-- A change inside a table, by induction on the path to the table. -/
theorem keepsKeyed_updateAt {change : Entries → Option Entries} (hchange : KeepsKeyed change) :
    ∀ path : List Text, KeepsKeyed (updateAt change path)
  | [], _, _, h, hupdate => hchange _ _ h hupdate
  | key :: path, entries, entries', h, hupdate => by
    have hpath := keepsKeyed_updateAt hchange path
    rw [updateAt] at hupdate
    split at hupdate
    · rename_i hnone
      obtain ⟨inner, hinner, rfl⟩ := Option.map_eq_some_iff.mp hupdate
      exact h.append hnone (hpath _ _ .nil hinner).table
    · rename_i old hold
      obtain ⟨inner, hinner, rfl⟩ := Option.map_eq_some_iff.mp hupdate
      exact h.insertMember key (hpath _ _ (areKeyed_of_table (h.lookup hold)) hinner).table
    · rename_i elements helements
      split at hupdate
      · rename_i old hold
        have hkeyed := isKeyed_of_array (h.lookup helements)
        obtain ⟨inner, hinner, rfl⟩ := Option.map_eq_some_iff.mp hupdate
        have hlast := hpath _ _ (areKeyed_of_table (hkeyed _ (List.mem_of_getLast? hold))) hinner
        exact h.insertMember key (isKeyed_array_concat (fun e he => hkeyed e (List.dropLast_subset _ he)) hlast.table)
      · cases hupdate
    · cases hupdate

theorem keepsKeyed_addEntry (key : Text) {value : Value} (hvalue : IsKeyed value) :
    KeepsKeyed (addEntry key value) := by
  intro entries entries' h hadd
  rw [addEntry] at hadd
  split at hadd
  · cases hadd
  · rename_i hnone
    cases hadd
    exact h.append (Option.not_isSome_iff_eq_none.mp hnone) hvalue

theorem keepsKeyed_addAt (path : List Text) {value : Value} (hvalue : IsKeyed value) :
    KeepsKeyed (addAt path value) := by
  intro entries entries' h hadd
  rw [addAt] at hadd
  split at hadd
  · exact keepsKeyed_updateAt (keepsKeyed_addEntry _ hvalue) _ _ _ h hadd
  · cases hadd

theorem keepsKeyed_appendTable (key : Text) : KeepsKeyed (Draft.appendTable key) := by
  intro entries entries' h happend
  rw [Draft.appendTable] at happend
  split at happend
  · rename_i hnone
    cases happend
    exact h.append hnone (.array (List.forall_mem_singleton.mpr AreKeyed.nil.table))
  · rename_i elements helements
    cases happend
    exact h.insertMember key (isKeyed_array_concat (isKeyed_of_array (h.lookup helements)) AreKeyed.nil.table)
  · cases happend

/-! ## Values -/

/-- A reader of values with distinct keys. -/
def ReadsKeyed (read : Text → Result (Value × Text)) : Prop :=
  ∀ t value rest, read t = .ok (value, rest) → IsKeyed value

theorem isKeyed_of_readWord? {words : List (Text × Value)} (hwords : ∀ e ∈ words, isContainer e.2 = false) {t : Text}
    {found : Value × Text} (h : readWord? words t = some found) : IsKeyed found.1 := by
  obtain ⟨⟨word, value⟩, hmem, hfound⟩ := List.exists_of_findSome?_eq_some h
  obtain ⟨rest, -, rfl⟩ := Option.map_eq_some_iff.mp hfound
  exact .scalar (hwords _ hmem)

theorem isKeyed_of_readMoment? {t : Text} {value : Value} {rest : Text}
    (h : readMoment? t = some (.ok (value, rest))) : IsKeyed value := by
  simp only [readMoment?, Option.bind_eq_bind, Option.bind_eq_some_iff] at h
  obtain ⟨_, _, h⟩ := h
  repeat' split at h
  all_goals cases h
  all_goals exact .scalar rfl

theorem isKeyed_of_readDecimal? {t : Text} {value : Value} {rest : Text}
    (h : readDecimal? t = some (.ok (value, rest))) : IsKeyed value := by
  simp only [readDecimal?, Option.bind_eq_bind, Option.bind_eq_some_iff] at h
  obtain ⟨_, _, h⟩ := h
  repeat' split at h
  all_goals cases h
  all_goals exact .scalar rfl

theorem isKeyed_of_readBased? {t : Text} {found : Value × Text} (h : readBased? t = some found) :
    IsKeyed found.1 := by
  simp only [readBased?, Option.bind_eq_bind, Option.bind_eq_some_iff] at h
  obtain ⟨_, _, h⟩ := h
  split at h
  · cases h
  · cases h
    exact .scalar rfl

/-- What holds no other values has no keys. -/
theorem isKeyed_of_readScalar {t : Text} {value : Value} {rest : Text} (h : readScalar t = .ok (value, rest)) :
    IsKeyed value := by
  rw [readScalar] at h
  split at h
  · obtain ⟨s, -, hpair⟩ := map_eq_ok_iff.mp h
    cases hpair
    exact .scalar rfl
  · split at h
    · rename_i found hfound
      cases h
      exact isKeyed_of_readWord? (by decide) hfound
    · split at h
      · rename_i read hread
        rw [h] at hread
        exact isKeyed_of_readMoment? hread
      · split at h
        · cases h
          exact .scalar rfl
        · split at h
          · rename_i found hfound
            cases h
            exact isKeyed_of_readBased? hfound
          · split at h
            · rename_i read hread
              rw [h] at hread
              exact isKeyed_of_readDecimal? hread
            · split at h
              · rename_i found hfound
                cases h
                exact isKeyed_of_readWord? (by decide) hfound
              · cases h

/-- The elements of an array, by induction on how many there may be. -/
theorem isKeyed_of_readElements {readElement : Text → Result (Value × Text)} (hread : ReadsKeyed readElement) :
    ∀ {fuel : Nat} {t : Text} {elements : List Value} {rest : Text},
      readElements readElement fuel t = .ok (elements, rest) → ∀ element ∈ elements, IsKeyed element
  | fuel + 1, t, elements, rest, h => by
    simp only [readElements, bind, Except.bind, pure, Except.pure] at h
    split at h
    · cases h
    · rename_i first hfirst
      have hkeyed := hread _ first.1 first.2 hfirst
      repeat' split at h
      all_goals cases h
      · exact List.forall_mem_singleton.mpr hkeyed
      · exact List.forall_mem_singleton.mpr hkeyed
      · rename_i behind hmore
        obtain ⟨more, rest⟩ := behind
        exact List.forall_mem_cons.mpr ⟨hkeyed, isKeyed_of_readElements hread hmore⟩

theorem isKeyed_of_readEntry {readValue : Text → Result (Value × Text)} (hread : ReadsKeyed readValue) {t rest : Text}
    {key : List Text} {value : Value} (h : readEntry readValue t = .ok (key, value, rest)) : IsKeyed value := by
  simp only [readEntry, bind, Except.bind, pure, Except.pure] at h
  repeat' split at h
  all_goals cases h
  rename_i found hfound
  exact hread _ found.1 found.2 hfound

/-- The entries of an inline table behind those that have been read, by induction on how many there may be. -/
theorem areKeyed_of_readInline {readValue : Text → Result (Value × Text)} (hread : ReadsKeyed readValue) :
    ∀ {fuel : Nat} {closed : List (List Text)} {before : Entries} {t : Text} {entries : Entries} {rest : Text},
      AreKeyed before → readInline readValue fuel closed before t = .ok (entries, rest) → AreKeyed entries
  | fuel + 1, closed, before, t, entries, rest, hbefore, h => by
    simp only [readInline, bind, Except.bind, pure, Except.pure] at h
    split at h
    · cases h
    · rename_i entry hentry
      obtain ⟨key, value, behind⟩ := entry
      have hkeyed := isKeyed_of_readEntry hread hentry
      split at h
      · cases h
      · split at h
        · rename_i more hmore
          have hmore := keepsKeyed_addAt key hkeyed _ _ hbefore hmore
          split at h
          · cases h
            exact hmore
          · exact areKeyed_of_readInline hread hmore h
          · cases h
        · cases h

/-- A value, from the readers of what may be in it. -/
theorem isKeyed_of_readWith {size : Nat} {readElement? readMember? : Option (Text → Result (Value × Text))}
    (helement : ∀ read ∈ readElement?, ReadsKeyed read) (hmember : ∀ read ∈ readMember?, ReadsKeyed read)
    {t : Text} {value : Value} {rest : Text} (h : readWith size readElement? readMember? t = .ok (value, rest)) :
    IsKeyed value := by
  unfold readWith at h
  split at h
  · simp only [bind, Except.bind, pure, Except.pure] at h
    repeat' split at h
    all_goals cases h
    · exact .array (List.forall_mem_nil _)
    · rename_i found hfound
      obtain ⟨elements, rest⟩ := found
      exact .array (isKeyed_of_readElements (helement _ rfl) hfound)
  · simp only [bind, Except.bind, pure, Except.pure] at h
    repeat' split at h
    all_goals cases h
    · exact AreKeyed.nil.table
    · rename_i found hfound
      obtain ⟨entries, rest⟩ := found
      exact (areKeyed_of_readInline (hmember _ rfl) .nil hfound).table
  · exact isKeyed_of_readScalar h

/-- Whatever is read has distinct keys, by induction on the room that there is. -/
theorem readsKeyed_readValue (size : Nat) : ∀ room : Nat, ReadsKeyed (readValue size room)
  | 0, t, value, rest, h | 1, t, value, rest, h =>
    isKeyed_of_readWith (fun _ hnone => by cases hnone) (fun _ hnone => by cases hnone) h
  | 2, t, value, rest, h =>
    isKeyed_of_readWith (fun read hread => Option.some.inj hread ▸ readsKeyed_readValue size 0)
      (fun _ hnone => by cases hnone) h
  | room + 3, t, value, rest, h =>
    isKeyed_of_readWith (fun read hread => Option.some.inj hread ▸ readsKeyed_readValue size (room + 1))
      (fun read hread => Option.some.inj hread ▸ readsKeyed_readValue size room) h

/-! ## Documents -/

namespace Draft

theorem areKeyed_of_addEntry {d d' : Draft} (hd : AreKeyed d.entries) {key : List Text} {value : Value}
    (hvalue : IsKeyed value) (h : d.addEntry key value = .ok d') : AreKeyed d'.entries := by
  rw [Draft.addEntry] at h
  split at h
  · cases h
  · split at h
    · cases h
    · rename_i hadd
      cases h
      exact keepsKeyed_addAt _ hvalue _ _ hd hadd

theorem areKeyed_of_openTable {d d' : Draft} (hd : AreKeyed d.entries) {path : List Text}
    (h : d.openTable path = .ok d') : AreKeyed d'.entries := by
  rw [openTable] at h
  repeat' split at h
  all_goals cases h
  rename_i hupdate
  refine keepsKeyed_updateAt (fun entries entries' hentries hsame => ?_) _ _ _ hd hupdate
  cases hsame
  exact hentries

theorem areKeyed_of_openElement {d d' : Draft} (hd : AreKeyed d.entries) {path : List Text}
    (h : d.openElement path = .ok d') : AreKeyed d'.entries := by
  rw [openElement] at h
  repeat' split at h
  all_goals cases h
  rename_i hopen
  obtain ⟨key, -, hupdate⟩ := Option.bind_eq_some_iff.mp hopen
  exact keepsKeyed_updateAt (keepsKeyed_appendTable key) _ _ _ hd hupdate

theorem areKeyed_of_readHeader {d d' : Draft} (hd : AreKeyed d.entries) {t rest : Text}
    (h : d.readHeader t = .ok (d', rest)) : AreKeyed d'.entries := by
  have hheader : AreKeyed d.atHeader.entries := hd
  simp only [readHeader, bind, Except.bind, pure, Except.pure] at h
  repeat' split at h
  all_goals cases h
  · rename_i hopen _
    exact areKeyed_of_openElement hheader hopen
  · rename_i hopen _
    exact areKeyed_of_openTable hheader hopen

/-- One statement keeps the keys of all tables distinct. -/
theorem areKeyed_of_readStatement {d d' : Draft} (hd : AreKeyed d.entries) {t rest : Text}
    (h : d.readStatement t = .ok (d', rest)) : AreKeyed d'.entries := by
  unfold readStatement at h
  split at h
  · exact areKeyed_of_readHeader hd h
  · cases h
    exact hd
  · simp only [bind, Except.bind, pure, Except.pure] at h
    split at h
    · cases h
    · rename_i entry hentry
      obtain ⟨key, value, behind⟩ := entry
      have hvalue := isKeyed_of_readEntry (readsKeyed_readValue _ _) hentry
      split at h
      · cases h
      · rename_i hadd
        cases h
        exact areKeyed_of_addEntry hd hvalue hadd

/-- All statements do, by induction on the lines that are left. -/
theorem areKeyed_of_readLines : ∀ {fuel : Nat} {d d' : Draft} {t : Text}, AreKeyed d.entries →
    readLines fuel d t = .ok d' → AreKeyed d'.entries
  | 0, d, d', t, hd, h => by
    cases h
    exact hd
  | fuel + 1, d, d', t, hd, h => by
    rw [readLines] at h
    split at h
    · cases h
      exact hd
    · exact areKeyed_of_readLines hd h
    · simp only [bind, Except.bind, pure, Except.pure] at h
      split at h
      · cases h
      · rename_i found hfound
        obtain ⟨next, rest⟩ := found
        have hnext := areKeyed_of_readStatement hd hfound
        split at h
        · cases h
        · split at h
          · cases h
            exact hnext
          · exact areKeyed_of_readLines hnext h
          · cases h

end Draft

/-- All tables of a document have distinct keys. -/
theorem areKeyed_of_read {t : Text} {entries : Entries} (h : read t = .ok entries) : AreKeyed entries := by
  obtain ⟨d, hd, rfl⟩ := map_eq_ok_iff.mp h
  exact Draft.areKeyed_of_readLines AreKeyed.nil hd

end StructForge.Toml
