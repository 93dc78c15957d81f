import Mathlib.Data.List.Nodup
import StructForge.Proofs.Conversion
import StructForge.Proofs.Json.Members

/-!
# The keys of a document

Every object that is read has distinct keys, at every level of the document (`isKeyed_of_read`): members are only ever
inserted, and a key that is there already keeps its place. So the fields of every record in the schema of a document,
nested types included, have distinct source names (`nodup_sourceName_of_readSchema`).
-/

namespace StructForge.Json

/-! ## Distinct keys -/

/-- All objects in a value have distinct keys. -/
inductive IsKeyed : Json → Prop
  | null : IsKeyed .null
  | bool (b : Bool) : IsKeyed (.bool b)
  | int (n : Int) : IsKeyed (.int n)
  | float (x : Number.Double) : IsKeyed (.float x)
  | string (s : Text) : IsKeyed (.string s)
  | array {elements : List Json} (h : ∀ element ∈ elements, IsKeyed element) : IsKeyed (.array elements)
  | object {members : List (Text × Json)} (keys : (members.map (·.1)).Nodup)
      (values : ∀ member ∈ members, IsKeyed member.2) : IsKeyed (.object members)

/-- Members with distinct keys, whose values have distinct keys as well. -/
structure AreKeyed (members : List (Text × Json)) : Prop where
  keys : (members.map (·.1)).Nodup
  values : ∀ member ∈ members, IsKeyed member.2

theorem AreKeyed.nil : AreKeyed [] := ⟨List.nodup_nil, nofun⟩

theorem AreKeyed.object {members : List (Text × Json)} (h : AreKeyed members) : IsKeyed (.object members) :=
  .object h.keys h.values

theorem areKeyed_of_object {members : List (Text × Json)} (h : IsKeyed (.object members)) : AreKeyed members := by
  cases h with
  | object keys values => exact ⟨keys, values⟩

/-- Nothing is found under what is no key. -/
theorem lookup_eq_none_iff_not_mem {α : Type} {key : Text} {members : List (Text × α)} :
    members.lookup key = none ↔ key ∉ members.map (·.1) := by
  rw [List.lookup_eq_none_iff, List.mem_map]
  constructor
  · rintro h ⟨m, hm, rfl⟩
    exact absurd (h m hm) (by simp)
  · intro h m hm
    exact bne_iff_ne.mpr fun hkey => h ⟨m, hm, hkey.symm⟩

/-- With distinct keys, what is found is what is there. -/
theorem lookup_eq_some_iff_mem {α : Type} {key : Text} {value : α} {members : List (Text × α)}
    (h : (members.map (·.1)).Nodup) : members.lookup key = some value ↔ (key, value) ∈ members := by
  constructor
  · intro hlookup
    obtain ⟨front, back, rfl, -⟩ := List.lookup_eq_some_iff.mp hlookup
    simp
  · intro hmem
    obtain ⟨front, back, rfl⟩ := List.append_of_mem hmem
    refine List.lookup_eq_some_iff.mpr ⟨front, back, rfl, fun m hm => bne_iff_ne.mpr fun hkey => ?_⟩
    rw [List.map_append, List.nodup_append] at h
    exact h.2.2 m.1 (List.mem_map_of_mem hm) key (by simp) hkey.symm

/-- With distinct keys, the order does not matter. -/
theorem lookup_perm {α : Type} {members members' : List (Text × α)} (h : members'.Perm members)
    (hkeys : (members.map (·.1)).Nodup) (key : Text) : members'.lookup key = members.lookup key := by
  have hkeys' : (members'.map (·.1)).Nodup := (h.map _).nodup_iff.mpr hkeys
  refine Option.ext fun value => ?_
  rw [lookup_eq_some_iff_mem hkeys, lookup_eq_some_iff_mem hkeys', h.mem_iff]

/-- The keys stay distinct. -/
theorem nodup_insertMember {α : Type} {key : Text} {value : α} {members : List (Text × α)}
    (h : (members.map (·.1)).Nodup) : ((insertMember key value members).map (·.1)).Nodup := by
  rw [keys_insertMember]
  split
  · exact h
  · rename_i hkey
    exact List.nodup_append.mpr ⟨h, List.nodup_singleton key, fun a ha b hb hab => hkey (by
      rwa [← List.mem_singleton.mp hb, ← hab])⟩

/-- A member is one of the old ones or the new one. -/
theorem mem_insertMember {α : Type} {key : Text} {value : α} {m : Text × α} : ∀ {members : List (Text × α)},
    m ∈ insertMember key value members → m ∈ members ∨ m = (key, value)
  | [], h => .inr (List.mem_singleton.mp h)
  | (k, v) :: rest, h => by
    rw [insertMember] at h
    split at h
    · rename_i hk
      rcases List.mem_cons.mp h with rfl | h
      · exact .inr (by rw [hk])
      · exact .inl (List.mem_cons_of_mem _ h)
    · rcases List.mem_cons.mp h with rfl | h
      · exact .inl List.mem_cons_self
      · exact (mem_insertMember h).imp_left (List.mem_cons_of_mem _)

/-- The key has the new value, and the others have theirs. -/
theorem lookup_insertMember {α : Type} (key : Text) (value : α) (k : Text) : ∀ members : List (Text × α),
    (insertMember key value members).lookup k = if k = key then some value else members.lookup k
  | [] => by
    rw [insertMember, List.lookup_cons]
    by_cases h : k = key
    · simp [h]
    · simp [h, beq_eq_false_iff_ne.mpr h]
  | (k', v) :: rest => by
    have ih := lookup_insertMember key value k rest
    rw [insertMember]
    by_cases h' : k' = key
    · subst h'
      by_cases h : k = k'
      · simp [h]
      · simp [List.lookup_cons, h, beq_eq_false_iff_ne.mpr h]
    · rw [if_neg h', List.lookup_cons, List.lookup_cons, ih]
      by_cases h : k = k'
      · have hne : k ≠ key := h ▸ h'
        simp [h, h']
      · simp [beq_eq_false_iff_ne.mpr h]

theorem AreKeyed.insertMember {members : List (Text × Json)} (h : AreKeyed members) (key : Text) {value : Json}
    (hvalue : IsKeyed value) : AreKeyed (insertMember key value members) where
  keys := nodup_insertMember h.keys
  values m hm := by
    rcases mem_insertMember hm with hm | rfl
    · exact h.values m hm
    · exact hvalue

/-! ## Reading -/

theorem isKeyed_of_readNumber {c : Cursor} {value : Json} {behind : Cursor}
    (h : readNumber c = .ok (value, behind)) : IsKeyed value := by
  simp only [readNumber] at h
  repeat' split at h
  all_goals cases h
  all_goals constructor

theorem isKeyed_of_readScalar {c : Cursor} {value : Json} {behind : Cursor}
    (h : readScalar c = .ok (value, behind)) : IsKeyed value := by
  have hconstants : ∀ e ∈ constants, ∀ v, e.2 = .ok v → IsKeyed v := by
    intro e he v hv
    simp only [constants, List.mem_cons, List.not_mem_nil, or_false] at he
    rcases he with rfl | rfl | rfl | rfl | rfl | rfl <;> cases hv <;> constructor
  rw [readScalar] at h
  split at h
  · cases hs : readString (c.advance 1) with
    | error e =>
      rw [hs] at h
      cases h
    | ok s =>
      rw [hs] at h
      cases h
      exact .string _
  · split at h
    · rename_i word found hfound
      cases found with
      | error e => cases h
      | ok v =>
        cases h
        exact hconstants _ (List.mem_of_find?_eq_some hfound) _ rfl
    · exact isKeyed_of_readNumber h

/-- A reader of values with distinct keys. -/
def ReadsKeyed (read : Cursor → Except Refusal (Json × Cursor)) : Prop :=
  ∀ c value behind, read c = .ok (value, behind) → IsKeyed value

/-- The elements of an array, by induction on how many there may be. -/
theorem isKeyed_of_readElements {readElement : Cursor → Except Refusal (Json × Cursor)}
    (hread : ReadsKeyed readElement) : ∀ {fuel : Nat} {c : Cursor} {elements : List Json} {behind : Cursor},
      readElements readElement fuel c = .ok (elements, behind) → ∀ element ∈ elements, IsKeyed element
  | fuel + 1, c, elements, behind, h => by
    simp only [readElements, bind, Except.bind] at h
    split at h
    · cases h
    · rename_i first hfirst
      have hkeyed := hread _ first.1 first.2 hfirst
      repeat' split at h
      all_goals cases h
      · exact List.forall_mem_singleton.mpr hkeyed
      · rename_i more hmore
        obtain ⟨rest, behind⟩ := more
        exact List.forall_mem_cons.mpr ⟨hkeyed, isKeyed_of_readElements hread hmore⟩

/-- The members of an object behind those that have been read, by induction on how many there may be. -/
theorem areKeyed_of_readMembers {readValue : Cursor → Except Refusal (Json × Cursor)} (hread : ReadsKeyed readValue) :
    ∀ {fuel : Nat} {before : List (Text × Json)} {c : Cursor} {members : List (Text × Json)} {behind : Cursor},
      AreKeyed before → readMembers readValue fuel before c = .ok (members, behind) → AreKeyed members
  | fuel + 1, before, c, members, behind, hbefore, h => by
    simp only [readMembers, bind, Except.bind, pure, Except.pure] at h
    split at h
    · cases h
    · split at h
      · cases h
      · split at h
        · cases h
        · split at h
          · cases h
          · rename_i value hvalue
            have hkeyed := hread _ value.1 value.2 hvalue
            split at h
            · cases h
              exact hbefore.insertMember _ hkeyed
            · split at h
              · exact areKeyed_of_readMembers hread (hbefore.insertMember _ hkeyed) h
              · cases h

/-- Whatever is read has distinct keys, by induction on how deep it may be nested. -/
theorem isKeyed_of_readValue {size : Nat} : ∀ {depth : Nat} {c : Cursor} {value : Json} {behind : Cursor},
    readValue size depth c = .ok (value, behind) → IsKeyed value
  | 0, c, value, behind, h => by
    rw [readValue] at h
    split at h
    · cases h
    · exact isKeyed_of_readScalar h
  | depth + 1, c, value, behind, h => by
    have hread : ReadsKeyed (readValue size depth) := fun _ _ _ => isKeyed_of_readValue
    rw [readValue] at h
    dsimp only at h
    split at h
    · split at h
      · cases h
        exact .array nofun
      · obtain ⟨⟨elements, behind'⟩, helements, hpair⟩ := map_eq_ok_iff.mp h
        cases hpair
        exact .array (isKeyed_of_readElements hread helements)
    · split at h
      · split at h
        · cases h
          exact AreKeyed.nil.object
        · obtain ⟨⟨members, behind'⟩, hmembers, hpair⟩ := map_eq_ok_iff.mp h
          cases hpair
          exact (areKeyed_of_readMembers hread .nil hmembers).object
      · exact isKeyed_of_readScalar h

theorem isKeyed_of_read {t : Text} {value : Json} (h : read t = .ok value) : IsKeyed value := by
  have hdocument := mapError_eq_ok_iff.mp h
  simp only [readDocument, bind, Except.bind, pure, Except.pure] at hdocument
  repeat' split at hdocument
  all_goals cases hdocument
  rename_i hvalue _
  exact isKeyed_of_readValue hvalue

/-! ## Records -/

mutual

theorem areKeyed_of_reachedIn (key : Text) : ∀ (value : Json) (arrays : Nat), IsKeyed value →
    ∀ r ∈ reachedIn key arrays value, AreKeyed r.members
  | .object members, arrays, h, r, hr => by
    have hmembers := areKeyed_of_object h
    rcases List.mem_append.mp hr with hr | hr
    · exact areKeyed_of_reachedInMembers members hmembers.values r hr
    · rw [List.mem_singleton.mp hr]
      exact hmembers
  | .array elements, arrays, .array h, r, hr => areKeyed_of_reachedInFirst key elements (arrays + 1) h r hr

theorem areKeyed_of_reachedInFirst (key : Text) : ∀ (elements : List Json) (arrays : Nat),
    (∀ element ∈ elements, IsKeyed element) → ∀ r ∈ reachedInFirst key arrays elements, AreKeyed r.members
  | first :: _, arrays, h, r, hr => areKeyed_of_reachedIn key first arrays (h first List.mem_cons_self) r hr

/-- The objects in members whose values have distinct keys. -/
theorem areKeyed_of_reachedInMembers : ∀ members : List (Text × Json), (∀ member ∈ members, IsKeyed member.2) →
    ∀ r ∈ reachedInMembers members, AreKeyed r.members
  | (key, value) :: rest, h, r, hr => by
    rw [List.forall_mem_cons] at h
    rcases List.mem_append.mp hr with hr | hr
    · exact areKeyed_of_reachedIn key value 0 h.1 r hr
    · exact areKeyed_of_reachedInMembers rest h.2 r hr

end

/-- The fields that describe some members are named after them, in order. -/
theorem map_sourceName_of_describes {entries : List Entry} {fields : List Field} {members : List (Text × Json)}
    (h : List.Forall₂ (Describes entries) fields members) : fields.map (·.sourceName) = members.map (·.1) := by
  induction h with
  | nil => rfl
  | cons hf _ ih => rw [List.map_cons, List.map_cons, hf.sourceName, ih]

end StructForge.Json

/-! ## Schemas -/

namespace StructForge

/-- The records that a schema declares: its own fields, and those of every nested type. -/
def Schema.records (s : Schema) : List (List Field) := s.fields :: s.nestedTypes.map (·.fields)

/-- The fields for a single object have distinct source names, in the document as in the objects below it. -/
theorem Json.nodup_sourceName_of_readSchema {structName t : Text} {s : Schema}
    (h : Json.readSchema structName t = .ok s) {record : List Field} (hrecord : record ∈ s.records) :
    (record.map (·.sourceName)).Nodup := by
  obtain ⟨members, entries, hread, hs⟩ := Json.exists_isSchemaOf h
  have hmembers := Json.areKeyed_of_object (Json.isKeyed_of_read hread)
  rcases List.mem_cons.mp hrecord with rfl | hrecord
  · rw [Json.map_sourceName_of_describes hs.forest.fields]
    exact hmembers.keys
  · obtain ⟨n, hn, rfl⟩ := List.mem_map.mp hrecord
    rw [← hs.forest.types] at hn
    obtain ⟨p, hp, rfl⟩ := List.mem_map.mp hn
    rw [Json.map_sourceName_of_describes (hs.forest.nestedFields p hp).fields]
    have hreached : p.object ∈ Json.reachedInMembers members := hs.forest.objects ▸ List.mem_map_of_mem hp
    exact (Json.areKeyed_of_reachedInMembers members hmembers.values p.object hreached).keys

end StructForge
