import Mathlib.Data.List.Nodup
import StructForge.Json.Shape

/-!
# The nested types of a document

A schema has one nested type for every object below the root of the document, behind those of the objects in it. They
form an ordered forest (`OrderedForest`): every one is referred to by exactly one field, and the fields of a nested type
refer to earlier ones only.

A run of `shapeOf`, `elementShape` or `fieldsOf` puts entries behind those found so far. The references in the new
entries, together with those that the run gives back, are the places of the new entries, each once (`Grows`). Runs
behind each other grow together (`Grows.append`), and an object closes what its members have grown (`Grows.object`).
-/

namespace StructForge.Json

open Go

/-! ## Objects of a document -/

/-- An object below the root: the key it is reached under, how many arrays are around it there, and its members. -/
structure Reached where
  key : Text
  arrays : Nat
  members : List (Text × Json)

/-- The name of the nested type for an object. -/
def Reached.typeName (r : Reached) : Text :=
  if r.arrays = 0 then Naming.camel r.key else Naming.camel r.key ++ "Item"

mutual

/-- The objects in a value that is reached under a key in some arrays, the value included, each behind the ones in it.
Of an array, only the first element is looked at. -/
def reachedIn (key : Text) (arrays : Nat) : Json → List Reached
  | .object members => reachedInMembers members ++ [⟨key, arrays, members⟩]
  | .array elements => reachedInFirst key (arrays + 1) elements
  | .null | .bool _ | .int _ | .float _ | .string _ => []

/-- The objects in the first of some values. -/
def reachedInFirst (key : Text) (arrays : Nat) : List Json → List Reached
  | [] => []
  | first :: _ => reachedIn key arrays first

/-- The objects in the members of an object. -/
def reachedInMembers : List (Text × Json) → List Reached
  | [] => []
  | (key, value) :: rest => reachedIn key 0 value ++ reachedInMembers rest

end

/-- The number of arrays and the members of the object in them, if the value is an object in arrays. -/
def innermost? : Json → Option (Nat × List (Text × Json))
  | .object members => some (0, members)
  | .array (first :: _) => (innermost? first).map fun (arrays, members) => (arrays + 1, members)
  | .array [] | .null | .bool _ | .int _ | .float _ | .string _ => none

/-! ## Entries -/

/-- A nested type with the object that it is for. -/
structure Entry where
  object : Reached
  type : NestedType

/-- The shape of a value under a key in some arrays. It refers to the entry of the object in the value, and its type is
as many slices of the nested type as there are arrays around the object in the value. -/
structure Refers (entries : List Entry) (key : Text) (around : Nat) (value : Json) (shape : Shape) : Prop where
  none_of_none : innermost? value = none → shape.nested = none
  entry : ∀ arrays members, innermost? value = some (arrays, members) →
    ∃ i p, shape.nested = some i ∧ entries[i]? = some p ∧ p.object = ⟨key, around + arrays, members⟩ ∧
      shape.goType = TypeName.slices arrays p.type.name

/-- A field that belongs to a member. -/
structure Describes (entries : List Entry) (f : Field) (member : Text × Json) : Prop where
  sourceName : f.sourceName = member.1
  refers : Refers entries member.1 0 member.2 ⟨f.targetType, f.nested⟩

/-- An entry whose nested type belongs to its object. -/
structure Entry.Matches (entries : List Entry) (p : Entry) : Prop where
  name : p.type.name = p.object.typeName
  fields : List.Forall₂ (Describes entries) p.type.fields p.object.members

/-- The references of fields. -/
def references (fields : List Field) : List Nat := fields.filterMap (·.nested)

/-- The references in entries. -/
def referencesIn (entries : List Entry) : List Nat := entries.flatMap fun p => references p.type.fields

section Append

variable {entries : List Entry} (more : List Entry)

theorem Refers.append {key : Text} {around : Nat} {value : Json} {shape : Shape}
    (h : Refers entries key around value shape) : Refers (entries ++ more) key around value shape where
  none_of_none := h.none_of_none
  entry arrays members hvalue := by
    obtain ⟨i, p, hi, hp, hobject, htype⟩ := h.entry arrays members hvalue
    obtain ⟨hlt, _⟩ := List.getElem?_eq_some_iff.mp hp
    exact ⟨i, p, hi, by rw [List.getElem?_append_left hlt, hp], hobject, htype⟩

theorem Describes.append {f : Field} {member : Text × Json} (h : Describes entries f member) :
    Describes (entries ++ more) f member := ⟨h.sourceName, h.refers.append more⟩

theorem Entry.Matches.append {p : Entry} (h : p.Matches entries) : p.Matches (entries ++ more) :=
  ⟨h.name, h.fields.imp fun _ _ hf => hf.append more⟩

end Append

/-! ## Growth -/

/-- What a run puts behind the entries found so far, with the references that it gives back. -/
structure Grows (found new : List Entry) (given : List Nat) : Prop where
  perm : (referencesIn new ++ given).Perm (List.range' found.length new.length)
  childrenFirst : ∀ i p, new[i]? = some p → ∀ j ∈ references p.type.fields, j < found.length + i
  entries : ∀ p ∈ new, p.Matches (found ++ new)

/-- Nothing is put there, and no reference is given back. -/
theorem Grows.nil (found : List Entry) : Grows found [] [] := ⟨.nil, by simp, by simp⟩

/-- One run behind another. -/
theorem Grows.append {found new new' : List Entry} {given given' : List Nat} (h : Grows found new given)
    (h' : Grows (found ++ new) new' given') : Grows found (new ++ new') (given ++ given') where
  perm := by
    have hmove : (referencesIn (new ++ new') ++ (given ++ given')).Perm
        ((referencesIn new ++ given) ++ (referencesIn new' ++ given')) := by
      rw [referencesIn, List.flatMap_append, ← referencesIn, ← referencesIn, List.append_assoc, List.append_assoc]
      refine List.Perm.append_left _ ?_
      rw [← List.append_assoc, ← List.append_assoc]
      exact List.Perm.append_right _ List.perm_append_comm
    have hrange := h.perm.append h'.perm
    rw [List.length_append, List.range'_append_1, ← List.length_append] at hrange
    exact hmove.trans hrange
  childrenFirst i p hp j hj := by
    rw [List.getElem?_append] at hp
    split at hp
    · exact h.childrenFirst i p hp j hj
    · have hlt := h'.childrenFirst _ p hp j hj
      rw [List.length_append] at hlt
      omega
  entries p hp := by
    rw [← List.append_assoc]
    rcases List.mem_append.mp hp with hp | hp
    · exact (h.entries p hp).append new'
    · exact h'.entries p hp

/-- An object takes the references of its fields, and gives back one to itself. -/
theorem Grows.object {found new : List Entry} {p : Entry} (h : Grows found new (references p.type.fields))
    (hp : p.Matches (found ++ new)) : Grows found (new ++ [p]) [(found ++ new).length] where
  perm := by
    have hself : referencesIn (new ++ [p]) = referencesIn new ++ references p.type.fields := by
      rw [referencesIn, List.flatMap_append, List.flatMap_singleton, ← referencesIn]
    rw [hself, List.length_append, List.length_append, List.length_singleton, List.range'_1_concat]
    exact h.perm.append_right _
  childrenFirst i q hq j hj := by
    rw [List.getElem?_append] at hq
    split at hq
    · exact h.childrenFirst i q hq j hj
    · -- the new entry stands behind all entries that its fields may refer to
      obtain ⟨hi, rfl⟩ : i - new.length = 0 ∧ p = q := by
        rw [List.getElem?_singleton] at hq
        split at hq
        · exact ⟨‹_›, Option.some.inj hq⟩
        · cases hq
      have hmem := (h.perm.mem_iff).mp (List.mem_append_right _ hj)
      rw [List.mem_range'_1] at hmem
      omega
  entries q hq := by
    rw [← List.append_assoc]
    rcases List.mem_append.mp hq with hq | hq
    · exact (h.entries q hq).append [p]
    · rw [List.mem_singleton.mp hq]
      exact hp.append [p]

/-! ## Runs -/

/-- The result of a run that has put entries behind those found so far. -/
structure Run (found : List Entry) (found' : List NestedType) (reached : List Reached) (given : List Nat)
    (new : List Entry) : Prop where
  types : found' = (found ++ new).map (·.type)
  objects : new.map (·.object) = reached
  grows : Grows found new given

theorem references_cons (f : Field) (fs : List Field) :
    references (f :: fs) = f.nested.toList ++ references fs := by
  rw [references, List.filterMap_cons]
  cases f.nested <;> rfl

/-- An object refers to the entry that it gets. -/
theorem Refers.object {entries : List Entry} {key : Text} {arrays : Nat} {members : List (Text × Json)} {p : Entry}
    (hp : p.object = ⟨key, arrays, members⟩) :
    Refers (entries ++ [p]) key arrays (.object members) ⟨p.type.name, some entries.length⟩ where
  none_of_none := nofun
  entry
    | _, _, rfl => ⟨entries.length, p, rfl, List.getElem?_concat_length, hp, rfl⟩

/-- An array refers to the entry of its first element. -/
theorem Refers.array {entries : List Entry} {key : Text} {arrays : Nat} {first : Json} {rest : List Json}
    {shape : Shape} (h : Refers entries key (arrays + 1) first shape) :
    Refers entries key arrays (.array (first :: rest)) ⟨TypeName.slice shape.goType, shape.nested⟩ where
  none_of_none hnone := h.none_of_none (by simpa [innermost?] using hnone)
  entry around members hsome := by
    obtain ⟨⟨inner, _⟩, hfirst, hpair⟩ := Option.map_eq_some_iff.mp hsome
    cases hpair
    obtain ⟨i, p, hi, hp, hobject, htype⟩ := h.entry inner members hfirst
    refine ⟨i, p, hi, hp, ?_, ?_⟩
    · rw [hobject, Nat.add_assoc, Nat.add_comm 1]
    · rw [htype]
      rfl

theorem nestedName_camel (r : Reached) : nestedName (Naming.camel r.key) (decide (0 < r.arrays)) = r.typeName := by
  rw [nestedName, Reached.typeName]
  by_cases h : r.arrays = 0
  · rw [if_pos h, if_neg (by simp [h])]
  · rw [if_neg h, if_pos (by simp [Nat.pos_of_ne_zero h])]

/-- A value without objects adds nothing. -/
theorem Run.nil (found : List Entry) : Run found (found.map (·.type)) [] [] [] :=
  ⟨by rw [List.append_nil], rfl, .nil found⟩

/-- The shape of an object, from the fields of its members. -/
theorem Run.object {found new : List Entry} {found' : List NestedType} {fields : List Field} {r : Reached}
    (h : Run found found' (reachedInMembers r.members) (references fields) new)
    (hfields : List.Forall₂ (Describes (found ++ new)) fields r.members) :
    Run found (found' ++ [⟨r.typeName, fields⟩]) (reachedInMembers r.members ++ [r]) [found'.length]
      (new ++ [⟨r, ⟨r.typeName, fields⟩⟩]) where
  types := by simp [h.types]
  objects := by rw [List.map_append, h.objects, List.map_singleton]
  grows := by
    have hlength : found'.length = (found ++ new).length := by rw [h.types, List.length_map]
    rw [hlength]
    exact Grows.object h.grows ⟨rfl, hfields⟩

/-- The fields of some members, from the shape of the first and the fields of the others. -/
theorem Run.append {found new new' : List Entry} {found' found'' : List NestedType} {reached reached' : List Reached}
    {given given' : List Nat} (h : Run found found' reached given new)
    (h' : Run (found ++ new) found'' reached' given' new') :
    Run found found'' (reached ++ reached') (given ++ given') (new ++ new') where
  types := by rw [h'.types, List.append_assoc]
  objects := by rw [List.map_append, h.objects, h'.objects]
  grows := h.grows.append h'.grows

mutual

/-- The shape of a value. -/
theorem shapeOf_run (key : Text) : ∀ (value : Json) (arrays : Nat) (found : List Entry) {depth : Nat} {shape : Shape}
    {found' : List NestedType},
    shapeOf depth (Naming.camel key) (decide (0 < arrays)) (found.map (·.type)) value = some (shape, found') →
      ∃ new, Run found found' (reachedIn key arrays value) shape.nested.toList new ∧
        Refers (found ++ new) key arrays value shape
  | .object members, arrays, found, _, _, _, h => by
    rw [shapeOf] at h
    split at h
    · cases h
    · split at h
      · cases h
      · rename_i fields types hfields
        obtain ⟨new, hrun, hdescribes⟩ := fieldsOf_run members found hfields
        have hname := nestedName_camel ⟨key, arrays, members⟩
        have hlength : types.length = (found ++ new).length := by rw [hrun.types, List.length_map]
        cases h
        refine ⟨_, by rw [hname]; exact hrun.object hdescribes, ?_⟩
        rw [hname, hlength, ← List.append_assoc]
        exact Refers.object rfl
  | .array elements, arrays, found, _, _, _, h => by
    rw [shapeOf] at h
    split at h
    · cases h
    · split at h
      · cases h
      · rename_i inner types hinner
        obtain ⟨new, hrun, hrefers⟩ := elementShape_run key elements arrays found hinner
        cases h
        exact ⟨new, hrun, hrefers⟩
  | .null, _, found, _, _, _, h | .bool _, _, found, _, _, _, h | .int _, _, found, _, _, _, h
  | .float _, _, found, _, _, _, h | .string _, _, found, _, _, _, h => by
    cases h
    exact ⟨[], Run.nil found, fun _ => rfl, nofun⟩

/-- The shape of the elements of an array. -/
theorem elementShape_run (key : Text) : ∀ (elements : List Json) (arrays : Nat) (found : List Entry) {depth : Nat}
    {shape : Shape} {found' : List NestedType},
    elementShape depth (Naming.camel key) (found.map (·.type)) elements = some (shape, found') →
      ∃ new, Run found found' (reachedInFirst key (arrays + 1) elements) shape.nested.toList new ∧
        Refers (found ++ new) key arrays (.array elements) ⟨TypeName.slice shape.goType, shape.nested⟩
  | [], _, found, _, _, _, h => by
    cases h
    exact ⟨[], Run.nil found, fun _ => rfl, nofun⟩
  | first :: _, arrays, found, _, _, _, h => by
    rw [elementShape] at h
    obtain ⟨new, hrun, hrefers⟩ := shapeOf_run key first (arrays + 1) found h
    exact ⟨new, hrun, hrefers.array⟩

/-- The fields of the members of an object. -/
theorem fieldsOf_run : ∀ (members : List (Text × Json)) (found : List Entry) {depth : Nat} {fields : List Field}
    {found' : List NestedType},
    fieldsOf depth (found.map (·.type)) members = some (fields, found') →
      ∃ new, Run found found' (reachedInMembers members) (references fields) new ∧
        List.Forall₂ (Describes (found ++ new)) fields members
  | [], found, _, _, _, h => by
    cases h
    exact ⟨[], Run.nil found, .nil⟩
  | (key, value) :: rest, found, _, _, _, h => by
    rw [fieldsOf] at h
    split at h
    · cases h
    · rename_i shape types hshape
      split at h
      · cases h
      · rename_i others types' hrest
        obtain ⟨new, hrun, hrefers⟩ := shapeOf_run key value 0 found hshape
        rw [hrun.types] at hrest
        obtain ⟨new', hrun', hdescribes⟩ := fieldsOf_run rest (found ++ new) hrest
        cases h
        refine ⟨new ++ new', references_cons _ _ ▸ hrun.append hrun', ?_⟩
        rw [← List.append_assoc]
        exact .cons ⟨rfl, hrefers.append new'⟩ hdescribes

end

/-! ## Schemas -/

/-- The fields of a schema and of its nested types. -/
def allFields (s : Schema) : List Field := s.fields ++ s.nestedTypes.flatMap (·.fields)

/-- The nested types of a schema are an ordered forest over the objects below the root. -/
structure OrderedForest (members : List (Text × Json)) (s : Schema) (entries : List Entry) : Prop where
  types : entries.map (·.type) = s.nestedTypes
  objects : entries.map (·.object) = reachedInMembers members
  fields : List.Forall₂ (Describes entries) s.fields members
  nestedFields : ∀ p ∈ entries, p.Matches entries
  inRange : ∀ f ∈ allFields s, ∀ i, f.nested = some i → i < s.nestedTypes.length
  once : ∀ i < s.nestedTypes.length, (allFields s).countP (·.nested == some i) = 1
  childrenFirst : ∀ i (t : NestedType), s.nestedTypes[i]? = some t → ∀ f ∈ t.fields, ∀ j, f.nested = some j → j < i

theorem mem_references {fs : List Field} {i : Nat} : i ∈ references fs ↔ ∃ f ∈ fs, f.nested = some i :=
  List.mem_filterMap

/-- The schema of a document whose members have been run through. -/
theorem orderedForest_of_run {members : List (Text × Json)} {s : Schema} {new : List Entry}
    (h : Run [] s.nestedTypes (reachedInMembers members) (references s.fields) new)
    (hfields : List.Forall₂ (Describes new) s.fields members) : OrderedForest members s new := by
  have htypes : new.map (·.type) = s.nestedTypes := h.types.symm
  have hlength : s.nestedTypes.length = new.length := by rw [← htypes, List.length_map]
  have hall : (references (allFields s)).Perm (List.range' 0 s.nestedTypes.length) := by
    have hperm := List.perm_append_comm.trans h.grows.perm
    rw [List.length_nil, ← hlength] at hperm
    rw [allFields, references, List.filterMap_append, List.filterMap_flatMap, ← htypes, List.flatMap_map]
    exact htypes ▸ hperm
  refine ⟨htypes, h.objects, hfields, h.grows.entries, ?_, ?_, ?_⟩
  · intro f hf i hi
    have hmem := hall.mem_iff.mp (mem_references.mpr ⟨f, hf, hi⟩)
    rw [List.mem_range'_1] at hmem
    omega
  · intro i hi
    have hcount : (references (allFields s)).count i = 1 := by
      rw [hall.count_eq]
      exact List.count_eq_one_of_mem List.nodup_range' (List.mem_range'_1.mpr ⟨by omega, by omega⟩)
    rwa [references, List.count_filterMap] at hcount
  · intro i t ht f hf j hj
    rw [← htypes, List.getElem?_map] at ht
    obtain ⟨p, hp, rfl⟩ := Option.map_eq_some_iff.mp ht
    have hlt := h.grows.childrenFirst i p hp j (mem_references.mpr ⟨f, hf, hj⟩)
    simpa using hlt

/-- The nested types of the schema of a document are an ordered forest over the objects below the root. -/
theorem readSchema_orderedForest {structName t : Text} {s : Schema} (h : readSchema structName t = .ok s) :
    ∃ members entries, read t = .ok (.object members) ∧ OrderedForest members s entries := by
  rw [readSchema] at h
  cases hread : read t with
  | error error =>
    rw [hread] at h
    cases error <;> cases h
  | ok document =>
    rw [hread] at h
    cases document with
    | object members =>
      simp only [schemaOf] at h
      split at h
      · rename_i fields types hfields
        cases h
        obtain ⟨new, hrun, hdescribes⟩ := fieldsOf_run members [] hfields
        exact ⟨members, new, rfl, orderedForest_of_run hrun hdescribes⟩
      · cases h
    | _ => cases h

/-- A document with objects by themselves and in arrays, and with one name for two of them. -/
def rowsText : Text := "\x7b\"user\": \x7b\"id\": 1\x7d, \"rows\": [[\x7b\"user\": \x7b\x7d\x7d]]\x7d"

/-- The nested types of the document, children first. -/
theorem readSchema_rowsText :
    ∃ s, readSchema "Response" rowsText = .ok s ∧ s.nestedTypes.map (·.name) = ["User", "User", "RowsItem"] ∧
      ∃ members entries, read rowsText = .ok (.object members) ∧ OrderedForest members s entries := by
  have hnames : (readSchema "Response" rowsText).toOption.map (·.nestedTypes.map (·.name)) =
      some (["User", "User", "RowsItem"] : List Text) := by decide +kernel
  cases hs : readSchema "Response" rowsText with
  | error error =>
    rw [hs] at hnames
    cases hnames
  | ok s =>
    rw [hs] at hnames
    exact ⟨s, rfl, Option.some.inj hnames, readSchema_orderedForest hs⟩

end StructForge.Json
