import StructForge.Proofs.Json.Forest
import StructForge.Proofs.Naming
import StructForge.Proofs.Nesting

/-!
# The fields of a document

Every field of a schema was made for a member of an object (`isMemberField_of_readSchema`), and its type is slices of a
type of scalars, or of the nested type that the field refers to (`IsSchemaOf.field_cases`). A document with a schema is
not nested too deep along its first elements (`fieldsOf_nesting`). All that the schema of a document is known to be
stands in `IsSchemaOf`.
-/

namespace StructForge.Json

open Go

/-! ## Schemas and members -/

/-- The schema of an object has the fields of its members. -/
theorem fieldsOf_of_schemaOf {structName : Text} {members : List (Text × Json)} {s : Schema}
    (h : schemaOf structName (.object members) = .ok s) :
    fieldsOf 0 [] members = some (s.fields, s.nestedTypes) ∧
      s = { structName := some structName, fields := s.fields, nestedTypes := s.nestedTypes } := by
  rw [schemaOf] at h
  split at h
  · rename_i hfields
    cases h
    exact ⟨hfields, rfl⟩
  · cases h

/-- The schema that is read from a text is that of an object. -/
theorem exists_schemaOf_of_readSchema {structName t : Text} {s : Schema} (h : readSchema structName t = .ok s) :
    ∃ members, read t = .ok (.object members) ∧ schemaOf structName (.object members) = .ok s := by
  rw [readSchema] at h
  cases hread : read t with
  | error e =>
    rw [hread] at h
    cases e <;> cases h
  | ok document =>
    rw [hread] at h
    cases document with
    | object members => exact ⟨members, rfl, h⟩
    | _ => cases h

/-- The schema of a document has the fields of its members. -/
theorem exists_fieldsOf_of_readSchema {structName t : Text} {s : Schema} (h : readSchema structName t = .ok s) :
    ∃ members, read t = .ok (.object members) ∧ fieldsOf 0 [] members = some (s.fields, s.nestedTypes) ∧
      s = { structName := some structName, fields := s.fields, nestedTypes := s.nestedTypes } := by
  obtain ⟨members, hread, hschema⟩ := exists_schemaOf_of_readSchema h
  exact ⟨members, hread, fieldsOf_of_schemaOf hschema⟩

/-- The name for the struct has no part in whether there is a schema. -/
theorem exists_readSchema {structName t : Text} {s : Schema} (h : readSchema structName t = .ok s) (name : Text) :
    ∃ s', readSchema name t = .ok s' := by
  obtain ⟨members, hread, hfields, -⟩ := exists_fieldsOf_of_readSchema h
  exact ⟨_, by rw [readSchema, hread]; simp only [schemaOf, hfields]; rfl⟩

/-! ## Types of fields -/

/-- The Go types of values that hold no object. -/
def scalarTypes : List Text := [TypeName.string, TypeName.int, TypeName.float64, TypeName.bool, TypeName.any]

/-- Slices of a type of scalars. -/
def IsScalar (goType : Text) : Prop := ∃ depth, ∃ base ∈ scalarTypes, goType = TypeName.slices depth base

theorem IsScalar.slice {goType : Text} (h : IsScalar goType) : IsScalar (TypeName.slice goType) := by
  obtain ⟨depth, base, hbase, rfl⟩ := h
  exact ⟨depth + 1, base, hbase, rfl⟩

theorem isScalar_of_mem {goType : Text} (h : goType ∈ scalarTypes) : IsScalar goType := ⟨0, goType, h, rfl⟩

/-- A field that was made for a member, with a type of scalars unless it refers to a nested type. -/
structure IsMemberField (f : Field) : Prop where
  made : ∃ key value shape, f = memberField key value shape
  scalar : f.nested = none → IsScalar f.targetType

/-- Nested types with fields that were made for members. -/
def HaveMemberFields (types : List NestedType) : Prop := ∀ n ∈ types, ∀ f ∈ n.fields, IsMemberField f

mutual

theorem shapeOf_memberFields : ∀ (value : Json) {depth : Nat} {goName : Text} {inArray : Bool}
    {found : List NestedType} {shape : Shape} {found' : List NestedType},
    shapeOf depth goName inArray found value = some (shape, found') → HaveMemberFields found →
      HaveMemberFields found' ∧ (shape.nested = none → IsScalar shape.goType)
  | .object members, _, _, _, _, _, _, h, hfound => by
    rw [shapeOf] at h
    split at h
    · cases h
    · split at h
      · cases h
      · rename_i fields types hfields
        obtain ⟨htypes, hmembers⟩ := fieldsOf_memberFields members hfields hfound
        cases h
        refine ⟨fun n hn => ?_, nofun⟩
        rcases List.mem_append.mp hn with hn | hn
        · exact htypes n hn
        · rw [List.mem_singleton.mp hn]
          exact hmembers
  | .array elements, _, _, _, _, _, _, h, hfound => by
    rw [shapeOf] at h
    split at h
    · cases h
    · split at h
      · cases h
      · rename_i inner types hinner
        obtain ⟨htypes, hscalar⟩ := elementShape_memberFields elements hinner hfound
        cases h
        exact ⟨htypes, fun hnone => (hscalar hnone).slice⟩
  | .null, _, _, _, _, _, _, h, hfound | .bool _, _, _, _, _, _, _, h, hfound
  | .int _, _, _, _, _, _, _, h, hfound | .string _, _, _, _, _, _, _, h, hfound => by
    cases h
    exact ⟨hfound, fun _ => isScalar_of_mem (by decide)⟩
  | .float x, _, _, _, _, _, _, h, hfound => by
    cases h
    refine ⟨hfound, fun _ => isScalar_of_mem ?_⟩
    rw [kind]
    split <;> decide

theorem elementShape_memberFields : ∀ (elements : List Json) {depth : Nat} {goName : Text} {found : List NestedType}
    {shape : Shape} {found' : List NestedType},
    elementShape depth goName found elements = some (shape, found') → HaveMemberFields found →
      HaveMemberFields found' ∧ (shape.nested = none → IsScalar shape.goType)
  | [], _, _, _, _, _, h, hfound => by
    cases h
    exact ⟨hfound, fun _ => isScalar_of_mem (by decide)⟩
  | first :: _, _, _, _, _, _, h, hfound => by
    rw [elementShape] at h
    exact shapeOf_memberFields first h hfound

theorem fieldsOf_memberFields : ∀ (members : List (Text × Json)) {depth : Nat} {found : List NestedType}
    {fields : List Field} {found' : List NestedType},
    fieldsOf depth found members = some (fields, found') → HaveMemberFields found →
      HaveMemberFields found' ∧ ∀ f ∈ fields, IsMemberField f
  | [], _, _, _, _, h, hfound => by
    cases h
    exact ⟨hfound, nofun⟩
  | (key, value) :: rest, _, _, _, _, h, hfound => by
    rw [fieldsOf] at h
    split at h
    · cases h
    · rename_i shape types hshape
      split at h
      · cases h
      · rename_i others types' hrest
        obtain ⟨htypes, hscalar⟩ := shapeOf_memberFields value hshape hfound
        obtain ⟨htypes', hothers⟩ := fieldsOf_memberFields rest hrest htypes
        cases h
        exact ⟨htypes', List.forall_mem_cons.mpr ⟨⟨⟨key, value, shape, rfl⟩, hscalar⟩, hothers⟩⟩

end

/-- All fields of a schema were made for members. -/
theorem isMemberField_of_schemaOf {structName : Text} {members : List (Text × Json)} {s : Schema}
    (h : schemaOf structName (.object members) = .ok s) {f : Field} (hf : f ∈ s.allFields) : IsMemberField f := by
  obtain ⟨htypes, hmembers⟩ := fieldsOf_memberFields members (fieldsOf_of_schemaOf h).1 nofun
  rcases List.mem_append.mp hf with hf | hf
  · exact hmembers f hf
  · obtain ⟨n, hn, hmem⟩ := List.mem_flatMap.mp hf
    exact htypes n hn f hmem

theorem isMemberField_of_readSchema {structName t : Text} {s : Schema} (h : readSchema structName t = .ok s)
    {f : Field} (hf : f ∈ s.allFields) : IsMemberField f := by
  obtain ⟨members, -, hschema⟩ := exists_schemaOf_of_readSchema h
  exact isMemberField_of_schemaOf hschema hf

/-! ## Nesting -/

mutual

/-- How deep arrays and objects are nested in a value; of an array, only the first element is looked at. -/
def nesting : Json → Nat
  | .object members => nestingOfMembers members + 1
  | .array elements => nestingOfFirst elements + 1
  | .null | .bool _ | .int _ | .float _ | .string _ => 0

/-- How deep the first of some values is nested. -/
def nestingOfFirst : List Json → Nat
  | [] => 0
  | first :: _ => nesting first

/-- How deep the values of some members are nested. -/
def nestingOfMembers : List (Text × Json) → Nat
  | [] => 0
  | (_, value) :: rest => max (nesting value) (nestingOfMembers rest)

end

mutual

/-- A value with a shape is not nested too deep. -/
theorem shapeOf_nesting : ∀ (value : Json) {depth : Nat} {goName : Text} {inArray : Bool} {found : List NestedType}
    {r : Shape × List NestedType}, depth ≤ maxNesting → shapeOf depth goName inArray found value = some r →
      depth + nesting value ≤ maxNesting
  | .object members, depth, _, _, _, _, _, h => by
    rw [shapeOf] at h
    split at h
    · cases h
    · split at h
      · cases h
      · rename_i hdepth _ _ _ hfields
        have hmembers := fieldsOf_nesting members (by omega) hfields
        rw [nesting]
        omega
  | .array elements, depth, _, _, _, _, _, h => by
    rw [shapeOf] at h
    split at h
    · cases h
    · split at h
      · cases h
      · rename_i hdepth _ _ _ hinner
        have helements := elementShape_nesting elements (by omega) hinner
        rw [nesting]
        omega
  | .null, _, _, _, _, _, hdepth, _ | .bool _, _, _, _, _, _, hdepth, _ | .int _, _, _, _, _, _, hdepth, _
  | .float _, _, _, _, _, _, hdepth, _ | .string _, _, _, _, _, _, hdepth, _ => hdepth

theorem elementShape_nesting : ∀ (elements : List Json) {depth : Nat} {goName : Text} {found : List NestedType}
    {r : Shape × List NestedType}, depth ≤ maxNesting → elementShape depth goName found elements = some r →
      depth + nestingOfFirst elements ≤ maxNesting
  | [], _, _, _, _, hdepth, _ => hdepth
  | first :: _, _, _, _, _, hdepth, h => by
    rw [elementShape] at h
    exact shapeOf_nesting first hdepth h

theorem fieldsOf_nesting : ∀ (members : List (Text × Json)) {depth : Nat} {found : List NestedType}
    {r : List Field × List NestedType}, depth ≤ maxNesting → fieldsOf depth found members = some r →
      depth + nestingOfMembers members ≤ maxNesting
  | [], _, _, _, hdepth, _ => hdepth
  | (key, value) :: rest, depth, _, _, hdepth, h => by
    rw [fieldsOf] at h
    split at h
    · cases h
    · rename_i hshape
      split at h
      · cases h
      · rename_i hrest
        have hvalue := shapeOf_nesting value hdepth hshape
        have hothers := fieldsOf_nesting rest hdepth hrest
        rw [nestingOfMembers]
        omega

end

/-- The object in a value is nested less deep than the value. -/
theorem nestingOfMembers_lt : ∀ {value : Json} {arrays : Nat} {members : List (Text × Json)},
    innermost? value = some (arrays, members) → nestingOfMembers members < nesting value
  | .object members, _, _, rfl => Nat.lt_succ_self _
  | .array (first :: _), _, _, h => by
    obtain ⟨⟨arrays, members⟩, hfirst, hpair⟩ := Option.map_eq_some_iff.mp h
    cases hpair
    exact Nat.lt_succ_of_lt (nestingOfMembers_lt hfirst)

theorem nesting_le_of_mem {key : Text} {value : Json} : ∀ {members : List (Text × Json)}, (key, value) ∈ members →
    nesting value ≤ nestingOfMembers members
  | (k, v) :: rest, h => by
    rw [nestingOfMembers]
    rcases List.mem_cons.mp h with h | h
    · cases h
      exact Nat.le_max_left _ _
    · exact Nat.le_trans (nesting_le_of_mem h) (Nat.le_max_right _ _)

/-! ## Documents -/

/-- A schema is that of a document with some members: its nested types are a forest over the objects in them, its fields
were made for members, and nothing is nested too deep. -/
structure IsSchemaOf (members : List (Text × Json)) (s : Schema) (entries : List Entry) : Prop where
  forest : OrderedForest members s entries
  memberFields : ∀ f ∈ s.allFields, IsMemberField f
  nesting_le : nestingOfMembers members ≤ maxNesting
  unlisted : s.unlisted = []
  tableName : s.tableName = none

/-- What inference makes of an object is the schema of the object. -/
theorem exists_isSchemaOf_of_schemaOf {structName : Text} {members : List (Text × Json)} {s : Schema}
    (h : schemaOf structName (.object members) = .ok s) : ∃ entries, IsSchemaOf members s entries := by
  obtain ⟨hfields, hschema⟩ := fieldsOf_of_schemaOf h
  obtain ⟨entries, hrun, hdescribes⟩ := fieldsOf_run members [] hfields
  have hnesting := fieldsOf_nesting members (Nat.zero_le _) hfields
  exact ⟨entries,
    { forest := orderedForest_of_run hrun hdescribes
      memberFields := fun f => isMemberField_of_schemaOf h
      nesting_le := by omega
      unlisted := by rw [hschema]
      tableName := by rw [hschema] }⟩

/-- What is read from a text is the schema of its document. -/
theorem exists_isSchemaOf {structName t : Text} {s : Schema} (h : readSchema structName t = .ok s) :
    ∃ members entries, read t = .ok (.object members) ∧ IsSchemaOf members s entries := by
  obtain ⟨members, hread, hschema⟩ := exists_schemaOf_of_readSchema h
  obtain ⟨entries, hs⟩ := exists_isSchemaOf_of_schemaOf hschema
  exact ⟨members, entries, hread, hs⟩

namespace IsSchemaOf

variable {members : List (Text × Json)} {s : Schema} {entries : List Entry} (hs : IsSchemaOf members s entries)
include hs

theorem isGoName_of_mem {n : NestedType} (hn : n ∈ s.nestedTypes) : Naming.IsGoName n.name := by
  rw [← hs.forest.types] at hn
  obtain ⟨p, hp, rfl⟩ := List.mem_map.mp hn
  rw [(hs.forest.nestedFields p hp).name, Reached.typeName]
  split
  · exact Naming.isGoName_camel _
  · exact (Naming.isGoName_camel _).append (by decide +kernel)

/-- The nested type at a place. -/
theorem places_eq {i : Nat} {p : Entry} (hp : entries[i]? = some p) : s.places[i]? = some p.type := by
  rw [Schema.places, hs.unlisted, List.append_nil, ← hs.forest.types, List.getElem?_map, hp]
  rfl

/-- Every field was made for a member. -/
theorem exists_describes {f : Field} (hf : f ∈ s.allFields) : ∃ member, Describes entries f member := by
  rcases List.mem_append.mp hf with hf | hf
  · obtain ⟨member, -, hdescribes⟩ := exists_mem_of_forall₂ hs.forest.fields hf
    exact ⟨member, hdescribes⟩
  · obtain ⟨n, hn, hmem⟩ := List.mem_flatMap.mp hf
    rw [← hs.forest.types] at hn
    obtain ⟨p, hp, rfl⟩ := List.mem_map.mp hn
    obtain ⟨member, -, hdescribes⟩ := exists_mem_of_forall₂ (hs.forest.nestedFields p hp).fields hmem
    exact ⟨member, hdescribes⟩

/-- A field has slices of a type of scalars, or slices of the nested type that it refers to. -/
theorem field_cases {f : Field} (hf : f ∈ s.allFields) :
    f.nested = none ∧ IsScalar f.targetType ∨
      ∃ i depth, ∃ n ∈ s.nestedTypes, f.nested = some i ∧ s.places[i]? = some n ∧
        f.targetType = TypeName.slices depth n.name := by
  obtain ⟨⟨key, value⟩, hdescribes⟩ := hs.exists_describes hf
  cases hvalue : innermost? value with
  | none =>
    have hnone := hdescribes.refers.none_of_none hvalue
    exact .inl ⟨hnone, (hs.memberFields f hf).scalar hnone⟩
  | some r =>
    obtain ⟨i, p, hi, hp, -, htype⟩ := hdescribes.refers.entry r.1 r.2 hvalue
    have hmem : p.type ∈ s.nestedTypes := by
      rw [← hs.forest.types]
      exact List.mem_map_of_mem (List.mem_of_getElem? hp)
    exact .inr ⟨i, r.1, p.type, hmem, hi, hs.places_eq hp, htype⟩

end IsSchemaOf

end StructForge.Json
