import StructForge.Proofs.Go.Rows
import StructForge.Proofs.Json.Members

/-!
# Nested types in place

A field of a document refers to the nested type of the object in its value; a field without an object in its value has
no nested type, as no nested type is named like a type of scalars (`nested?_of_scalar`). So the type of a field in place
is its own, or the struct of the members of the object behind the brackets of its slices (`inlineType_of_object`).

There is room for more levels of structs than a document can have, so the code for it always succeeds
(`exists_code`).
-/

namespace StructForge.Go

open Text Json

/-! ## Names of nested types -/

/-- The brackets of slices are dropped. -/
theorem elementName_slices (depth : Nat) (element : Text) :
    elementName (TypeName.slices depth element) = elementName element := by
  induction depth with
  | zero => rfl
  | succ depth ih =>
    rw [← ih]
    simp [elementName, TypeName.slices, TypeName.slice]

/-- Nothing is dropped from what starts with no bracket. -/
theorem elementName_of_head {name : Text} (h : name.head? ≠ some '[' ∧ name.head? ≠ some ']') :
    elementName name = name := by
  cases name with
  | nil => rfl
  | cons c t =>
    rw [List.head?_cons, Ne, Option.some_inj, Ne, Option.some_inj] at h
    simp [elementName, h]

theorem elementName_scalar {base : Text} (h : base ∈ scalarTypes) (depth : Nat) :
    elementName (TypeName.slices depth base) = base := by
  have hheads : ∀ base ∈ scalarTypes, base.head? ≠ some '[' ∧ base.head? ≠ some ']' := by decide
  rw [elementName_slices, elementName_of_head (hheads base h)]

theorem elementName_goName {name : Text} (h : Naming.IsGoName name) (depth : Nat) :
    elementName (TypeName.slices depth name) = name := by
  obtain ⟨c, t, rfl, hcapital⟩ := h.start
  rw [elementName_slices]
  refine elementName_of_head ⟨fun hopen => ?_, fun hclose => ?_⟩
  · obtain rfl := Option.some.inj hopen
    exact absurd (hcapital (by decide)) (by decide)
  · obtain rfl := Option.some.inj hclose
    exact absurd (hcapital (by decide)) (by decide)

/-- A Go name is no type of scalars: those start with small letters. -/
theorem goName_not_mem_scalarTypes {name : Text} (h : Naming.IsGoName name) : name ∉ scalarTypes := by
  have hsmall : ∀ base ∈ scalarTypes, base.head?.all Naming.isSmall = true := by decide
  intro hmem
  obtain ⟨c, t, rfl, hcapital⟩ := h.start
  have hc : Naming.isSmall c = true := hsmall _ hmem
  have hascii : c.toNat < 0x80 := toNat_lt_of_isSmall hc
  rw [Naming.isSmall_of_isCapital (hcapital hascii)] at hc
  cases hc

theorem dropSuffix_append (t back : Text) : dropSuffix (t ++ back) back = t := by
  have hends : endsWith (t ++ back) back = true := by
    rw [endsWith, List.reverse_append, startsWith, afterPrefix?_append]
    rfl
  rw [dropSuffix, if_pos hends, List.length_append, Nat.add_sub_cancel, List.take_left]

/-- The brackets of some slices. -/
def brackets (depth : Nat) : Text := TypeName.slices depth []

theorem slices_eq (depth : Nat) (element : Text) : TypeName.slices depth element = brackets depth ++ element := by
  induction depth with
  | zero => rfl
  | succ depth ih =>
    rw [TypeName.slices, ih]
    rfl

/-! ## The nested type of a field -/

section Document

variable {members : List (Text × Json)} {s : Schema} {entries : List Entry} (hs : IsSchemaOf members s entries)
include hs

/-- No nested type has the name of a type of scalars. -/
theorem findNested?_of_isScalar {goType : Text} (h : IsScalar goType) :
    findNested? s.nestedTypes (elementName goType) = none := by
  obtain ⟨depth, base, hbase, rfl⟩ := h
  rw [elementName_scalar hbase, findNested?, List.find?_eq_none]
  intro n hn heq
  rw [beq_iff_eq] at heq
  exact goName_not_mem_scalarTypes (hs.isGoName_of_mem hn) (heq ▸ hbase)

theorem nested?_of_scalar {f : Field} (hnone : f.nested = none) (htype : IsScalar f.targetType) :
    nested? s f = none := by
  rw [nested?, hnone]
  exact findNested?_of_isScalar hs htype

variable {f : Field} {key : Text} {value : Json} (hdescribes : Describes entries f (key, value))
include hdescribes

/-- Without an object in the value, the type in place is the type of the field. -/
theorem inlineType_of_scalar (hf : f ∈ s.allFields) (hvalue : innermost? value = none) (depth : Nat)
    (renderInner : List Field → Except TooDeep (List Text)) : inlineType s depth renderInner f = .ok f.targetType := by
  have hnone := hdescribes.refers.none_of_none hvalue
  rw [inlineType, nested?_of_scalar hs hnone ((hs.memberFields f hf).scalar hnone)]

/-- With an object in the value, the type in place is slices of the struct of its members. -/
theorem inlineType_of_object {arrays : Nat} {inner : List (Text × Json)}
    (hvalue : innermost? value = some (arrays, inner)) :
    ∃ fields, List.Forall₂ (Describes entries) fields inner ∧ (∀ f ∈ fields, f ∈ s.allFields) ∧
      ∀ depth renderInner, inlineType s depth renderInner f =
        (if fields.isEmpty then .ok [] else renderInner fields).map fun lines =>
          brackets arrays ++ inlineStruct depth lines := by
  obtain ⟨i, p, hi, hp, hobject, htype⟩ := hdescribes.refers.entry arrays inner hvalue
  have hmem := List.mem_of_getElem? hp
  have hmembers : p.object.members = inner := by rw [hobject]
  have hnested : nested? s f = some p.type := by
    rw [nested?]
    have hplace : f.nested = some i := hi
    rw [hplace]
    exact hs.places_eq hp
  refine ⟨p.type.fields, hmembers ▸ (hs.forest.nestedFields p hmem).fields, fun g hg => ?_, fun depth renderInner => ?_⟩
  · refine List.mem_append_right _ (List.mem_flatMap.mpr ⟨p.type, ?_, hg⟩)
    rw [← hs.forest.types]
    exact List.mem_map_of_mem hmem
  · have htype' : f.targetType = brackets arrays ++ p.type.name := by
      rw [← slices_eq]
      exact htype
    rw [inlineType, hnested]
    simp only [htype', dropSuffix_append]

end Document

/-! ## Fields in place -/

/-- The lines of some fields are those of their rows, one row for each. -/
theorem exists_rows_of_inlineFields {s : Schema} {room depth : Nat} {withStorage : Bool} {fields : List Field}
    {rendered : List Text} (h : inlineFields s room depth withStorage fields = .ok rendered) :
    ∃ rows, (fields.mapM fun f => (inlineType s depth (renderBelow s room depth) f).map (rowOf withStorage f)) =
      .ok rows ∧ rendered.length = fields.length ∧ rendered = renderRows depth rows := by
  rw [inlineFields_eq] at h
  cases hrows : (fields.mapM fun f => (inlineType s depth (renderBelow s room depth) f).map (rowOf withStorage f)) with
  | error e =>
    rw [hrows] at h
    cases h
  | ok rows =>
    rw [hrows] at h
    cases h
    refine ⟨rows, rfl, ?_, rfl⟩
    rw [renderRows, List.length_map]
    exact (mapM_eq_ok_iff.mp hrows).length_eq.symm

section Document

variable {members : List (Text × Json)} {s : Schema} {entries : List Entry} (hs : IsSchemaOf members s entries)
include hs

/-- There are rows for the fields of some members if there are lines for the fields of the objects in them. -/
theorem exists_rows {room depth : Nat} {renderInner : List Field → Except TooDeep (List Text)}
    (hinner : ∀ {below : List Field} {inner : List (Text × Json)}, List.Forall₂ (Describes entries) below inner →
      (∀ f ∈ below, f ∈ s.allFields) → nestingOfMembers inner < room → ∃ lines, renderInner below = .ok lines)
    {fields : List Field} {ms : List (Text × Json)} (hdescribes : List.Forall₂ (Describes entries) fields ms)
    (hfields : ∀ f ∈ fields, f ∈ s.allFields) (hroom : nestingOfMembers ms ≤ room) (withStorage : Bool) :
    ∃ rows, (fields.mapM fun f => (inlineType s depth renderInner f).map (rowOf withStorage f)) = .ok rows := by
  refine exists_mapM fun f hf => ?_
  obtain ⟨⟨key, value⟩, hmember, hdescribe⟩ := exists_mem_of_forall₂ hdescribes hf
  have hvalue := nesting_le_of_mem hmember
  cases hobject : innermost? value with
  | none => exact ⟨_, by rw [inlineType_of_scalar hs hdescribe (hfields f hf) hobject]; rfl⟩
  | some r =>
    obtain ⟨below, hbelow, hmem, htype⟩ := inlineType_of_object hs hdescribe hobject
    have hlt := nestingOfMembers_lt hobject
    rw [htype]
    split
    · exact ⟨_, rfl⟩
    · obtain ⟨lines, hlines⟩ := hinner hbelow hmem (by omega)
      exact ⟨_, by rw [hlines]; rfl⟩

/-- With room for the levels of the values, there are lines for the fields of some members. -/
theorem exists_inlineFields (room depth : Nat) (withStorage : Bool) {fields : List Field}
    {ms : List (Text × Json)} (hdescribes : List.Forall₂ (Describes entries) fields ms)
    (hfields : ∀ f ∈ fields, f ∈ s.allFields) (hroom : nestingOfMembers ms ≤ room) :
    ∃ lines, inlineFields s room depth withStorage fields = .ok lines := by
  induction room generalizing depth withStorage fields ms with
  | zero =>
    obtain ⟨rows, hrows⟩ := exists_rows hs (fun _ _ hlt => absurd hlt (Nat.not_lt_zero _)) hdescribes hfields hroom
      withStorage
    exact ⟨_, by rw [inlineFields_eq, renderBelow, hrows]; rfl⟩
  | succ room ih =>
    obtain ⟨rows, hrows⟩ := exists_rows hs
      (fun hbelow hmem hlt => ih (depth + 1) false hbelow hmem (Nat.le_of_lt_succ hlt)) hdescribes hfields hroom
      withStorage
    exact ⟨_, by rw [inlineFields_eq, renderBelow, hrows]; rfl⟩

/-- There are lines for the fields of a document, whatever the options. -/
theorem exists_fieldLines (o : Options) : ∃ lines, fieldLines s o = .ok lines := by
  have hroom : nestingOfMembers members ≤ maxInlineDepth := Nat.le_trans hs.nesting_le (by decide)
  rw [fieldLines]
  split
  · exact exists_inlineFields hs _ _ _ hs.forest.fields (fun f hf => List.mem_append_left _ hf) hroom
  · exact ⟨_, rfl⟩

/-- There is code for every document, whatever the options. -/
theorem exists_code (o : Options) : ∃ c, code s o = .ok c := by
  obtain ⟨lines, hlines⟩ := exists_fieldLines hs o
  exact ⟨_, by rw [code, hlines]; rfl⟩

end Document

end StructForge.Go
