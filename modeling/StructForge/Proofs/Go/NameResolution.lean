import StructForge.Proofs.Go.InPlace

/-!
# Nested types by reference and by name

A field of a document refers to its nested type, and also has the name of it in its type. Where no two nested types
have one name, both lead to the same nested type (`nested?_eraseReference`), so that the code stays the same if all
references are erased (`code_eraseReferences`). A field with a type of scalars leads to no nested type either way.
-/

namespace StructForge

open Json

/-! ## Erased references -/

/-- A field without its reference. -/
def Field.eraseReference (f : Field) : Field := { f with nested := none }

/-- A nested type whose fields have no references. -/
def NestedType.eraseReferences (n : NestedType) : NestedType :=
  { n with fields := n.fields.map Field.eraseReference }

/-- A schema without references. -/
def Schema.eraseReferences (s : Schema) : Schema :=
  { s with
    fields := s.fields.map Field.eraseReference
    nestedTypes := s.nestedTypes.map NestedType.eraseReferences
    unlisted := s.unlisted.map NestedType.eraseReferences }

namespace Go

/-- A rendering gives for the fields of a schema without their references what another one gives for the fields. -/
def IgnoresReferences (s : Schema) (erased render : List Field → Except TooDeep (List Text)) : Prop :=
  ∀ ⦃fields : List Field⦄, (∀ f ∈ fields, f ∈ s.allFields) → erased (fields.map Field.eraseReference) = render fields

/-! ## Nested types by name -/

theorem findNested?_eraseReferences (types : List NestedType) (name : Text) :
    findNested? (types.map NestedType.eraseReferences) name =
      (findNested? types name).map NestedType.eraseReferences := by
  rw [findNested?, List.find?_map]
  rfl

/-- Where no two nested types have one name, the name of one leads to it. -/
theorem findNested?_of_nodup {types : List NestedType} (hnames : (types.map (·.name)).Nodup) {n : NestedType}
    (hn : n ∈ types) : findNested? types n.name = some n := by
  cases hfound : findNested? types n.name with
  | none =>
    have hno := List.find?_eq_none.mp hfound n hn
    simp at hno
  | some m =>
    have hm : m ∈ types := List.mem_of_find?_eq_some hfound
    have hname : m.name = n.name := by
      have hfind := List.find?_some hfound
      simpa using hfind
    rw [List.inj_on_of_nodup_map hnames hm hn hname]

section Document

variable {members : List (Text × Json)} {s : Schema} {entries : List Entry} (hs : IsSchemaOf members s entries)
include hs

/-- A field refers to no nested type exactly if its type is one of scalars. -/
theorem nested_eq_none_iff {f : Field} (hf : f ∈ s.allFields) : f.nested = none ↔ IsScalar f.targetType := by
  rcases hs.field_cases hf with ⟨hnone, hscalar⟩ | ⟨i, depth, n, hn, hplace, -, htype⟩
  · exact iff_of_true hnone hscalar
  · refine iff_of_false (by rw [hplace]; nofun) ?_
    rintro ⟨depth', base, hbase, hslices⟩
    have hname := hs.isGoName_of_mem hn
    have heq : n.name = base := by
      rw [← elementName_goName hname depth, ← htype, hslices, elementName_scalar hbase]
    exact goName_not_mem_scalarTypes hname (heq ▸ hbase)

/-- The nested type of a field has fields of the schema. -/
theorem mem_allFields_of_nested? {f : Field} (hf : f ∈ s.allFields) {n : NestedType} (hn : nested? s f = some n) :
    ∀ g ∈ n.fields, g ∈ s.allFields := by
  intro g hg
  rcases hs.field_cases hf with ⟨hnone, hscalar⟩ | ⟨i, depth, m, hm, hplace, hat, -⟩
  · rw [nested?_of_scalar hs hnone hscalar] at hn
    cases hn
  · rw [nested?, hplace] at hn
    obtain rfl : m = n := Option.some.inj (hat.symm.trans hn)
    exact List.mem_append_right _ (List.mem_flatMap.mpr ⟨m, hm, hg⟩)

variable (hnames : (s.nestedTypes.map (·.name)).Nodup)
include hnames

/-- Without its reference, a field leads to the same nested type. -/
theorem nested?_eraseReference {f : Field} (hf : f ∈ s.allFields) :
    nested? s.eraseReferences f.eraseReference = (nested? s f).map NestedType.eraseReferences := by
  have hbyName : nested? s.eraseReferences f.eraseReference =
      (findNested? s.nestedTypes (elementName f.targetType)).map NestedType.eraseReferences :=
    findNested?_eraseReferences s.nestedTypes (elementName f.targetType)
  rw [hbyName]
  congr 1
  rcases hs.field_cases hf with ⟨hnone, -⟩ | ⟨i, depth, n, hn, hplace, hat, htype⟩
  · rw [nested?, hnone]
  · rw [nested?, hplace, htype, elementName_goName (hs.isGoName_of_mem hn)]
    exact (findNested?_of_nodup hnames hn).trans hat.symm

/-! ## Code without references -/

/-- A type in place stays the same if the lines of the fields of its nested type do. -/
theorem inlineType_eraseReference {depth : Nat} {renderInner renderErased : List Field → Except TooDeep (List Text)}
    (hinner : IgnoresReferences s renderErased renderInner) {f : Field} (hf : f ∈ s.allFields) :
    inlineType s.eraseReferences depth renderErased f.eraseReference = inlineType s depth renderInner f := by
  rw [inlineType, inlineType, nested?_eraseReference hs hnames hf]
  cases hnested : nested? s f with
  | none => rfl
  | some n =>
    have hlines := hinner (mem_allFields_of_nested? hs hf hnested)
    simp only [Option.map_some, NestedType.eraseReferences, List.isEmpty_map, hlines]
    rfl

theorem rows_eraseReferences {depth : Nat} {renderInner renderErased : List Field → Except TooDeep (List Text)}
    (hinner : IgnoresReferences s renderErased renderInner) {fields : List Field}
    (hfields : ∀ f ∈ fields, f ∈ s.allFields) (withStorage : Bool) :
    ((fields.map Field.eraseReference).mapM fun f =>
      (inlineType s.eraseReferences depth renderErased f).map (rowOf withStorage f)) =
      fields.mapM fun f => (inlineType s depth renderInner f).map (rowOf withStorage f) := by
  rw [List.mapM_map]
  refine mapM_congr fun f hf => ?_
  rw [Function.comp_apply, inlineType_eraseReference hs hnames hinner (hfields f hf)]
  rfl

/-- The lines of fields in place stay the same, by induction on the room for levels below them. -/
theorem inlineFields_eraseReferences (room depth : Nat) (withStorage : Bool) :
    IgnoresReferences s (inlineFields s.eraseReferences room depth withStorage)
      (inlineFields s room depth withStorage) := by
  induction room generalizing depth withStorage with
  | zero =>
    have hbelow : IgnoresReferences s (renderBelow s.eraseReferences 0 depth) (renderBelow s 0 depth) :=
      fun _ _ => rfl
    intro fields hfields
    rw [inlineFields_eq, inlineFields_eq, rows_eraseReferences hs hnames hbelow hfields]
  | succ room ih =>
    have hbelow : IgnoresReferences s (renderBelow s.eraseReferences (room + 1) depth)
        (renderBelow s (room + 1) depth) := ih (depth + 1) false
    intro fields hfields
    rw [inlineFields_eq, inlineFields_eq, rows_eraseReferences hs hnames hbelow hfields]

end Document

/-- Fields with their own types do not look at references. -/
theorem plainFields_eraseReference (withStorage : Bool) (fields : List Field) :
    plainFields withStorage (fields.map Field.eraseReference) = plainFields withStorage fields := by
  rw [plainFields, plainFields, List.map_map]
  rfl

theorem codeLines_eraseReferences (s : Schema) (o : Options) (fields : List Text) :
    codeLines s.eraseReferences o fields = codeLines s o fields := by
  have hdeclaration : ∀ n : NestedType, nestedDeclaration n.eraseReferences = nestedDeclaration n := fun n => by
    rw [nestedDeclaration, nestedDeclaration, NestedType.eraseReferences, plainFields_eraseReference]
  have hnested : s.eraseReferences.nestedTypes.flatMap nestedDeclaration = s.nestedTypes.flatMap nestedDeclaration := by
    rw [Schema.eraseReferences, List.flatMap_map]
    exact congrArg (s.nestedTypes.flatMap ·) (funext hdeclaration)
  rw [codeLines, codeLines, hnested]
  rfl

/-- Where the names of the nested types of a document are distinct, the code does not depend on the references. A field
with a type of scalars has no nested type, neither with a reference nor by the name in its type. -/
theorem code_eraseReferences {name t : Text} {s : Schema} (h : readSchema name t = .ok s)
    (hnames : (s.nestedTypes.map (·.name)).Nodup) (o : Options) :
    (∃ c, code s o = .ok c ∧ code s.eraseReferences o = .ok c) ∧
      ∀ f ∈ s.allFields, (f.nested = none ↔ IsScalar f.targetType) ∧
        (IsScalar f.targetType → nested? s f = none ∧ nested? s.eraseReferences f.eraseReference = none) := by
  obtain ⟨members, entries, -, hs⟩ := exists_isSchemaOf h
  refine ⟨?_, fun f hf => ?_⟩
  · obtain ⟨c, hcode⟩ := exists_code hs o
    have hfields : fieldLines s.eraseReferences o = fieldLines s o := by
      rw [fieldLines, fieldLines]
      split
      · exact inlineFields_eraseReferences hs hnames _ _ _ fun f hf => List.mem_append_left _ hf
      · exact congrArg Except.ok (plainFields_eraseReference true s.fields)
    refine ⟨c, hcode, ?_⟩
    rw [← hcode, code, code, hfields]
    exact congrArg (fun g : List Text → Text => (fieldLines s o).map g)
      (funext fun fields => by rw [codeLines_eraseReferences])
  · refine ⟨nested_eq_none_iff hs hf, fun hscalar => ?_⟩
    have hnone := nested?_of_scalar hs ((nested_eq_none_iff hs hf).mpr hscalar) hscalar
    exact ⟨hnone, by rw [nested?_eraseReference hs hnames hf, hnone]; rfl⟩

/-- A document with an object and an array of objects, and keys that are named like types. -/
def ordersText : Text :=
  "\x7b\"user\": \x7b\"string\": \"\"\x7d, \"int\": [\x7b\"int\": 1, \"bool\": \x7b\"id\": [[0.5]]\x7d\x7d]\x7d"

/-- The nested types of the document have distinct names, and its code does not depend on the references. -/
theorem code_eraseReferences_ordersText :
    ∃ s, readSchema "Response" ordersText = .ok s ∧ s.nestedTypes.map (·.name) = ["User", "Bool", "IntItem"] ∧
      (∃ c, code s {} = .ok c ∧ code s.eraseReferences {} = .ok c) ∧
      ∀ f ∈ s.allFields, (f.nested = none ↔ IsScalar f.targetType) ∧
        (IsScalar f.targetType → nested? s f = none ∧ nested? s.eraseReferences f.eraseReference = none) := by
  have hread : (readSchema "Response" ordersText).toOption.map (·.nestedTypes.map (·.name)) =
      some (["User", "Bool", "IntItem"] : List Text) := by decide +kernel
  cases hs : readSchema "Response" ordersText with
  | error e =>
    rw [hs] at hread
    cases hread
  | ok s =>
    rw [hs] at hread
    have hnames : s.nestedTypes.map (·.name) = (["User", "Bool", "IntItem"] : List Text) := Option.some.inj hread
    exact ⟨s, rfl, hnames, code_eraseReferences hs (by rw [hnames]; decide) {}⟩

end Go

end StructForge
