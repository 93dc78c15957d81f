import StructForge.Proofs.Conversion
import StructForge.Proofs.Json.Members

/-!
# How deep a document may be

Inference goes from an object to its values and from an array to its first element. A *chain* is a list of values each
of which is reached from the one before (`Reaches`), and what `nesting` measures is the greatest number of arrays and
objects in a chain (`countP_le_nesting`, `exists_chain`). A run succeeds exactly if nothing is nested too deep for it
(`fieldsOf_eq_none_iff`), so a document is refused as too deep exactly if a chain enters too many arrays and objects,
and references never lead further down than that (`length_le_nesting`, `schemaOf_tooDeep_iff_chain`).
-/

namespace StructForge.Json

open Go

/-! ## Chains -/

/-- Whether a value is an array or an object. -/
def isContainer : Json → Bool
  | .object _ | .array _ => true
  | .null | .bool _ | .int _ | .float _ | .string _ => false

/-- One step down: from an object to the value of a member, or from an array to its first element. -/
inductive Reaches : Json → Json → Prop
  | member {members : List (Text × Json)} {key : Text} {value : Json} (h : (key, value) ∈ members) :
      Reaches (.object members) value
  | first (first : Json) (rest : List Json) : Reaches (.array (first :: rest)) first

theorem Reaches.nesting_lt {v w : Json} (h : Reaches v w) : nesting w < nesting v := by
  cases h with
  | member h =>
    rw [nesting]
    exact Nat.lt_succ_of_le (nesting_le_of_mem h)
  | first first rest => exact Nat.lt_succ_self _

/-- A container is nested at least one deep. -/
theorem countP_isContainer_le (v : Json) : [v].countP isContainer ≤ nesting v := by
  cases v <;> simp [isContainer, nesting]

/-- A chain has no more containers than its first value is deep. -/
theorem countP_le_nesting {v : Json} {path : List Json} (h : (v :: path).IsChain Reaches) :
    (v :: path).countP isContainer ≤ nesting v := by
  induction path generalizing v with
  | nil => exact countP_isContainer_le v
  | cons w path ih =>
    obtain ⟨hstep, hrest⟩ := List.isChain_cons_cons.mp h
    have hlt := hstep.nesting_lt
    have hle := ih hrest
    have hone : [v].countP isContainer ≤ 1 := List.countP_le_length
    rw [← List.singleton_append, List.countP_append]
    omega

/-- Some member of an object is as deep as its members are. -/
theorem exists_deepest : ∀ {members : List (Text × Json)}, members ≠ [] →
    ∃ key value, (key, value) ∈ members ∧ nesting value = nestingOfMembers members
  | [(key, value)], _ => ⟨key, value, List.mem_cons_self, by simp [nestingOfMembers]⟩
  | (key, value) :: second :: rest, _ => by
    obtain ⟨key', value', hmem, hdeep⟩ := exists_deepest (List.cons_ne_nil second rest)
    rw [nestingOfMembers]
    rcases Nat.le_total (nestingOfMembers (second :: rest)) (nesting value) with hle | hle
    · exact ⟨key, value, List.mem_cons_self, by omega⟩
    · exact ⟨key', value', List.mem_cons_of_mem _ hmem, by omega⟩

/-- Some chain has as many containers as its first value is deep, by induction on how deep it is. -/
theorem exists_chain (v : Json) : ∃ path, (v :: path).IsChain Reaches ∧ (v :: path).countP isContainer = nesting v := by
  induction hn : nesting v using Nat.strongRecOn generalizing v with
  | _ n ih =>
    subst hn
    have hstep : ∀ {w}, Reaches v w → isContainer v = true → nesting v = nesting w + 1 →
        ∃ path, (v :: path).IsChain Reaches ∧ (v :: path).countP isContainer = nesting v := by
      intro w hw hv hdeep
      obtain ⟨path, hchain, hcount⟩ := ih (nesting w) hw.nesting_lt w rfl
      exact ⟨w :: path, .cons_cons hw hchain, by rw [List.countP_cons_of_pos hv, hcount, hdeep]⟩
    have hend : [v].countP isContainer = nesting v →
        ∃ path, (v :: path).IsChain Reaches ∧ (v :: path).countP isContainer = nesting v :=
      fun h => ⟨[], .singleton v, h⟩
    cases v with
    | object members =>
      cases members with
      | nil => exact hend rfl
      | cons member rest =>
        obtain ⟨key, value, hmem, hdeep⟩ := exists_deepest (List.cons_ne_nil member rest)
        exact hstep (.member hmem) rfl (by rw [nesting, hdeep])
    | array elements =>
      cases elements with
      | nil => exact hend rfl
      | cons first rest => exact hstep (.first first rest) rfl rfl
    | null | bool _ | int _ | float _ | string _ => exact hend rfl

/-- The members of an object are nested deeper than that exactly if a chain below the object has more containers. -/
theorem lt_nestingOfMembers_iff {n : Nat} {members : List (Text × Json)} :
    n < nestingOfMembers members ↔
      ∃ path, (object members :: path).IsChain Reaches ∧ n < path.countP isContainer := by
  have hcount : ∀ path, (object members :: path).countP isContainer = path.countP isContainer + 1 :=
    fun path => List.countP_cons_of_pos rfl
  have hnesting : nesting (.object members) = nestingOfMembers members + 1 := rfl
  constructor
  · intro h
    obtain ⟨path, hchain, hpath⟩ := exists_chain (.object members)
    rw [hcount, hnesting] at hpath
    exact ⟨path, hchain, by omega⟩
  · rintro ⟨path, hchain, hpath⟩
    have hle := countP_le_nesting hchain
    rw [hcount, hnesting] at hle
    omega

/-! ## Runs -/

mutual

/-- A value that is not nested too deep has a shape. -/
theorem exists_shapeOf : ∀ (value : Json) {depth : Nat} (goName : Text) (inArray : Bool) (found : List NestedType),
    depth + nesting value ≤ maxNesting → ∃ r, shapeOf depth goName inArray found value = some r
  | .object members, depth, goName, inArray, found, h => by
    rw [nesting] at h
    have hmembers : depth + 1 + nestingOfMembers members ≤ maxNesting := by omega
    obtain ⟨r, hr⟩ := exists_fieldsOf members found hmembers
    rw [shapeOf, if_neg (by omega), hr]
    exact ⟨_, rfl⟩
  | .array elements, depth, goName, inArray, found, h => by
    rw [nesting] at h
    have helements : depth + 1 + nestingOfFirst elements ≤ maxNesting := by omega
    obtain ⟨r, hr⟩ := exists_elementShape elements goName found helements
    rw [shapeOf, if_neg (by omega), hr]
    exact ⟨_, rfl⟩
  | .null, _, _, _, _, _ | .bool _, _, _, _, _, _ | .int _, _, _, _, _, _ | .float _, _, _, _, _, _
  | .string _, _, _, _, _, _ => ⟨_, rfl⟩

theorem exists_elementShape : ∀ (elements : List Json) {depth : Nat} (goName : Text) (found : List NestedType),
    depth + nestingOfFirst elements ≤ maxNesting → ∃ r, elementShape depth goName found elements = some r
  | [], _, _, _, _ => ⟨_, rfl⟩
  | first :: _, _, goName, found, h => exists_shapeOf first goName true found h

theorem exists_fieldsOf : ∀ (members : List (Text × Json)) {depth : Nat} (found : List NestedType),
    depth + nestingOfMembers members ≤ maxNesting → ∃ r, fieldsOf depth found members = some r
  | [], _, _, _ => ⟨_, rfl⟩
  | (key, value) :: rest, depth, found, h => by
    rw [nestingOfMembers] at h
    have hvalue : depth + nesting value ≤ maxNesting := by omega
    have hothers : depth + nestingOfMembers rest ≤ maxNesting := by omega
    obtain ⟨⟨shape, found'⟩, hshape⟩ := exists_shapeOf value (Naming.camel key) false found hvalue
    obtain ⟨⟨fields, found''⟩, hfields⟩ := exists_fieldsOf rest found' hothers
    rw [fieldsOf, hshape]
    simp only [hfields]
    exact ⟨_, rfl⟩

end

/-- There are no fields for the members of a document exactly if these are nested too deep. -/
theorem fieldsOf_eq_none_iff {members : List (Text × Json)} :
    fieldsOf 0 [] members = none ↔ maxNesting < nestingOfMembers members := by
  constructor
  · intro hnone
    by_contra hle
    have hmembers : 0 + nestingOfMembers members ≤ maxNesting := by omega
    obtain ⟨r, hr⟩ := exists_fieldsOf members [] hmembers
    rw [hr] at hnone
    cases hnone
  · intro hlt
    rw [Option.eq_none_iff_forall_ne_some]
    intro r hr
    have hle := fieldsOf_nesting members (Nat.zero_le _) hr
    omega

theorem schemaOf_eq_tooDeep_iff {structName : Text} {members : List (Text × Json)} :
    schemaOf structName (.object members) = .error .tooDeep ↔ maxNesting < nestingOfMembers members := by
  rw [← fieldsOf_eq_none_iff, schemaOf]
  cases fieldsOf 0 [] members with
  | none => exact iff_of_true rfl rfl
  | some r => exact iff_of_false (by simp) (by simp)

/-! ## References -/

/-- The nested type that a field refers to. -/
def RefersTo (s : Schema) (f : Field) (n : NestedType) : Prop :=
  ∃ place, f.nested = some place ∧ s.nestedTypes[place]? = some n

/-- Nested types that are met one after another: the field refers to the first, and a field of each to the next. -/
def Follows (s : Schema) : Field → List NestedType → Prop
  | _, [] => True
  | f, n :: rest => RefersTo s f n ∧ (rest = [] ∨ ∃ g ∈ n.fields, Follows s g rest)

section Document

variable {members : List (Text × Json)} {s : Schema} {entries : List Entry} (hs : IsSchemaOf members s entries)
include hs

/-- A field that refers to a nested type belongs to a value with an object in it, and the fields of the nested type to
the members of that object. -/
theorem exists_members_of_refersTo {f : Field} {key : Text} {value : Json} (hf : Describes entries f (key, value))
    {n : NestedType} (hn : RefersTo s f n) :
    ∃ inner, nestingOfMembers inner < nesting value ∧ List.Forall₂ (Describes entries) n.fields inner := by
  obtain ⟨place, hplace, hat⟩ := hn
  cases hvalue : innermost? value with
  | none =>
    have hnone : f.nested = none := hf.refers.none_of_none hvalue
    rw [hnone] at hplace
    cases hplace
  | some r =>
    obtain ⟨arrays, inner⟩ := r
    obtain ⟨i, p, hi, hp, hobject, -⟩ := hf.refers.entry arrays inner hvalue
    have hsame : i = place := Option.some.inj (hi.symm.trans hplace)
    have htype : p.type = n := by
      rw [← hs.forest.types, List.getElem?_map, ← hsame, hp] at hat
      exact Option.some.inj hat
    have hmatches := (hs.forest.nestedFields p (List.mem_of_getElem? hp)).fields
    rw [htype, hobject] at hmatches
    exact ⟨inner, nestingOfMembers_lt hvalue, hmatches⟩

/-- References lead no further down than the value of the field is deep, by induction on the nested types that are
met. -/
theorem length_le_nesting {f : Field} {key : Text} {value : Json} (hf : Describes entries f (key, value))
    {types : List NestedType} (h : Follows s f types) : types.length ≤ nesting value := by
  induction types generalizing f key value with
  | nil => exact Nat.zero_le _
  | cons n rest ih =>
    obtain ⟨hn, hrest⟩ := h
    obtain ⟨inner, hlt, hfields⟩ := exists_members_of_refersTo hs hf hn
    rw [List.length_cons]
    rcases hrest with rfl | ⟨g, hg, hfollows⟩
    · exact Nat.lt_of_le_of_lt (Nat.zero_le _) hlt
    · obtain ⟨⟨key', value'⟩, hmem, hdescribes⟩ := exists_mem_of_forall₂ hfields hg
      have hle := ih hdescribes hfollows
      have hmember := nesting_le_of_mem hmem
      omega

theorem length_le_maxNesting {f : Field} (hf : f ∈ s.fields) {types : List NestedType} (h : Follows s f types) :
    types.length ≤ maxNesting := by
  obtain ⟨⟨key, value⟩, hmem, hdescribes⟩ := exists_mem_of_forall₂ hs.forest.fields hf
  exact Nat.le_trans (length_le_nesting hs hdescribes h) (Nat.le_trans (nesting_le_of_mem hmem) hs.nesting_le)

end Document

/-! ## The limit -/

/-- Nothing is left of a document that is refused, whatever it is refused for. -/
theorem reading_json_of_error {structName t : Text} {e : DocumentError} (h : readSchema structName t = .error e) :
    (Reader.json structName).reading t = .ok ⟨{ structName := some structName }, some (.document e)⟩ := by
  rw [Reader.reading, Reader.read, h]
  rfl

theorem reading_json_of_ok {structName t : Text} {s : Schema} (h : readSchema structName t = .ok s) :
    (Reader.json structName).reading t = .ok ⟨s, none⟩ := Reader.reading_of_read (Reader.read_json_eq_ok.mpr h)

/-- An object is refused as too deep exactly if a chain enters more than 64 arrays and objects below it. Every text has
a reading: one with an error is left without fields and nested types, and in one without, references are followed at
most 64 times. -/
theorem schemaOf_tooDeep_iff_chain (structName : Text) :
    (∀ members, schemaOf structName (.object members) = .error .tooDeep ↔
      ∃ path, (object members :: path).IsChain Reaches ∧ 64 < path.countP isContainer) ∧
    ∀ t, ∃ s error, (Reader.json structName).reading t = .ok ⟨s, error⟩ ∧
      (error ≠ none → s.fields = [] ∧ s.nestedTypes = []) ∧
      (error = none → ∀ f ∈ s.fields, ∀ types, Follows s f types → types.length ≤ 64) := by
  refine ⟨fun members => schemaOf_eq_tooDeep_iff.trans lt_nestingOfMembers_iff, fun t => ?_⟩
  cases h : readSchema structName t with
  | error e => exact ⟨_, _, reading_json_of_error h, fun _ => ⟨rfl, rfl⟩, nofun⟩
  | ok s =>
    obtain ⟨members, entries, -, hs⟩ := exists_isSchemaOf h
    exact ⟨s, none, reading_json_of_ok h, fun hne => absurd rfl hne,
      fun _ f hf types hfollows => length_le_maxNesting hs hf hfollows⟩

end StructForge.Json
