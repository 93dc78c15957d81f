import StructForge.Json.Shape

/-!
# Similar documents

Two values are similar if they are of one kind and, where they hold others, agree in what inference looks at: the keys
of an object with the values under them, and the first element of an array (`Similar`). A run of `shapeOf`,
`elementShape` or `fieldsOf` does the same on similar values, too deep ones included, so that similar documents have the
same schema or are refused for the same reason (`schemaOf_similar`).
-/

namespace StructForge.Json

/-- A value that holds no others. -/
def IsScalarValue (v : Json) : Prop := v.kind ≠ .array ∧ v.kind ≠ .object

instance (v : Json) : Decidable v.IsScalarValue := inferInstanceAs (Decidable (_ ∧ _))

mutual

/-- Values of one kind: scalars, arrays with similar first elements, or objects with similar members. -/
inductive Similar : Json → Json → Prop
  | scalar {v w : Json} (hv : v.IsScalarValue) (hkind : v.kind = w.kind) : Similar v w
  | array {elements elements' : List Json} (h : SimilarFirst elements elements') :
      Similar (.array elements) (.array elements')
  | object {members members' : List (Text × Json)} (h : SimilarMembers members members') :
      Similar (.object members) (.object members')

/-- Elements of which the first are similar, or none; the others are free. -/
inductive SimilarFirst : List Json → List Json → Prop
  | nil : SimilarFirst [] []
  | cons {first first' : Json} (rest rest' : List Json) (h : Similar first first') :
      SimilarFirst (first :: rest) (first' :: rest')

/-- The same keys in the same order, with similar values. -/
inductive SimilarMembers : List (Text × Json) → List (Text × Json) → Prop
  | nil : SimilarMembers [] []
  | cons (key : Text) {value value' : Json} {rest rest' : List (Text × Json)} (h : Similar value value')
      (hrest : SimilarMembers rest rest') : SimilarMembers ((key, value) :: rest) ((key, value') :: rest')

end

/-! ## Kinds -/

theorem Similar.kind_eq {v w : Json} (h : Similar v w) : v.kind = w.kind := by
  cases h with
  | scalar _ hkind => exact hkind
  | array _ => rfl
  | object _ => rfl

theorem IsScalarValue.of_kind_eq {v w : Json} (hv : v.IsScalarValue) (hkind : v.kind = w.kind) : w.IsScalarValue := by
  rw [IsScalarValue, ← hkind]
  exact hv

/-- The kind of a scalar decides its shape, and nothing is found in it. -/
theorem shapeOf_scalar {v : Json} (hv : v.IsScalarValue) (depth : Nat) (goName : Text) (inArray : Bool)
    (found : List NestedType) : shapeOf depth goName inArray found v = some (⟨v.kind.goType, none⟩, found) := by
  cases v with
  | array elements => exact absurd rfl hv.1
  | object members => exact absurd rfl hv.2
  | null | bool _ | int _ | float _ | string _ => rfl

theorem memberField_similar (key : Text) {v w : Json} (h : Similar v w) (shape : Shape) :
    memberField key v shape = memberField key w shape := by
  simp only [memberField, h.kind_eq]

/-! ## Runs -/

mutual

theorem shapeOf_similar : ∀ {v w : Json}, Similar v w → ∀ (depth : Nat) (goName : Text) (inArray : Bool)
    (found : List NestedType), shapeOf depth goName inArray found v = shapeOf depth goName inArray found w
  | v, w, .scalar hv hkind, depth, goName, inArray, found => by
    rw [shapeOf_scalar hv, shapeOf_scalar (hv.of_kind_eq hkind), hkind]
  | .array elements, .array elements', .array h, depth, goName, inArray, found => by
    simp only [shapeOf, elementShape_similar h]
  | .object members, .object members', .object h, depth, goName, inArray, found => by
    simp only [shapeOf, fieldsOf_similar h]

theorem elementShape_similar : ∀ {elements elements' : List Json}, SimilarFirst elements elements' →
    ∀ (depth : Nat) (goName : Text) (found : List NestedType),
      elementShape depth goName found elements = elementShape depth goName found elements'
  | [], [], .nil, _, _, _ => rfl
  | first :: _, first' :: _, .cons _ _ h, depth, goName, found => by
    simp only [elementShape, shapeOf_similar h]

theorem fieldsOf_similar : ∀ {members members' : List (Text × Json)}, SimilarMembers members members' →
    ∀ (depth : Nat) (found : List NestedType), fieldsOf depth found members = fieldsOf depth found members'
  | [], [], .nil, _, _ => rfl
  | (key, value) :: rest, (_, value') :: rest', .cons _ h hrest, depth, found => by
    simp only [fieldsOf, shapeOf_similar h, memberField_similar key h, fieldsOf_similar hrest]

end

/-! ## Documents -/

theorem schemaOf_scalar {v : Json} (hv : v.IsScalarValue) (structName : Text) :
    schemaOf structName v = .error .notAnObject := by
  cases v with
  | object members => exact absurd rfl hv.2
  | null | bool _ | int _ | float _ | string _ | array _ => rfl

/-- Similar documents have the same schema, or are refused for the same reason; so have the texts of them. -/
theorem schemaOf_similar {v w : Json} (h : Similar v w) (structName : Text) :
    schemaOf structName v = schemaOf structName w ∧
      ∀ t u, read t = .ok v → read u = .ok w → readSchema structName t = readSchema structName u := by
  have hschema : schemaOf structName v = schemaOf structName w := by
    cases h with
    | scalar hv hkind => rw [schemaOf_scalar hv, schemaOf_scalar (hv.of_kind_eq hkind)]
    | array _ => rfl
    | object hmembers => rw [schemaOf, schemaOf, fieldsOf_similar hmembers]
  refine ⟨hschema, fun t u ht hu => ?_⟩
  rw [readSchema, readSchema, ht, hu]
  exact hschema

/-- A document with a number, an object in an array, and a second element behind it. -/
def trip : Json :=
  .object [("id", .int 7),
    ("stops", .array [.object [("at", .float (.ofDecimal false 5 (-1))), ("name", .null)], .bool true]),
    ("tags", .array [])]

/-- The same document with other numbers, of which one is whole but no integer, and without the second element. -/
def returnTrip : Json :=
  .object [("id", .float (.ofDecimal true 10 (-1))),
    ("stops", .array [.object [("at", .float (.ofDecimal false 225 (-2))), ("name", .null)]]), ("tags", .array [])]

theorem similar_trips : Similar trip returnTrip := by
  have hid : Similar (.int 7) (.float (.ofDecimal true 10 (-1))) := .scalar (by decide) (by decide)
  have hat : Similar (.float (.ofDecimal false 5 (-1))) (.float (.ofDecimal false 225 (-2))) :=
    .scalar (by decide) (by decide)
  have hname : Similar .null .null := .scalar (by decide) rfl
  have hstop : Similar (.object [("at", .float (.ofDecimal false 5 (-1))), ("name", .null)])
      (.object [("at", .float (.ofDecimal false 225 (-2))), ("name", .null)]) :=
    .object (.cons "at" hat (.cons "name" hname .nil))
  exact .object (.cons "id" hid (.cons "stops" (.array (.cons _ _ hstop)) (.cons "tags" (.array .nil) .nil)))

/-- The documents have the same schema, with a nested type for the first stop. -/
theorem schemaOf_similar_trips :
    Similar trip returnTrip ∧ (schemaOf "Trip" trip).toOption.map (·.fields.map (·.targetType)) =
        some (["int", "[]StopsItem", "[]interface\x7b\x7d"] : List Text) ∧
      schemaOf "Trip" trip = schemaOf "Trip" returnTrip ∧
        ∀ t u, read t = .ok trip → read u = .ok returnTrip → readSchema "Trip" t = readSchema "Trip" u :=
  ⟨similar_trips, by decide +kernel, schemaOf_similar similar_trips "Trip"⟩

end StructForge.Json
