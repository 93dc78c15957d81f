import StructForge.Text.Basic

/-!
# Schemas

A *schema* is what is read from a statement or a document and what Go code is generated from: the fields of one
record, and the nested types that they refer to. A field refers to a nested type by its place in the schema, so
that two nested types of one name stay apart.
-/

namespace StructForge

/-- A column or key and the Go field it becomes. -/
structure Field where
  /-- The name in the source. -/
  sourceName : Text
  /-- The name of the Go field. -/
  targetName : Text
  /-- The type or kind in the source. -/
  sourceType : Text
  /-- The type of the Go field. -/
  targetType : Text
  nullable : Bool := true
  isPrimaryKey : Bool := false
  isAutoIncrement : Bool := false
  comment : Option Text := none
  /-- The key under which the field is serialised. -/
  serializedName : Text
  /-- The column that stores the field. -/
  storageColumn : Option Text := none
  /-- The place of the nested type that the target type names. -/
  nested : Option Nat := none
  deriving DecidableEq

/-- A record type that fields refer to. -/
structure NestedType where
  name : Text
  fields : List Field
  deriving DecidableEq

/-- The fields of a record with its name or the name of its table. -/
structure Schema where
  tableName : Option Text := none
  structName : Option Text := none
  fields : List Field := []
  nestedTypes : List NestedType := []
  /-- Nested types that are not listed any more. Fields may still refer to them, at the places behind the listed
  ones. -/
  unlisted : List NestedType := []
  deriving DecidableEq

/-- The nested types by their places. -/
def Schema.places (s : Schema) : List NestedType := s.nestedTypes ++ s.unlisted

/-- The schema with no nested types listed. -/
def Schema.unlist (s : Schema) : Schema := { s with nestedTypes := [], unlisted := s.places }

/-- The place of the nested type of a field in the list of the schema, if it is listed. -/
def Schema.listedPlace? (s : Schema) (f : Field) : Option Nat := f.nested.filter (· < s.nestedTypes.length)

/-- The place that a number names in a list of some length: a negative one counts from the end. -/
def placeOf? (length : Nat) : (number : Int) → Option Nat
  | .ofNat place => if place < length then some place else none
  | .negSucc back => if back < length then some (length - 1 - back) else none

/-- The field that a number names, with its place. -/
def Schema.fieldAt? (s : Schema) (number : Int) : Option (Nat × Field) := do
  let place ← placeOf? s.fields.length number
  return (place, ← s.fields[place]?)

/-- The fields of the record and, after them, those of every nested type. -/
def Schema.allFields (s : Schema) : List Field := s.fields ++ s.nestedTypes.flatMap (·.fields)

/-- A field that was written down without a name for its Go field. -/
structure UnnamedField where
  sourceName : Text

/-- The complaint about an unnamed field. -/
def UnnamedField.message (e : UnnamedField) : Text := "Field '" ++ e.sourceName ++ "' has no target name"

/-- A field written down by hand: it needs a name for its Go field, and it is serialised under its source name
unless it says otherwise. -/
def Field.check (f : Field) : Except UnnamedField Field :=
  if f.targetName.isEmpty then .error ⟨f.sourceName⟩
  else if f.serializedName.isEmpty then .ok { f with serializedName := f.sourceName }
  else .ok f

end StructForge
