import StructForge.Go.TypeName
import StructForge.Json.Reader
import StructForge.Naming
import StructForge.Schema

/-!
# The shape of a document

A JSON object becomes a schema with one field per member. The value of a member decides the type: objects become
nested types named after their key, arrays are typed by their first element, and an object in an array is named
after the key with `Item` behind it. Nested types are listed behind the ones that they contain, and every object
gets one of its own even where names agree.

`shapeOf` works on a value with a list of the nested types found so far and gives none where arrays and objects are
nested more than `maxNesting` deep below the document.
-/

namespace StructForge.Json

open Go

/-- How deep arrays and objects may be nested below the document. -/
def maxNesting : Nat := 64

/-- The Go type of values of a kind, as far as the kind decides it. -/
def Kind.goType : Kind → Text
  | .string => TypeName.string
  | .int => TypeName.int
  | .float => TypeName.float64
  | .boolean => TypeName.bool
  | .array => TypeName.slice TypeName.any
  | .null | .object => TypeName.any

/-- The kinds with a Go type of their own, by name. -/
def kindTypes : List (Text × Text) :=
  [Kind.string, .int, .float, .boolean, .null, .array].map fun kind => (kind.name, kind.goType)

/-- The Go type of the values of the kind with that name; any type where no kind has it. -/
def goTypeOfKindName (name : Text) : Text := (kindTypes.lookup name).getD TypeName.any

/-- The Go type of a value, and the place of the nested type in it. -/
structure Shape where
  goType : Text
  nested : Option Nat
  deriving DecidableEq

/-- The name of the nested type for an object under a Go name, by itself or in an array. -/
def nestedName (goName : Text) (inArray : Bool) : Text := if inArray then goName ++ "Item" else goName

/-- The field of a member, from the shape of its value. -/
def memberField (key : Text) (value : Json) (shape : Shape) : Field :=
  { sourceName := key
    targetName := Naming.camel key
    sourceType := value.kind.name
    targetType := shape.goType
    nullable := value.kind = .null
    serializedName := key
    nested := shape.nested }

mutual

/-- The shape of a value `depth` arrays and objects below the document, under a Go name, with the nested types in
it added to those found so far. -/
def shapeOf (depth : Nat) (goName : Text) (inArray : Bool) (found : List NestedType) :
    Json → Option (Shape × List NestedType)
  | .object members =>
    if depth ≥ maxNesting then none
    else
      match fieldsOf (depth + 1) found members with
      | none => none
      | some (fields, found) =>
        let name := nestedName goName inArray
        some (⟨name, some found.length⟩, found ++ [⟨name, fields⟩])
  | .array elements =>
    if depth ≥ maxNesting then none
    else
      match elementShape (depth + 1) goName found elements with
      | none => none
      | some (shape, found) => some (⟨TypeName.slice shape.goType, shape.nested⟩, found)
  | .null => some (⟨Kind.null.goType, none⟩, found)
  | .bool _ => some (⟨Kind.boolean.goType, none⟩, found)
  | .int _ => some (⟨Kind.int.goType, none⟩, found)
  | .float x => some (⟨(Json.float x).kind.goType, none⟩, found)
  | .string _ => some (⟨Kind.string.goType, none⟩, found)

/-- The shape of the elements of an array: that of the first. -/
def elementShape (depth : Nat) (goName : Text) (found : List NestedType) :
    List Json → Option (Shape × List NestedType)
  | [] => some (⟨TypeName.any, none⟩, found)
  | element :: _ => shapeOf depth goName true found element

/-- The fields of the members of an object, with the nested types in them added to those found so far. -/
def fieldsOf (depth : Nat) (found : List NestedType) :
    List (Text × Json) → Option (List Field × List NestedType)
  | [] => some ([], found)
  | (key, value) :: rest =>
    match shapeOf depth (Naming.camel key) false found value with
    | none => none
    | some (shape, found) =>
      match fieldsOf depth found rest with
      | none => none
      | some (fields, found) => some (memberField key value shape :: fields, found)

end

/-- Why a text has no schema. -/
inductive DocumentError where
  | notJson (error : ReadError)
  | notAnObject
  | tooDeep
  deriving DecidableEq

/-- The complaint about a text without a schema. -/
def DocumentError.message : DocumentError → Text
  | .notJson error => "invalid JSON: " ++ error.message
  | .notAnObject => "JSON must be an object"
  | .tooDeep => "JSON nesting too deep"

/-- The schema of a value, for a struct of that name. -/
def schemaOf (structName : Text) : Json → Except DocumentError Schema
  | .object members =>
    match fieldsOf 0 [] members with
    | some (fields, nestedTypes) => .ok { structName := some structName, fields, nestedTypes }
    | none => .error .tooDeep
  | _ => .error .notAnObject

/-- The schema of a JSON text, for a struct of that name. -/
def readSchema (structName t : Text) : Except DocumentError Schema :=
  match read t with
  | .ok document => schemaOf structName document
  | .error .tooDeep => .error .tooDeep
  | .error error => .error (.notJson error)

end StructForge.Json
