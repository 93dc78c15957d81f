import StructForge.Text.Basic

/-!
# Go types

The Go types that columns and JSON values are given, as they are written in a struct.
-/

namespace StructForge.Go

namespace TypeName

/-- Text. -/
def string : Text := "string"

/-- Whole numbers of a JSON document and years. -/
def int : Text := "int"

/-- Whole numbers of a column. -/
def int64 : Text := "int64"

/-- Numbers with a fraction. -/
def float64 : Text := "float64"

/-- Truth values. -/
def bool : Text := "bool"

/-- Binary data. -/
def bytes : Text := "[]byte"

/-- A value of any type. -/
def any : Text := "interface\x7b\x7d"

/-- Dates and times. -/
def time : Text := "time.Time"

/-- JSON that is kept as it was read. -/
def rawJson : Text := "json.RawMessage"

/-- The type of slices of a type. -/
def slice (element : Text) : Text := "[]" ++ element

/-- Slices of slices, `depth` deep, of a type. -/
def slices : (depth : Nat) → Text → Text
  | 0, element => element
  | depth + 1, element => slice (slices depth element)

end TypeName

end StructForge.Go
