import StructForge.Schema

/-!
# Options of the generated code
-/

namespace StructForge.Go

/-- How Go code is generated. -/
structure Options where
  /-- A name for the struct, in place of the one that the schema suggests. -/
  structName : Option Text := none
  /-- The package of a complete file. -/
  packageName : Text := "model"
  /-- Whether the struct of a table gets a method that tells the table's name. -/
  emitStorageAccessor : Bool := true
  /-- Whether nested types are written where they are used, or as declarations of their own. -/
  inlineNestedTypes : Bool := true
  deriving DecidableEq

end StructForge.Go
