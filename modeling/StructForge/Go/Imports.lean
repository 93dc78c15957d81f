import StructForge.Go.TypeName
import StructForge.Schema

/-!
# Imports

Two Go types come from packages: times and unparsed JSON. The imports of a list of fields are the packages of
the types that occur in it, each once, in the order in which they are first met.
-/

namespace StructForge.Go

/-- The types that come from a package, and the package's path. -/
def packagedTypes : List (Text × Text) := [(TypeName.time, "time"), (TypeName.rawJson, "encoding/json")]

/-- The list with a path at its end, unless it has the path already. -/
def addImport (imports : List Text) (path : Text) : List Text :=
  if imports.contains path then imports else imports ++ [path]

/-- The packages that a type needs. -/
def packagesOf (type : Text) : List Text :=
  (packagedTypes.filter fun packaged => Text.occursIn packaged.1 type).map (·.2)

/-- The imports of a list of fields. -/
def imports (fields : List Field) : List Text :=
  (fields.flatMap fun f => packagesOf f.targetType).foldl addImport []

end StructForge.Go
