import StructForge.Text.Basic

/-!
# Go files

A complete file: the package, the imports, and the code. One import stands on a line of its own, several stand in
a block.
-/

namespace StructForge.Go

/-- One path in a block of imports. -/
def importLine (path : Text) : Text := "\t\"" ++ path ++ "\"\n"

/-- The import declaration of some paths, with the empty line behind it. -/
def importDeclaration : List Text → Text
  | [] => []
  | [path] => "import \"" ++ path ++ "\"\n\n"
  | paths => "import (\n" ++ (paths.map importLine).flatten ++ ")\n\n"

/-- A file of a package with some imports and code. -/
def file (code packageName : Text) (imports : List Text) : Text :=
  "package " ++ packageName ++ "\n\n" ++ importDeclaration imports ++ code

end StructForge.Go
