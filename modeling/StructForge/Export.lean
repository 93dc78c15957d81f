import StructForge.FileTree
import StructForge.Go.File
import StructForge.Json.Halves
import StructForge.Naming

/-!
# Exporting Go files

Code is written to a file of its own, named after the struct, below a directory that is made where it is missing. First
come the directories, then the file is opened, which empties it, and then it is written. A failure leaves what was
done before it (`Failed`).
-/

namespace StructForge.Export

/-- Why a file is not written. -/
inductive Error where
  | refused (file : Path) (error : PathError)
  | nullCharacter
  | tooDeep
  | unencodable (halves : Json.Halves)
  deriving DecidableEq

/-- The complaint about a file. -/
def Error.message : Error → Text
  | .refused file error => "Failed to write " ++ file.text ++ ": " ++ error.message
  | .nullCharacter => "embedded null byte"
  | .tooDeep => "too many new directories"
  | .unencodable halves => halves.message

/-- The error that a failure to write a file makes. -/
def Error.ofFailure (file : Path) : WriteFailure → Error
  | .refused error => .refused file error
  | .tooDeep => .tooDeep

/-- The path of the file for a struct below a directory. -/
def pathFor (directory structName : Text) : Path :=
  (Path.ofText directory).append (Path.ofText (Naming.fileName structName))

/-- Whether a null character occurs in a path, which no file has. -/
def hasNull (p : Path) : Bool := p.parts.any (·.contains '\x00')

/-- A failure to write, and the tree as it is left. -/
structure Failed where
  error : Error
  tree : FileTree

/-- Writes a text, which may have halves of characters in it, to a file, and the directories it needs: the tree as it is
then. -/
def save (tree : FileTree) (file : Path) (content : Text) (halves : Option Json.Halves) : Except Failed FileTree :=
  if hasNull file.parent then .error ⟨.nullCharacter, tree⟩
  else
    match tree.makeDirectories file.parent with
    | .error failure => .error ⟨.ofFailure file failure, tree.reachDirectories file.parent⟩
    | .ok made =>
      if hasNull file then .error ⟨.nullCharacter, made⟩
      else
        match halves with
        | none => (made.writeInPlace file content).mapError fun fault => ⟨.refused file ⟨fault, file⟩, made⟩
        | some halves =>
          match made.writeInPlace file [] with
          | .error fault => .error ⟨.refused file ⟨fault, file⟩, made⟩
          | .ok emptied => .error ⟨.unencodable halves, emptied⟩

/-- Writes a text to a file, and the directories it needs: the tree as it is then. -/
def write (tree : FileTree) (file : Path) (content : Text) : Except Error FileTree :=
  (save tree file content none).mapError Failed.error

/-- A file that was written, and the tree with it. -/
structure Written where
  file : Path
  tree : FileTree

/-- Writes code as a complete file of a package to the file for a struct. -/
def goFile (tree : FileTree) (code structName directory packageName : Text) (imports : List Text) :
    Except Error Written :=
  let file := pathFor directory structName
  (write tree file (Go.file code packageName imports)).map fun tree => ⟨file, tree⟩

/-- Writes code as `goFile` does, where the file may have halves of characters in it. -/
def saveGoFile (tree : FileTree) (code structName directory packageName : Text) (imports : List Text)
    (halves : Option Json.Halves) : Except Failed Written :=
  let file := pathFor directory structName
  (save tree file (Go.file code packageName imports) halves).map fun tree => ⟨file, tree⟩

end StructForge.Export
