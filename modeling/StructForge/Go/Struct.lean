import StructForge.Go.Options
import StructForge.Go.Tag
import StructForge.Naming
import StructForge.Nesting

/-!
# Struct declarations

A schema becomes the declaration of one Go struct, with a method that tells the table's name and with the
declarations of the nested types where the options say so. The fields of a struct stand in aligned columns: name,
type, tag and comment. A type may itself be a struct that is written in place; it then spans several lines and
does not widen the columns.

`nested?` finds the nested type of a field, by its place or else by the name in the field's type. Structs are written
in place up to `maxInlineDepth` levels deep; code for anything deeper cannot be had, and a type that contains itself is
deeper than any level.
-/

namespace StructForge.Go

open Text

/-! ## Aligned rows -/

/-- One step of indentation. -/
def indent : Text := "    "

/-- The indentation of the fields of a struct that is written `depth` structs deep. -/
def indentation (depth : Nat) : Text := (List.replicate (depth + 1) indent).flatten

/-- The parts of a field. -/
structure Row where
  name : Text
  type : Text
  tag : Text
  comment : Option Text

/-- Whether the type spans several lines. -/
def Row.isMultiLine (r : Row) : Bool := r.type.contains '\n'

/-- The greatest of some lengths, or 0. -/
def widest (lengths : List Nat) : Nat := lengths.foldl max 0

/-- The widths of the columns of some rows. -/
structure Widths where
  name : Nat
  type : Nat
  tag : Nat

/-- The widths that some rows need. Only names widen a column from rows of several lines. -/
def Widths.ofRows (rows : List Row) : Widths :=
  let single := rows.filter (!·.isMultiLine)
  ⟨widest (rows.map (·.name.length)), widest (single.map (·.type.length)), widest (single.map (·.tag.length))⟩

/-- The comment of a row, if there is one and it is not empty. -/
def Row.visibleComment (r : Row) : Option Text := r.comment.filter (!·.isEmpty)

/-- A row without its comment. -/
def Row.declaration (w : Widths) (r : Row) : Text :=
  let type := if r.isMultiLine then r.type else padRight w.type r.type
  padRight w.name r.name ++ " " ++ type ++ " " ++ r.tag

/-- A row as it is written behind the indentation. Comments of rows of one line stand in a column. -/
def Row.render (w : Widths) (r : Row) : Text :=
  match r.visibleComment with
  | none => r.declaration w
  | some comment =>
    let front := if r.isMultiLine then r.declaration w
      else padRight (w.name + w.type + w.tag + 2) (r.declaration w)
    front ++ " // " ++ comment

/-- The rows of a struct that is written `depth` structs deep. -/
def renderRows (depth : Nat) (rows : List Row) : List Text :=
  let widths := Widths.ofRows rows
  rows.map fun r => indentation depth ++ r.render widths

/-! ## Fields -/

/-- The nested type of that name that comes first in a list. -/
def findNested? (nestedTypes : List NestedType) (name : Text) : Option NestedType :=
  nestedTypes.find? (·.name == name)

/-- A type without the brackets of its slices. -/
def elementName (type : Text) : Text := type.dropWhile fun c => c = '[' || c = ']'

/-- The nested type of a field: the one it refers to, or else the first listed one that its type names. -/
def nested? (s : Schema) (f : Field) : Option NestedType :=
  match f.nested with
  | some place => s.places[place]?
  | none => findNested? s.nestedTypes (elementName f.targetType)

/-- The type of a struct that is written in place at a depth, from the lines of its fields. -/
def inlineStruct (depth : Nat) : List Text → Text
  | [] => "struct\x7b\x7d"
  | line :: lines => join "\n" ([("struct \x7b" : Text), line] ++ lines ++ [indentation depth ++ "\x7d"])

/-- How many levels of structs are written in place. -/
def maxInlineDepth : Nat := 247

/-- The row of a field whose type is written so. -/
def rowOf (withStorage : Bool) (f : Field) (type : Text) : Row :=
  ⟨f.targetName, type, tag f withStorage, f.comment⟩

/-- The type of a field `depth` structs deep, with its nested type in place, where `renderInner` gives the lines of the
fields of that. -/
def inlineType (s : Schema) (depth : Nat) (renderInner : List Field → Except TooDeep (List Text)) (f : Field) :
    Except TooDeep Text :=
  match nested? s f with
  | none => .ok f.targetType
  | some nested =>
    let lines := if nested.fields.isEmpty then .ok [] else renderInner nested.fields
    lines.map fun lines => dropSuffix f.targetType nested.name ++ inlineStruct depth lines

/-- The lines of some fields, `depth` structs deep, with their nested types in place; there is room for that many
levels below them. -/
def inlineFields (s : Schema) : (room : Nat) → (depth : Nat) → (withStorage : Bool) → List Field →
    Except TooDeep (List Text)
  | 0, depth, withStorage, fields =>
    (fields.mapM fun f => (inlineType s depth (fun _ => .error .tooDeep) f).map (rowOf withStorage f)).map
      (renderRows depth)
  | room + 1, depth, withStorage, fields =>
    (fields.mapM fun f => (inlineType s depth (inlineFields s room (depth + 1) false) f).map (rowOf withStorage f)).map
      (renderRows depth)

/-- The lines of some fields of a struct, with their types as the fields have them. -/
def plainFields (withStorage : Bool) (fields : List Field) : List Text :=
  renderRows 0 (fields.map fun f => rowOf withStorage f f.targetType)

/-! ## Declarations -/

/-- The name of a struct: the override, the schema's own, the table's as a Go name, or else `Response`. Empty names
count as missing. -/
def structName (s : Schema) (o : Options) : Text :=
  match o.structName.filter (!·.isEmpty), s.structName.filter (!·.isEmpty), s.tableName.filter (!·.isEmpty) with
  | some name, _, _ => name
  | none, some name, _ => name
  | none, none, some table => Naming.camel table
  | none, none, none => "Response"

/-- The lines of a declaration, from the lines of its fields. -/
def declaration (name description : Text) (fields : List Text) : List Text :=
  ("// " ++ name ++ " " ++ description) :: ("type " ++ name ++ " struct \x7b") :: (fields ++ [("\x7d" : Text)])

/-- The lines of the method that tells the name of a table, and an empty line in front. -/
def accessor (name table : Text) : List Text :=
  ["", "// TableName returns the table name", "func (" ++ name ++ ") TableName() string \x7b",
   indent ++ "return \"" ++ table ++ "\"", "\x7d"]

/-- The lines of the declaration of a nested type, and an empty line in front. -/
def nestedDeclaration (nested : NestedType) : List Text :=
  [] :: declaration nested.name "is a nested type" (plainFields false nested.fields)

/-- The lines of the fields of the struct for a schema. -/
def fieldLines (s : Schema) (o : Options) : Except TooDeep (List Text) :=
  if o.inlineNestedTypes then inlineFields s maxInlineDepth 0 true s.fields else .ok (plainFields true s.fields)

/-- The lines of the code for a schema, from the lines of the fields of its struct. -/
def codeLines (s : Schema) (o : Options) (fields : List Text) : List Text :=
  let name := structName s o
  let table := s.tableName.filter (!·.isEmpty)
  let description : Text :=
    match table with
    | some table => "represents the " ++ table ++ " table"
    | none => "represents a JSON document"
  let method :=
    match table with
    | some table => if o.emitStorageAccessor then accessor name table else []
    | none => []
  let nested := if o.inlineNestedTypes then [] else s.nestedTypes.flatMap nestedDeclaration
  declaration name description fields ++ method ++ nested

/-- The code for a schema. -/
def code (s : Schema) (o : Options) : Except TooDeep Text :=
  (fieldLines s o).map fun fields => join "\n" (codeLines s o fields) ++ "\n"

end StructForge.Go
