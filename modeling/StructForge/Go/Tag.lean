import StructForge.Schema

/-!
# Struct tags

The tag of a Go field names the key under which it is serialised and, for a stored field, the column and what the
column promises.
-/

namespace StructForge.Go

/-- The backquote that delimits a tag. -/
def backquote : Char := '\x60'

/-- The item of a flag that is set. -/
def flag (isSet : Bool) (item : Text) : List Text := if isSet then [item] else []

/-- What a tag says of the storage of a field in a column. -/
def storageItems (f : Field) (column : Text) : List Text :=
  [("column:" ++ column : Text)] ++ flag f.isPrimaryKey "primaryKey" ++ flag f.isAutoIncrement "autoIncrement" ++
    flag (!f.nullable) "not null"

/-- A key of a tag and its value. -/
def tagPair (key value : Text) : Text := key ++ ":\"" ++ value ++ "\""

/-- The tag of a field, with its storage if that is asked for and the field has any. -/
def tag (f : Field) (withStorage : Bool) : Text :=
  let storage :=
    match f.storageColumn with
    | some column => if withStorage then [tagPair "gorm" (Text.join ";" (storageItems f column))] else []
    | none => []
  [backquote] ++ Text.join " " (tagPair "json" f.serializedName :: storage) ++ [backquote]

end StructForge.Go
