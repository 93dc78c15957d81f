import StructForge.Json.Value
import StructForge.Schema

/-!
# Schemas as values

A schema as a JSON value, in which it can be shown in any format for such values. A field shows its nested type only
by the name in its type.
-/

namespace StructForge

/-- A text or nothing. -/
def Json.ofText? : Option Text → Json
  | some t => .string t
  | none => .null

/-- The value of a field. -/
def Field.toJson (f : Field) : Json :=
  .object [
    ("source_name", .string f.sourceName),
    ("target_name", .string f.targetName),
    ("source_type", .string f.sourceType),
    ("target_type", .string f.targetType),
    ("nullable", .bool f.nullable),
    ("is_primary_key", .bool f.isPrimaryKey),
    ("is_auto_increment", .bool f.isAutoIncrement),
    ("comment", Json.ofText? f.comment),
    ("serialized_name", .string f.serializedName),
    ("storage_column", Json.ofText? f.storageColumn)]

/-- The value of a nested type. -/
def NestedType.toJson (n : NestedType) : Json :=
  .object [("name", .string n.name), ("fields", .array (n.fields.map Field.toJson))]

/-- The value of a schema from a source, which was read without an error. -/
def Schema.toJson (s : Schema) (source : Text) : Json :=
  .object [
    ("dialect", .string source),
    ("table_name", Json.ofText? s.tableName),
    ("struct_name", Json.ofText? s.structName),
    ("fields", .array (s.fields.map Field.toJson)),
    ("nested_types", .array (s.nestedTypes.map NestedType.toJson)),
    ("error", .null)]

end StructForge
