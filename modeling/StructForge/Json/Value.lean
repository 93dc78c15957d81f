import StructForge.Number.Double
import StructForge.Text.Basic

/-!
# JSON values

A value of a JSON document. The members of an object keep the order in which their keys first occur, and a key
that occurs again has its last value.
-/

namespace StructForge

/-- A JSON value; a number is whole or a double, by the way it is written. -/
inductive Json where
  | null
  | bool (value : Bool)
  | int (value : Int)
  | float (value : Number.Double)
  | string (value : Text)
  | array (elements : List Json)
  | object (members : List (Text × Json))

namespace Json

/-- The members with one more; a key that is there already gets the new value in its old place. -/
def insertMember {α : Type} (key : Text) (value : α) : List (Text × α) → List (Text × α)
  | [] => [(key, value)]
  | (k, v) :: rest => if k = key then (k, value) :: rest else (k, v) :: insertMember key value rest

/-- Inserting a member keeps every old key in its place, and adds at most the new one at the end. -/
theorem keys_insertMember {α : Type} (key : Text) (value : α) : ∀ members : List (Text × α),
    (insertMember key value members).map (·.1) =
      if key ∈ members.map (·.1) then members.map (·.1) else members.map (·.1) ++ [key]
  | [] => rfl
  | (k, v) :: rest => by
    have ih := keys_insertMember key value rest
    by_cases h : k = key
    · simp [insertMember, h]
    · have h' : ¬key = k := fun e => h e.symm
      simp only [insertMember, h, if_false, List.map_cons, ih, List.mem_cons, h', false_or]
      split <;> rfl

/-- The kinds of values. Whole numbers are of one kind however they are written. -/
inductive Kind where
  | null
  | boolean
  | int
  | float
  | string
  | array
  | object
  deriving DecidableEq

/-- The name of a kind. -/
def Kind.name : Kind → Text
  | .null => "null"
  | .boolean => "boolean"
  | .int => "int"
  | .float => "float"
  | .string => "string"
  | .array => "array"
  | .object => "object"

/-- The kind of a value. -/
def kind : Json → Kind
  | .null => .null
  | .bool _ => .boolean
  | .int _ => .int
  | .float x => if x.isWhole then .int else .float
  | .string _ => .string
  | .array _ => .array
  | .object _ => .object

end Json

end StructForge
