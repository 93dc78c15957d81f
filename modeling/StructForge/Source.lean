import StructForge.Text.Case

/-!
# Sources

What a text can be read as: a `CREATE TABLE` statement of one of three SQL dialects, or a JSON document. A text
that is neither has no source; where a name is needed for that, it is `unknown`.
-/

namespace StructForge

/-- The SQL dialects with a reader. -/
inductive Sql where
  | mysql
  | postgresql
  | sqlite
  deriving DecidableEq

/-- The languages that input can be written in. -/
inductive Source where
  | sql (dialect : Sql)
  | json
  deriving DecidableEq

/-- The name of a dialect. -/
def Sql.name : Sql → Text
  | .mysql => "mysql"
  | .postgresql => "postgresql"
  | .sqlite => "sqlite"

namespace Source

/-- The name of a source. -/
def name : Source → Text
  | .sql dialect => dialect.name
  | .json => "json"

/-- All sources, in the order in which they are listed to a user. -/
def all : List Source := [.sql .mysql, .sql .postgresql, .sql .sqlite, .json]

/-- The name of a source, or `unknown`. -/
def nameOr : Option Source → Text
  | some source => source.name
  | none => "unknown"

/-- The source of that name, in small letters. -/
def ofName? (t : Text) : Option Source := all.find? (·.name == t)

/-- The source that a name in any letter case stands for; `unknown` names no source, and `none` is no name. -/
def ofAnyCase? (t : Text) : Option (Option Source) :=
  let small := Text.lower t
  if small == ("unknown" : Text) then some none else (ofName? small).map some

/-- Whether input can be read under that name, in any letter case. -/
def isSupported (t : Text) : Bool := (ofName? (Text.lower t)).isSome

end Source

end StructForge
