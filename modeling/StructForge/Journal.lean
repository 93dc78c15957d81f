import StructForge.Text.Figures

/-!
# The journal

What the program tells of its work while it runs: entries of three levels, each from one part of the program. Only
warnings are shown unless more is asked for.
-/

namespace StructForge.Journal

/-- How important an entry is. -/
inductive Level where
  | debug
  | info
  | warning
  deriving DecidableEq

/-- The name of a level. -/
def Level.name : Level → Text
  | .debug => "DEBUG"
  | .info => "INFO"
  | .warning => "WARNING"

/-- One message of a part of the program. -/
structure Entry where
  level : Level
  part : Text
  message : Text
  deriving DecidableEq

/-- The line of an entry. -/
def Entry.line (e : Entry) : Text := e.level.name ++ " - " ++ e.part ++ " - " ++ e.message ++ "\n"

/-- Whether an entry is shown. -/
def Entry.isShown (verbose : Bool) (e : Entry) : Bool := verbose || e.level = .warning

/-- The lines of the entries that are shown. -/
def render (verbose : Bool) (entries : List Entry) : Text :=
  ((entries.filter (·.isShown verbose)).map Entry.line).flatten

end StructForge.Journal
