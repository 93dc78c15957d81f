import StructForge.Json.Reader
import StructForge.Source
import StructForge.Text.Keyword

/-!
# Detecting the source of a text

A text with `CREATE TABLE` in it is SQL; its dialect is told by *markers*, words that only one dialect has. The
markers of PostgreSQL go before those of MySQL, which go before those of SQLite, and without any the text is taken
for MySQL. A text without `CREATE TABLE` is JSON if it is an object or an array.
-/

namespace StructForge.Detection

open Text

/-! ## Markers -/

/-- What follows the first of some phrases that stands here as whole words. -/
def anyWholePhrase? (phrases : List (List Text)) (t : Text) : Option Text :=
  phrases.findSome? (afterWholePhrase? · t)

/-- What follows a word that has `mark` behind it, blanks between them allowed. -/
def afterMarked? (word mark t : Text) : Option Text :=
  (afterKeyword? word t).bind fun rest => afterPrefix? mark (rest.dropWhile isBlank)

/-- Reads a marker of a dialect in front of which no word character stands. -/
def readMarker? (dialect : Sql) (afterWord : Bool) (t : Text) : Option Text :=
  if afterWord then none
  else
    match dialect with
    | .postgresql =>
      (anyWholePhrase? [["serial"], ["bigserial"], ["smallserial"], ["uuid"], ["jsonb"], ["timestamptz"]] t).or
        ((afterMarked? "text" "[]" t).or (afterWholePhrase? ["timestamp", "with", "time", "zone"] t))
    | .mysql => (anyWholePhrase? [["auto_increment"], ["tinyint"]] t).or (afterMarked? "comment" "'" t)
    | .sqlite => afterWholePhrase? ["autoincrement"] t

/-- The first marker of a dialect in a text. -/
def marker? (dialect : Sql) (t : Text) : Option Text :=
  search (fun afterWord here => (readMarker? dialect afterWord here).map (consumed here)) false t

/-- The first dialect with a marker in the text, and the marker. -/
def markedDialect? (t : Text) : Option (Sql × Text) :=
  [Sql.postgresql, .mysql, .sqlite].findSome? fun dialect => (marker? dialect t).map (dialect, ·)

/-- The dialect of a statement. -/
def sqlDialect (t : Text) : Sql :=
  match markedDialect? t with
  | some (dialect, _) => dialect
  | none => .mysql

/-! ## Sources -/

/-- Whether a statement starts in the text. -/
def hasStatement (t : Text) : Bool := (search (fun _ => afterPhrase? ["create", "table"]) false t).isSome

/-- Whether the text is a JSON object or array. -/
def isJsonContainer (t : Text) : Bool :=
  match Json.read t with
  | .ok (.object _) | .ok (.array _) => true
  | _ => false

/-- The source of a text. -/
def detect (t : Text) : Option Source :=
  let trimmed := trim t
  if hasStatement trimmed then some (.sql (sqlDialect trimmed))
  else if isJsonContainer trimmed then some .json
  else none

end StructForge.Detection
