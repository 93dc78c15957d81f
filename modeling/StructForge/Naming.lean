import StructForge.Text.Case
import StructForge.Text.Word

/-!
# Names

A source name is made of *segments*, its runs of letters and numerals. `camel` joins the segments with their
first letters capitalised, which gives the name of a Go field or type; `snake` goes the other way and writes a
Go name in small letters with underscores, which gives a file name.
-/

namespace StructForge.Naming

open Text

/-! ## From source names to Go names -/

/-- The runs of letters and numerals of a name. -/
def segments (name : Text) : List Text := runsOf isAlphanumeric name

/-- A segment with its first character in upper case. -/
def capitalise : Text → Text
  | [] => []
  | c :: t => upperChar c ++ t

/-- What stands for a name without letters and numerals, and in front of one that starts with a digit. -/
def fallback : Text := "Field"

/-- The Go name of a column or key: its segments, capitalised and joined. -/
def camel (name : Text) : Text :=
  match (segments name).flatMap capitalise with
  | [] => fallback
  | c :: t => if isDigit c then fallback ++ c :: t else c :: t

/-! ## From Go names to file names -/

/-- An ASCII capital. -/
def isCapital (c : Char) : Bool := 'A' ≤ c && c ≤ 'Z'

/-- An ASCII small letter. -/
def isSmall (c : Char) : Bool := 'a' ≤ c && c ≤ 'z'

/-- An underscore between an acronym and the capitalised word behind it: `HTTPServer` is `HTTP_Server`. -/
def breakAcronyms : Text → Text
  | a :: b :: c :: t =>
    if isCapital a && isCapital b && isSmall c then a :: '_' :: breakAcronyms (b :: c :: t)
    else a :: breakAcronyms (b :: c :: t)
  | t => t

/-- An underscore between a small letter or decimal digit and the capital behind it: `userId` is `user_Id`. -/
def breakWords : Text → Text
  | a :: b :: t =>
    if (isSmall a || isDecimal a) && isCapital b then a :: '_' :: breakWords (b :: t)
    else a :: breakWords (b :: t)
  | t => t

/-- A Go name in small letters, its words separated by underscores. -/
def snake (name : Text) : Text := trimWhere (· == '_') (lower (breakWords (breakAcronyms name)))

/-- The name of the Go file for a struct. -/
def fileName (structName : Text) : Text := snake structName ++ ".go"

end StructForge.Naming
