import StructForge.Text.Figures
import StructForge.Text.Printable

/-!
# Quoted texts

How a text is shown inside a message: in single quotes, or in double quotes where it has single quotes and no
double ones. The quote in use, backslashes and unprintable characters are escaped.
-/

namespace StructForge.Text

/-- The quote for a text. -/
def quoteFor (t : Text) : Char := if '\'' ∈ t ∧ '"' ∉ t then '"' else '\''

/-- A character between quotes of a kind. -/
def showChar (quote c : Char) : Text :=
  if c = quote || c = '\\' then ['\\', c]
  else if c = '\n' then "\\n"
  else if c = '\r' then "\\r"
  else if c = '\t' then "\\t"
  else if isPrintable c then [c]
  else if c.toNat < 0x100 then "\\x" ++ hex 2 c.toNat
  else if c.toNat < 0x10000 then "\\u" ++ hex 4 c.toNat
  else "\\U" ++ hex 8 c.toNat

/-- The text in quotes. -/
def quoted (t : Text) : Text := [quoteFor t] ++ t.flatMap (showChar (quoteFor t)) ++ [quoteFor t]

end StructForge.Text
