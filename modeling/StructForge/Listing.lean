import StructForge.Text.Figures

/-!
# Listings

How code is shown: without superfluous blank lines, and perhaps with numbered lines.
-/

namespace StructForge.Listing

open Text

/-- Every run of three or more newlines becomes one of two; `run` newlines stand in front of the text. -/
def shortenFrom : (run : Nat) → Text → Text
  | _, [] => []
  | run, c :: t =>
    if c = '\n' then
      if run < 2 then '\n' :: shortenFrom (run + 1) t else shortenFrom run t
    else c :: shortenFrom 0 t

/-- The text with at most one blank line between others, and without blanks at its ends. -/
def cleanup (t : Text) : Text := trim (shortenFrom 0 t)

/-- A line behind its number, which is as wide as asked for. -/
def numbered (width number : Nat) (line : Text) : Text := padLeft width ' ' (ofNat number) ++ " | " ++ line

/-- The lines of a text, numbered from 1, the numbers aligned to the right. -/
def lineNumbers (t : Text) : Text :=
  let all := lines t
  let width := (ofNat all.length).length
  join "\n" (all.zipIdx.map fun (line, i) => numbered width (i + 1) line)

end StructForge.Listing
