import StructForge.Text.Letter
import StructForge.Text.Digit
import StructForge.Text.Basic

/-!
# Word characters

Names are made of letters, numerals and the underscore. A keyword is *whole* where neither side of it continues
with a word character; `takeWord` cuts the longest run of word characters off a text.
-/

namespace StructForge.Text

/-- Letters and numerals of any script. -/
def isAlphanumeric (c : Char) : Bool := isLetter c || isNumeral c

/-- Letters, numerals and the underscore. -/
def isWordChar (c : Char) : Bool := isAlphanumeric c || c == '_'

/-- The leading run of word characters, and what follows it. -/
def takeWord (t : Text) : Text × Text := (t.takeWhile isWordChar, t.dropWhile isWordChar)

/-- Whether no word character follows. -/
def atWordEnd : Text → Bool
  | [] => true
  | c :: _ => !isWordChar c

/-- The word and its rest make up the text. -/
theorem takeWord_append (t : Text) : (takeWord t).1 ++ (takeWord t).2 = t :=
  List.takeWhile_append_dropWhile

/-- What follows the leading word does not continue it. -/
theorem atWordEnd_takeWord (t : Text) : atWordEnd (takeWord t).2 = true := by
  unfold takeWord
  induction t with
  | nil => rfl
  | cons c t ih =>
    by_cases h : isWordChar c
    · simpa [List.dropWhile, h] using ih
    · simp [List.dropWhile, h, atWordEnd]

end StructForge.Text
