import StructForge.Text.Ranges

/-!
# Blanks

White space of any script: controls that separate (tab to carriage return, the four information separators,
next line), the space, and the separators of category Z. Zero-width characters are no blanks.
-/

namespace StructForge.Text

/-- White space. -/
def blankRanges : Ranges :=
  [(0x9, 0xD), (0x1C, 0x20), (0x85, 0x85), (0xA0, 0xA0), (0x1680, 0x1680), (0x2000, 0x200A), (0x2028, 0x2029),
   (0x202F, 0x202F), (0x205F, 0x205F), (0x3000, 0x3000)]

/-- Whether the character is white space. -/
def isBlank (c : Char) : Bool := blankRanges.contains c.toNat

end StructForge.Text
