import StructForge.Text.Basic
import StructForge.Text.CaseTable

/-!
# Upper and lower case

`upper` and `lower` change the case of a whole text. One character may become several (`ß` gives `SS`), and a
capital sigma becomes `ς` at the end of a word and `σ` elsewhere.
-/

namespace StructForge.Text

/-- The upper-case form of a character. -/
def upperChar (c : Char) : Text :=
  match upperExpansions.lookup c.toNat with
  | some image => image.map Char.ofNat
  | none =>
    match CaseRun.image? upperRuns c.toNat with
    | some n => [Char.ofNat n]
    | none => [c]

/-- The text in upper case. -/
def upper (t : Text) : Text := t.flatMap upperChar

/-- Whether the nearest character that counts has case. -/
def meetsCased : Text → Bool
  | [] => false
  | c :: t => if caseIgnorableRanges.contains c.toNat then meetsCased t else casedRanges.contains c.toNat

/-- The lower-case form of a character that stands between `before`, given backwards, and `after`. -/
def lowerChar (before : Text) (c : Char) (after : Text) : Text :=
  if c = 'Σ' then
    if meetsCased before && !meetsCased after then ['ς'] else ['σ']
  else if c = 'İ' then ['i', Char.ofNat 0x307]
  else
    match CaseRun.image? lowerRuns c.toNat with
    | some n => [Char.ofNat n]
    | none => [c]

/-- Lower case of a text that follows `before`, given backwards. -/
def lowerFrom (before : Text) : Text → Text
  | [] => []
  | c :: t => lowerChar before c t ++ lowerFrom (c :: before) t

/-- The text in lower case. -/
def lower (t : Text) : Text := lowerFrom [] t

end StructForge.Text
