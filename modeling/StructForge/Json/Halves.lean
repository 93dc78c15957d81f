import StructForge.Json.Reader

/-!
# Halves of characters

A numeric escape of a document may give half of a character beyond the basic plane. Beside its other half it is part of
that character; alone it is none, and what has one in it cannot be written as UTF-8. A `Text` has no place for a half
alone, and shows a replacement. To know where halves are in what is made of a document, it is made twice, of the
document with other characters in place of the halves (`standIns`): there is a half where the two differ.
-/

namespace StructForge.Json

open Text

/-! ## Stand-ins -/

/-- The code point of the numeric escape at the start of a text. -/
def escapedUnit? : Text → Option Nat
  | '\\' :: 'u' :: a :: b :: c :: d :: _ => hexValue? [a, b, c, d]
  | _ => none

/-- What takes the place of the next characters behind a character: the rest of an escape, where a half alone is so much
further on. -/
def standInBehind (shift : Nat) (c : Char) (t : Text) : Text :=
  if c ≠ '\\' then []
  else
    match escapedUnit? (c :: t) with
    | none => t.take 1
    | some n =>
      if isHighHalf n && (escapedUnit? (t.drop 5)).any isLowHalf then t.take 11
      else if isHighHalf n || isLowHalf n then 'u' :: hex 4 (n + shift)
      else t.take 5

/-- A text with stand-ins, where `pending` takes the place of the first characters. -/
def standInsFrom (shift : Nat) : (pending : Text) → Text → Text
  | _, [] => []
  | c :: pending, _ :: t => c :: standInsFrom shift pending t
  | [], c :: t => c :: standInsFrom shift (standInBehind shift c t) t

/-- A document with the characters that are so much further on in place of the halves that stand alone. -/
def standIns (shift : Nat) (t : Text) : Text := standInsFrom shift [] t

/-! ## Finding halves -/

/-- Halves of characters that stand one behind the other in a text: their places, and the first of them. -/
structure Halves where
  first : Nat
  last : Nat
  half : Nat
  deriving DecidableEq

/-- The complaint about halves that are to be written. -/
def Halves.message (h : Halves) : Text :=
  let shown : Text :=
    if h.first = h.last then " '\\u" ++ hex 4 h.half ++ "' in position " ++ ofNat h.first
    else "s in position " ++ ofNat h.first ++ "-" ++ ofNat h.last
  "'utf-8' codec can't encode character" ++ shown ++ ": surrogates not allowed"

/-- How far on the stand-ins are: those of the first kind, which show what the half is, and those of the second. -/
def firstShift : Nat := 0x800

@[inherit_doc firstShift]
def secondShift : Nat := 0x1000

/-- The first halves of a text, of which both versions with stand-ins are given from some place on. -/
def firstHalves? : (place : Nat) → Text → Text → Option Halves
  | place, c :: one, d :: other =>
    if c = d then firstHalves? (place + 1) one other
    else
      let more := ((one.zip other).takeWhile fun (c, d) => c ≠ d).length
      some { first := place, last := place + more, half := c.toNat - firstShift }
  | _, _, _ => none

/-- The first halves of what is made of a document, if that is made at all. -/
def halvesIn? (t : Text) (make : Text → Option Text) : Option Halves :=
  if standIns firstShift t = t then none
  else
    match make (standIns firstShift t), make (standIns secondShift t) with
    | some one, some other => firstHalves? 0 one other
    | _, _ => none

example : standIns firstShift "\"\\ud83d\\ude00 \\\\ud800 \\ud800\"" =
    ("\"\\ud83d\\ude00 \\\\ud800 \\ue000\"" : Text) := by
  decide +kernel

end StructForge.Json
