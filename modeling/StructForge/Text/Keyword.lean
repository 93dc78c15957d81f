import StructForge.Text.Word

/-!
# Keywords

Keywords are matched without regard to case, in the sense of full case folding: besides its capital, `i` is met
by the dotted and the dotless I, `s` by the long s and `k` by the Kelvin sign. A *phrase* is a list of keywords
with white space between them.

Each reader takes a text and returns what follows the match. `search` finds the leftmost place at which a reader
succeeds and tells the reader whether a word character stands in front.
-/

namespace StructForge.Text

/-- The small ASCII letter that a character stands for in a keyword; other characters stand for themselves. -/
def foldChar (c : Char) : Char :=
  if 'A' ≤ c ∧ c ≤ 'Z' then Char.ofNat (c.toNat + 32)
  else if c = 'İ' || c = 'ı' then 'i'
  else if c = 'ſ' then 's'
  else if c.toNat = 0x212A then 'k'
  else c

/-- What follows the keyword `w`, given in small letters, in a text that starts with it. -/
def afterKeyword? : (w : Text) → Text → Option Text
  | [], t => some t
  | _ :: _, [] => none
  | a :: w, c :: t => if foldChar c = a then afterKeyword? w t else none

/-- What follows the blanks of a text that starts with at least one. -/
def afterBlanks? : Text → Option Text
  | [] => none
  | c :: t => if isBlank c then some (t.dropWhile isBlank) else none

/-- What follows the keywords, with white space between neighbours. -/
def afterPhrase? : List Text → Text → Option Text
  | [], t => some t
  | [w], t => afterKeyword? w t
  | w :: ws, t => do afterPhrase? ws (← afterBlanks? (← afterKeyword? w t))

/-- What follows the phrase, unless a word character continues it. -/
def afterWholePhrase? (phrase : List Text) (t : Text) : Option Text :=
  (afterPhrase? phrase t).filter atWordEnd

/-- The leftmost success of `read`, which learns whether a word character stands in front of its text. -/
def search {α : Type} (read : Bool → Text → Option α) (afterWord : Bool) : Text → Option α
  | [] => read afterWord []
  | c :: t =>
    match read afterWord (c :: t) with
    | some a => some a
    | none => search read (isWordChar c) t

/-- Reads the phrase as whole words: no word character in front and none behind. -/
def wholePhrase? (phrase : List Text) (afterWord : Bool) (t : Text) : Option Text :=
  if afterWord then none else afterWholePhrase? phrase t

/-- Whether the phrase occurs as whole words. -/
def hasPhrase (phrase : List Text) (t : Text) : Bool := (search (wholePhrase? phrase) false t).isSome

/-- What a reader consumed, from the text it was given and the rest it left. -/
def consumed (t rest : Text) : Text := t.take (t.length - rest.length)

end StructForge.Text
