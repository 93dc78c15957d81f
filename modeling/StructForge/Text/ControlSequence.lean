import StructForge.Text.Basic

/-!
# Control sequences

What terminals take for a command: an escape character, an opening bracket, parameters, and a letter at the end that
says what the command is. Those that set colours have a form of their own. What is not written to a terminal is written
without control sequences, or at least without colours. A text that lies around a sequence and becomes one when that
is gone stays.
-/

namespace StructForge.Text

/-- A form of control sequences: the characters of their parameters, and the letters at their end. -/
structure SequenceForm where
  isParameter : Char → Bool
  isFinal : Char → Bool

namespace SequenceForm

/-- Any control sequence. -/
def any : SequenceForm := ⟨fun c => c.isDigit || c = ';' || c = '?', Char.isAlpha⟩

/-- The sequences that set colours and the weight of letters. -/
def colour : SequenceForm := ⟨fun c => c.isDigit || c = ';', (· = 'm')⟩

/-- The character that control sequences start with. -/
def escapeChar : Char := '\x1b'

/-- The length of the sequence behind its escape character; none where the text does not go on with one. -/
def length? (form : SequenceForm) : Text → Option Nat
  | '[' :: t =>
    match t.dropWhile form.isParameter with
    | final :: rest => if form.isFinal final then some (t.length + 1 - rest.length) else none
    | [] => none
  | _ => none

/-- The text without the sequences of a form; the first `skip` characters belong to one. -/
def dropFrom (form : SequenceForm) : (skip : Nat) → Text → Text
  | _, [] => []
  | skip + 1, _ :: t => form.dropFrom skip t
  | 0, c :: t =>
    match if c = escapeChar then form.length? t else none with
    | some length => form.dropFrom length t
    | none => c :: form.dropFrom 0 t

end SequenceForm

/-- The text without the sequences of a form. -/
def without (form : SequenceForm) (t : Text) : Text := form.dropFrom 0 t

/-- The text without control sequences. -/
def withoutControlSequences (t : Text) : Text := without .any t

/-- The text without colours; other control sequences stay. -/
def withoutColours (t : Text) : Text := without .colour t

end StructForge.Text
