import StructForge.Text.Quoted

/-!
# UTF-8

Bytes as text and text as bytes. Decoding stops at the first bytes that are not the form of a character; an error
names those bytes, what they are short of, and their place. Over-long forms, surrogates and code points beyond the
last one have no form.
-/

namespace StructForge.Text.Utf8

/-- Bytes as numbers below 256. -/
abbrev Bytes := List Nat

/-! ## Encoding -/

/-- The form of a character. -/
def encodeChar (c : Char) : Bytes :=
  let n := c.toNat
  if n < 0x80 then [n]
  else if n < 0x800 then [0xC0 + n / 0x40, 0x80 + n % 0x40]
  else if n < 0x10000 then [0xE0 + n / 0x1000, 0x80 + n / 0x40 % 0x40, 0x80 + n % 0x40]
  else [0xF0 + n / 0x40000, 0x80 + n / 0x1000 % 0x40, 0x80 + n / 0x40 % 0x40, 0x80 + n % 0x40]

/-- The form of a text. -/
def encode (t : Text) : Bytes := t.flatMap encodeChar

/-! ## Decoding -/

/-- What is wrong with some bytes. -/
inductive Fault where
  | startByte
  | continuationByte
  | endOfData
  deriving DecidableEq

/-- The bytes that are not the form of a character: the place of the first and their number. -/
structure Error where
  fault : Fault
  offset : Nat
  bytes : Bytes
  deriving DecidableEq

/-- A byte behind the first of a form. -/
def isTail (b : Nat) : Bool := 0x80 ≤ b && b ≤ 0xBF

/-- The bytes that may follow a first byte, and how many more follow those; none for a byte that starts no form. -/
def afterStart? (b : Nat) : Option (Nat × Nat × Nat) :=
  if 0xC2 ≤ b && b ≤ 0xDF then some (0x80, 0xBF, 0)
  else if b = 0xE0 then some (0xA0, 0xBF, 1)
  else if b = 0xED then some (0x80, 0x9F, 1)
  else if 0xE1 ≤ b && b ≤ 0xEF then some (0x80, 0xBF, 1)
  else if b = 0xF0 then some (0x90, 0xBF, 2)
  else if 0xF1 ≤ b && b ≤ 0xF3 then some (0x80, 0xBF, 2)
  else if b = 0xF4 then some (0x80, 0x8F, 2)
  else none

/-- The code point of a form of two or more bytes. -/
def codePoint (bytes : Bytes) : Nat :=
  match bytes with
  | [a, b] => (a - 0xC0) * 0x40 + (b - 0x80)
  | [a, b, c] => (a - 0xE0) * 0x1000 + (b - 0x80) * 0x40 + (c - 0x80)
  | [a, b, c, d] => (a - 0xF0) * 0x40000 + (b - 0x80) * 0x1000 + (c - 0x80) * 0x40 + (d - 0x80)
  | _ => 0xFFFD

/-- A place between characters or within a form: the bytes of the form so far, and how many it needs still. -/
structure Partial where
  seen : Bytes := []
  left : Nat := 0

/-- Whether a byte may come next within a form. -/
def Partial.admits (p : Partial) (b : Nat) : Bool :=
  match p.seen with
  | [a] =>
    match afterStart? a with
    | some (low, high, _) => low ≤ b && b ≤ high
    | none => false
  | _ => isTail b

/-- Reads one more byte: the character that it completes, or the longer form; the form started at `offset`. -/
def Partial.step (offset : Nat) (p : Partial) (b : Nat) : Except Error (Char ⊕ Partial) :=
  if p.seen.isEmpty then
    if b < 0x80 then .ok (.inl (Char.ofNat b))
    else
      match afterStart? b with
      | some (_, _, more) => .ok (.inr ⟨[b], more + 1⟩)
      | none => .error ⟨.startByte, offset, [b]⟩
  else if p.admits b then
    let seen := p.seen ++ [b]
    if p.left ≤ 1 then .ok (.inl (Char.ofNat (codePoint seen))) else .ok (.inr ⟨seen, p.left - 1⟩)
  else .error ⟨.continuationByte, offset, p.seen⟩

/-- The text of some bytes behind the start of a form at `offset`. -/
def decodeFrom (offset : Nat) (p : Partial) : Bytes → Except Error Text
  | [] => if p.seen.isEmpty then .ok [] else .error ⟨.endOfData, offset, p.seen⟩
  | b :: rest =>
    match p.step offset b with
    | .error e => .error e
    | .ok (.inr longer) => decodeFrom offset longer rest
    | .ok (.inl c) => (decodeFrom (offset + p.seen.length + 1) {} rest).map (c :: ·)

/-- The text of some bytes. -/
def decode (bytes : Bytes) : Except Error Text := decodeFrom 0 {} bytes

/-- The description of a fault. -/
def Fault.message : Fault → Text
  | .startByte => "invalid start byte"
  | .continuationByte => "invalid continuation byte"
  | .endOfData => "unexpected end of data"

/-- The complaint about some bytes. -/
def Error.message (e : Error) : Text :=
  let place : Text :=
    match e.bytes with
    | [b] => "byte 0x" ++ hex 2 b ++ " in position " ++ ofNat e.offset
    | bytes => "bytes in position " ++ ofNat e.offset ++ "-" ++ ofNat (e.offset + bytes.length - 1)
  "'utf-8' codec can't decode " ++ place ++ ": " ++ e.fault.message

/-! ## Line ends -/

/-- The text with every line end, `\r\n` or `\r`, as a newline. -/
def normalizeNewlines : Text → Text
  | [] => []
  | '\r' :: '\n' :: t => '\n' :: normalizeNewlines t
  | '\r' :: t => '\n' :: normalizeNewlines t
  | c :: t => c :: normalizeNewlines t

end StructForge.Text.Utf8
