import StructForge.Text.Basic

/-!
# Whole numbers in figures

Whole numbers are written and read in base 10 and in base 16. Where numbers of a document are read in base 10 or
written into a message, they have at most `maxDigits` digits; `TooLong` says which of the two failed.

`decimalValue_ofNat` says that a number in base 10 is read as it was written.
-/

namespace StructForge.Text

/-! ## Base 10 -/

/-- A number in decimal notation. -/
def ofNat (n : Nat) : Text := Nat.toDigits 10 n

/-- A number in decimal notation, with a sign if it is negative. -/
def ofInt (n : Int) : Text := if n < 0 then '-' :: ofNat n.natAbs else ofNat n.natAbs

/-- The value of some decimal digits. -/
def decimalValue (digits : Text) : Nat := Nat.ofDigitChars 10 digits 0

theorem decimalValue_ofNat (n : Nat) : decimalValue (ofNat n) = n :=
  Nat.ofDigitChars_toDigits (by decide) (by decide)

/-- A number in decimal notation has only digits. -/
theorem isDigit_of_mem_ofNat {n : Nat} {c : Char} (h : c ∈ ofNat n) : c.isDigit = true :=
  Nat.isDigit_of_mem_toDigits (by decide) (by decide) h

/-! ## Base 16 -/

/-- At least `width` hexadecimal digits, in small letters. -/
def hex (width n : Nat) : Text := padLeft width '0' (Nat.toDigits 16 n)

/-- The value of a hexadecimal digit. -/
def hexDigit? (c : Char) : Option Nat :=
  if c.isDigit then some (c.toNat - 48)
  else if 'a' ≤ c ∧ c ≤ 'f' then some (c.toNat - 87)
  else if 'A' ≤ c ∧ c ≤ 'F' then some (c.toNat - 55)
  else none

/-- The value of some hexadecimal digits. -/
def hexValue? (digits : Text) : Option Nat :=
  digits.foldl (fun value c => do return 16 * (← value) + (← hexDigit? c)) (some 0)

/-! ## Numbers that are too long -/

/-- The greatest number of digits of a number that is read or written. -/
def maxDigits : Nat := 4300

/-- Whether a number has more digits than may be written. -/
def isTooLong (n : Int) : Bool := Nat.pow 10 maxDigits ≤ n.natAbs

/-- A number with more than `maxDigits` digits, which was to be read or to be written. -/
inductive TooLong where
  | read (digits : Nat)
  | written
  deriving DecidableEq

/-- The complaint about a number that is too long. -/
def TooLong.message (e : TooLong) : Text :=
  let found : Text :=
    match e with
    | .read digits => ": value has " ++ ofNat digits ++ " digits"
    | .written => ""
  "Exceeds the limit (" ++ ofNat maxDigits ++ " digits) for integer string conversion" ++ found ++
    "; use sys.set_int_max_str_digits() to increase the limit"

end StructForge.Text
