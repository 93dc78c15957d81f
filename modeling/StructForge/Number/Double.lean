/-!
# Double-precision numbers

A double is `± mantissa · 2 ^ exponent` with a mantissa below `2 ^ 53` and an exponent of at least `-1074`, or
infinite, or not a number. `Double.ofDecimal` rounds a decimal fraction to the nearest double, to the one with an
even mantissa where two are equally near.

All arithmetic is on natural numbers: a value is a quotient of two of them.
-/

namespace StructForge.Number

/-- A double-precision number. -/
inductive Double where
  | finite (negative : Bool) (mantissa : Nat) (exponent : Int)
  | infinite (negative : Bool)
  | notANumber
  deriving DecidableEq

namespace Double

/-! ## Quotients -/

/-- The quotient, rounded to the nearest natural number and to the even one of two. -/
def roundedDiv (num den : Nat) : Nat :=
  let q := num / den
  let r := 2 * (num % den)
  if r < den then q else if den < r then q + 1 else if q % 2 = 0 then q else q + 1

/-- `num / den · 2 ^ (-e)` as a quotient. -/
def scaled (num den : Nat) (e : Int) : Nat × Nat :=
  match e with
  | .ofNat k => (num, den * Nat.pow 2 k)
  | .negSucc k => (num * Nat.pow 2 (k + 1), den)

/-- The exponent at which the mantissa of `num / den` has 53 bits, or the least exponent there is. -/
def exponentOf (num den : Nat) : Int :=
  let guess : Int := (num.log2 : Int) - (den.log2 : Int) - 52
  let (n, d) := scaled num den guess
  max (if n < d * Nat.pow 2 52 then guess - 1 else guess) (-1074)

/-- The double nearest to `± num / den`, where `den` is not 0. -/
def ofQuotient (negative : Bool) (num den : Nat) : Double :=
  if num = 0 then .finite negative 0 (-1074)
  else
    let e := exponentOf num den
    let (n, d) := scaled num den e
    let m := roundedDiv n d
    let (mantissa, exponent) := if m = Nat.pow 2 53 then (Nat.pow 2 52, e + 1) else (m, e)
    if exponent > 971 then .infinite negative else .finite negative mantissa exponent

/-! ## Decimal fractions -/

/-- The double nearest to `± digits · 10 ^ exponent`. Values that are far too great or small are not computed. -/
def ofDecimal (negative : Bool) (digits : Nat) (exponent : Int) : Double :=
  let size : Int := (Nat.toDigits 10 digits).length + exponent
  if digits = 0 || size < -400 then .finite negative 0 (-1074)
  else if size > 400 then .infinite negative
  else
    match exponent with
    | .ofNat k => ofQuotient negative (digits * Nat.pow 10 k) 1
    | .negSucc k => ofQuotient negative digits (Nat.pow 10 (k + 1))

/-- Whether the number is whole. -/
def isWhole : Double → Bool
  | .finite _ mantissa exponent =>
    match exponent with
    | .ofNat _ => true
    | .negSucc k => mantissa % Nat.pow 2 (k + 1) = 0
  | .infinite _ | .notANumber => false

end Double

end StructForge.Number
