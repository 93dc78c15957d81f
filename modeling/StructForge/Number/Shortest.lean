import StructForge.Number.Double
import StructForge.Text.Figures

/-!
# The shortest decimal text of a double

Of all decimal fractions that round to a double, the text has one with the fewest digits, and the nearest to the
double among those. `shortest` tries the grids of 1, 2, … 17 digits and takes the first on which a neighbour of
the value lies in the interval of reals that round to it.
-/

namespace StructForge.Number.Double

open Text

/-! ## Digits -/

/-- `10 ^ e` as a quotient. -/
def powerOfTen (e : Int) : Nat × Nat :=
  match e with
  | .ofNat k => (Nat.pow 10 k, 1)
  | .negSucc k => (1, Nat.pow 10 (k + 1))

/-- The reals that round to a finite double that is not 0: those from `low / den` to `high / den`, around the double
itself, `value / den`. The ends are among them if the interval is closed. -/
structure Interval where
  low : Nat
  value : Nat
  high : Nat
  den : Nat
  closed : Bool

/-- The interval of a mantissa and an exponent, in quarters of the last place: half a place to each side, but a
quarter below a power of two, where doubles lie twice as dense. The ends belong to an even mantissa. -/
def interval (mantissa : Nat) (exponent : Int) : Interval :=
  let narrow := mantissa = Nat.pow 2 52 && exponent > -1074
  let (num, den) :=
    match exponent with
    | .ofNat k => (Nat.pow 2 k, 1)
    | .negSucc k => (1, Nat.pow 2 (k + 1))
  let low := if narrow then 4 * mantissa - 1 else 4 * mantissa - 2
  ⟨low * num, 4 * mantissa * num, (4 * mantissa + 2) * num, 4 * den, mantissa % 2 = 0⟩

/-- Whether `n · 10 ^ e` lies in the interval. -/
def Interval.holds (i : Interval) (n : Nat) (e : Int) : Bool :=
  let (num, den) := powerOfTen e
  let x := n * num * i.den
  if i.closed then i.low * den ≤ x && x ≤ i.high * den else i.low * den < x && x < i.high * den

/-- The multiples of `10 ^ e` next to the value, and whether the lower one is nearer. -/
def Interval.neighbours (i : Interval) (e : Int) : Nat × Nat × Bool :=
  let (num, den) := powerOfTen e
  let lower := (i.value * den) / (i.den * num)
  let rest := (i.value * den) % (i.den * num)
  (lower, lower + 1, 2 * rest < i.den * num || (2 * rest = i.den * num && lower % 2 = 0))

/-- The multiple of `10 ^ e` that lies in the interval, the nearer one of two. -/
def Interval.onGrid? (i : Interval) (e : Int) : Option Nat :=
  let (lower, upper, lowerNearer) := i.neighbours e
  match i.holds lower e && lower ≠ 0, i.holds upper e with
  | true, true => some (if lowerNearer then lower else upper)
  | true, false => some lower
  | false, true => some upper
  | false, false => none

/-- The least `e` with `value < 10 ^ e`: how many digits stand in front of the point. -/
def Interval.pointPlace (i : Interval) : Int :=
  let guess : Int := ((Nat.toDigits 10 i.value).length : Int) - ((Nat.toDigits 10 i.den).length : Int)
  let (num, den) := powerOfTen guess
  if i.value * den < num * i.den then guess else guess + 1

/-- The first grid of at least `17 - left` digits with a point of the interval: the point, and the grid's power of
ten. -/
def Interval.firstGrid (i : Interval) (place : Int) : (left : Nat) → Nat × Int
  | 0 => ((i.neighbours (place - 17)).1, place - 17)
  | left + 1 =>
    let e := place - (17 - left : Nat)
    match i.onGrid? e with
    | some n => (n, e)
    | none => i.firstGrid place left

/-- The digits of the shortest decimal fraction, without zeros at the end, and the place of the point behind the
first of them. -/
def shortest (mantissa : Nat) (exponent : Int) : Text × Int :=
  let i := interval mantissa exponent
  let (n, e) := i.firstGrid i.pointPlace 17
  let digits := ofNat n
  (dropEndWhile (· = '0') digits, (digits.length : Int) + e)

/-! ## Text -/

/-- Digits with a point behind the first `place` of them, and zeros where there are none. -/
def positional (digits : Text) (place : Int) : Text :=
  match place with
  | .ofNat 0 => "0." ++ digits
  | .ofNat k =>
    let whole := digits.take k ++ List.replicate (k - digits.length) '0'
    let fraction := digits.drop k
    whole ++ "." ++ (if fraction.isEmpty then ['0'] else fraction)
  | .negSucc k => "0." ++ List.replicate (k + 1) '0' ++ digits

/-- Digits with a point behind the first, and the power of ten in at least two digits. -/
def scientific (digits : Text) (place : Int) : Text :=
  let power := place - 1
  let sign : Text := if power < 0 then "-" else "+"
  let fraction := if digits.length > 1 then "." ++ digits.drop 1 else []
  digits.take 1 ++ fraction ++ "e" ++ sign ++ padLeft 2 '0' (ofNat power.natAbs)

/-- The text of a double: positional from `0.0001` to below `10 ^ 16`, and with a power of ten outside. -/
def text : Double → Text
  | .notANumber => "nan"
  | .infinite negative => if negative then "-inf" else "inf"
  | .finite negative mantissa exponent =>
    let sign : Text := if negative then "-" else ""
    if mantissa = 0 then sign ++ "0.0"
    else
      let (digits, place) := shortest mantissa exponent
      sign ++ (if -4 < place && place ≤ 16 then positional digits place else scientific digits place)

end StructForge.Number.Double
