import StructForge.Text.Figures

/-!
# Dates and times

Dates of the Gregorian calendar, times of a day, and both together with an offset from universal time. They are
written in two ways: as they are read, and as a construction from their parts.
-/

namespace StructForge.Settings

open Text

/-- A date. -/
structure Date where
  year : Nat
  month : Nat
  day : Nat
  deriving DecidableEq

/-- A time of a day. -/
structure Time where
  hour : Nat
  minute : Nat
  second : Nat
  microsecond : Nat
  deriving DecidableEq

/-- A date and time; the offset from universal time is in minutes. -/
structure DateTime where
  date : Date
  time : Time
  offset : Option Int
  deriving DecidableEq

/-- Whether a year has 366 days. -/
def isLeapYear (year : Nat) : Bool := year % 4 = 0 && (year % 100 ≠ 0 || year % 400 = 0)

/-- The number of days of a month. -/
def daysIn (year month : Nat) : Nat :=
  if month = 2 then if isLeapYear year then 29 else 28
  else if month = 4 || month = 6 || month = 9 || month = 11 then 30
  else 31

/-- Whether a date is in the calendar, which starts with the year 1. -/
def Date.isValid (d : Date) : Bool :=
  1 ≤ d.year && 1 ≤ d.month && d.month ≤ 12 && 1 ≤ d.day && d.day ≤ daysIn d.year d.month

/-- The number of days from the first of January of the year 1 up to a date in the calendar. -/
def Date.dayNumber (d : Date) : Nat :=
  let years := d.year - 1
  let days := (List.range (d.month - 1)).foldl (fun days m => days + daysIn d.year (m + 1)) (d.day - 1)
  365 * years + years / 4 - years / 100 + years / 400 + days

/-- The minute in universal time of a date and time with an offset, counted from the first of January of the year
1. -/
def DateTime.minute (m : DateTime) (offset : Int) : Int :=
  (m.date.dayNumber * 1440 + m.time.hour * 60 + m.time.minute : Nat) - offset

/-- Whether two dates with times are the same. With offsets both, they are if they are the same moment. -/
def DateTime.isSame (a b : DateTime) : Bool :=
  match a.offset, b.offset with
  | some x, some y =>
    a.minute x = b.minute y && a.time.second = b.time.second && a.time.microsecond = b.time.microsecond
  | none, none => a = b
  | _, _ => false

/-! ## As they are read -/

/-- A number in at least `width` digits. -/
def digits (width n : Nat) : Text := padLeft width '0' (ofNat n)

/-- The text of a date. -/
def Date.text (d : Date) : Text := digits 4 d.year ++ "-" ++ digits 2 d.month ++ "-" ++ digits 2 d.day

/-- The text of a time; a fraction only if there is one. -/
def Time.text (t : Time) : Text :=
  let fraction : Text := if t.microsecond = 0 then "" else "." ++ digits 6 t.microsecond
  digits 2 t.hour ++ ":" ++ digits 2 t.minute ++ ":" ++ digits 2 t.second ++ fraction

/-- The text of an offset. -/
def offsetText (minutes : Int) : Text :=
  let sign : Text := if minutes < 0 then "-" else "+"
  sign ++ digits 2 (minutes.natAbs / 60) ++ ":" ++ digits 2 (minutes.natAbs % 60)

/-- The text of a date and time. -/
def DateTime.text (m : DateTime) : Text :=
  m.date.text ++ " " ++ m.time.text ++ (m.offset.map offsetText).getD []

/-! ## As they are constructed -/

/-- A call of a constructor. -/
def call (name : Text) (arguments : List Text) : Text := name ++ "(" ++ join ", " arguments ++ ")"

/-- The parts of a date. -/
def Date.parts (d : Date) : List Text := [d.year, d.month, d.day].map ofNat

/-- The parts of a time: hour and minute, and the smaller ones as far as they are not zero. -/
def Time.parts (t : Time) : List Text :=
  let smaller :=
    if t.microsecond ≠ 0 then [t.second, t.microsecond] else if t.second ≠ 0 then [t.second] else []
  ([t.hour, t.minute] ++ smaller).map ofNat

/-- The construction of a time zone. A negative offset is a day less and some seconds more. -/
def zoneText (minutes : Int) : Text :=
  if minutes = 0 then "datetime.timezone.utc"
  else
    let seconds := ofNat ((minutes.emod 1440) * 60).natAbs
    let difference : List Text :=
      if minutes < 0 then ["days=-1", "seconds=" ++ seconds] else ["seconds=" ++ seconds]
    call "datetime.timezone" [call "datetime.timedelta" difference]

/-- The construction of a date. -/
def Date.shown (d : Date) : Text := call "datetime.date" d.parts

/-- The construction of a time. -/
def Time.shown (t : Time) : Text := call "datetime.time" t.parts

/-- The construction of a date and time. -/
def DateTime.shown (m : DateTime) : Text :=
  let zone : List Text :=
    match m.offset with
    | some minutes => ["tzinfo=" ++ zoneText minutes]
    | none => []
  call "datetime.datetime" (m.date.parts ++ m.time.parts ++ zone)

end StructForge.Settings
