/-!
# Dates and times

Days of the calendar that runs from the year 1 to the year 9999, and points in time on them, with or
without an offset from universal time.

- `Moment.iso`: the text of a date or a time with a `T` between the two parts.
- `Moment.isSame`: whether two dates or times are the same one, whatever their offsets.
-/

namespace Stencil.Calendar

/-- A day. -/
structure Date where
  /-- The year. -/
  year : Nat
  /-- The month, from 1. -/
  month : Nat
  /-- The day of the month, from 1. -/
  day : Nat
  deriving DecidableEq, Repr, Inhabited

/-- Whether a year has a 29th of February. -/
def isLeap (year : Nat) : Bool := year % 4 = 0 && (year % 100 ≠ 0 || year % 400 = 0)

/-- The number of days of a month. -/
def daysIn (year month : Nat) : Nat :=
  if month = 2 then if isLeap year then 29 else 28
  else if month = 4 ∨ month = 6 ∨ month = 9 ∨ month = 11 then 30
  else 31

/-- A point in time. -/
structure Timestamp where
  /-- The day. -/
  date : Date
  /-- The hour. -/
  hour : Nat
  /-- The minute. -/
  minute : Nat
  /-- The second. -/
  second : Nat
  /-- The millionth of a second. -/
  micro : Nat
  /-- Seconds ahead of universal time, if that is known. -/
  offset? : Option Int
  deriving DecidableEq, Repr, Inhabited

/-- Why numbers are no date or time. -/
inductive MomentFault where
  | year | month | day | hour | minute | second
  /-- An offset of a day or more. -/
  | offset (seconds : Int)
  deriving DecidableEq, Repr, Inhabited

/-- What is wrong with the numbers of a date, if anything is. -/
def Date.fault? (d : Date) : Option MomentFault :=
  if d.year < 1 ∨ 9999 < d.year then some .year
  else if d.month < 1 ∨ 12 < d.month then some .month
  else if d.day < 1 ∨ daysIn d.year d.month < d.day then some .day
  else none

/-- Whether an offset is that of no place: a day or more. -/
def isFarOffset (offset : Int) : Bool := 86400 ≤ offset.natAbs

/-- What is wrong with the numbers of a point in time, if anything is. The offset is looked at
first. -/
def Timestamp.fault? (t : Timestamp) : Option MomentFault :=
  if t.offset?.any isFarOffset then some (.offset (t.offset?.getD 0))
  else t.date.fault?.or <|
    if 23 < t.hour then some .hour
    else if 59 < t.minute then some .minute
    else if 59 < t.second then some .second
    else none

/-! ## Days and instants -/

/-- The number of days of the years before one. -/
def daysBeforeYear (year : Nat) : Nat :=
  let before := year - 1
  365 * before + before / 4 - before / 100 + before / 400

/-- The number of days up to a day, from the first day of the calendar on. -/
def Date.ordinal (d : Date) : Nat :=
  let months := (List.range (d.month - 1)).map fun m => daysIn d.year (m + 1)
  daysBeforeYear d.year + months.foldl (· + ·) 0 + d.day

/-- The millionths of a second up to a point in time. Without an offset it is taken as universal
time. -/
def Timestamp.instant (t : Timestamp) : Int :=
  let seconds := t.date.ordinal * 86400 + t.hour * 3600 + t.minute * 60 + t.second
  ((seconds : Int) - t.offset?.getD 0) * 1000000 + t.micro

/-- Whether two points in time have an offset or both have none. -/
def Timestamp.isLike (t u : Timestamp) : Bool := t.offset?.isSome == u.offset?.isSome

/-! ## Texts -/

/-- A number with zeros in front. -/
def padded (width n : Nat) : List Char :=
  let digits := (toString n).toList
  List.replicate (width - digits.length) '0' ++ digits

/-- A date as year, month and day with hyphens. -/
def Date.iso (d : Date) : List Char :=
  padded 4 d.year ++ ['-'] ++ padded 2 d.month ++ ['-'] ++ padded 2 d.day

/-- An offset as hours and minutes, and seconds if there are any. -/
def offsetText (offset : Int) : List Char :=
  let n := offset.natAbs
  (if offset < 0 then '-' else '+') :: padded 2 (n / 3600) ++ [':'] ++ padded 2 (n / 60 % 60)
    ++ (if n % 60 = 0 then [] else ':' :: padded 2 (n % 60))

/-- A point in time with some character between its date and its time. -/
def Timestamp.iso (separator : Char) (t : Timestamp) : List Char :=
  t.date.iso ++ [separator] ++ padded 2 t.hour ++ [':'] ++ padded 2 t.minute ++ [':']
    ++ padded 2 t.second ++ (if t.micro = 0 then [] else '.' :: padded 6 t.micro)
    ++ (t.offset?.map offsetText).getD []

/-- A day or a point in time. -/
inductive Moment where
  /-- A day. -/
  | date (d : Date)
  /-- A point in time. -/
  | timestamp (t : Timestamp)
  deriving DecidableEq, Repr, Inhabited

namespace Moment

/-- Whether two moments are the same. A date is no point in time, and one with an offset is not the
same as one without. -/
def isSame : Moment → Moment → Bool
  | date d, date e => d = e
  | timestamp t, timestamp u => t.isLike u && t.instant = u.instant
  | _, _ => false

/-- The text of a date or a time. -/
def iso : Moment → List Char
  | date d => d.iso
  | timestamp t => t.iso 'T'

/-- The text of a date or a time for people. -/
def display : Moment → List Char
  | date d => d.iso
  | timestamp t => t.iso ' '

/-- Numbers with commas between them. -/
def commaSeparated (ns : List Nat) : String := ", ".intercalate (ns.map toString)

/-- A number of seconds as an expression. -/
def secondsExpression (n : Int) : String :=
  let days := n.fdiv 86400
  let seconds := n.fmod 86400
  let parts := (if days = 0 then [] else [s!"days={days}"])
    ++ (if seconds = 0 then [] else [s!"seconds={seconds}"])
  "datetime.timedelta(" ++ (if n = 0 then "0" else ", ".intercalate parts) ++ ")"

/-- An offset as an expression. -/
def offsetExpression (offset : Int) : String :=
  if offset = 0 then "datetime.timezone.utc"
  else "datetime.timezone(" ++ secondsExpression offset ++ ")"

/-- A date or a time as an expression. -/
def expression : Moment → List Char
  | date d => ("datetime.date(" ++ commaSeparated [d.year, d.month, d.day] ++ ")").toList
  | timestamp t =>
    let numbers := [t.date.year, t.date.month, t.date.day, t.hour, t.minute]
      ++ (if t.micro ≠ 0 then [t.second, t.micro] else if t.second ≠ 0 then [t.second] else [])
    let zone := match t.offset? with
      | some o => ", tzinfo=" ++ offsetExpression o
      | none => ""
    ("datetime.datetime(" ++ commaSeparated numbers ++ zone ++ ")").toList

end Moment

/-- The words for a fault. A year is shown with the message. -/
def MomentFault.message (year : Nat) : MomentFault → String
  | .year => s!"year {year} is out of range"
  | month => "month must be in 1..12"
  | day => "day is out of range for month"
  | hour => "hour must be in 0..23"
  | minute => "minute must be in 0..59"
  | second => "second must be in 0..59"
  | offset seconds =>
    "offset must be a timedelta strictly between -timedelta(hours=24) and timedelta(hours=24), not "
      ++ Moment.secondsExpression seconds ++ "."

end Stencil.Calendar
