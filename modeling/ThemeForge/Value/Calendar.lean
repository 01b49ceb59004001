import ThemeForge.Text.Code

/-!
# Dates and times

Days of the Gregorian calendar and moments with microseconds, with or without an offset from
universal time, and their written forms.

* `Date.make?`, `Moment.make?`: values in range;
* `Date.text`, `Moment.text`: year-month-day order, the two parts of a moment being joined by a
  given separator.
-/

namespace ThemeForge

/-- A day. -/
structure Date where
  year : Nat
  month : Nat
  day : Nat
deriving DecidableEq, Repr

/-- A day and a time of day; `offset` is the distance from universal time in seconds. -/
structure Moment where
  date : Date
  hour : Nat
  minute : Nat
  second : Nat
  micro : Nat
  offset : Option Int
deriving DecidableEq, Repr

namespace Date

/-- Leap years. -/
def isLeap (year : Nat) : Bool := year % 4 == 0 && (year % 100 != 0 || year % 400 == 0)

/-- The number of days of a month. -/
def monthLength (year month : Nat) : Nat :=
  if month = 2 then (if isLeap year then 29 else 28)
  else if month = 4 ∨ month = 6 ∨ month = 9 ∨ month = 11 then 30 else 31

/-- Why there is no such date or time. -/
inductive Fault
  | year (n : Nat)
  | month
  | day
  | hour
  | minute
  | second
deriving DecidableEq, Repr

/-- The wording of a fault. -/
def Fault.message : Fault → Text
  | .year n => "year " ++ Text.ofNat n ++ " is out of range"
  | .month => "month must be in 1..12"
  | .day => "day is out of range for month"
  | .hour => "hour must be in 0..23"
  | .minute => "minute must be in 0..59"
  | .second => "second must be in 0..59"

/-- The day of a year, month and day, if there is one. -/
def make? (year month day : Nat) : Except Fault Date :=
  if year < 1 ∨ 9999 < year then .error (.year year)
  else if month < 1 ∨ 12 < month then .error .month
  else if day < 1 ∨ monthLength year month < day then .error .day
  else .ok ⟨year, month, day⟩

/-- The number of days before the first of January of a year. -/
def daysBeforeYear (year : Nat) : Nat :=
  let y := year - 1
  y * 365 + y / 4 - y / 100 + y / 400

/-- The number of a day, counted from the first day of the first year. -/
def ordinal (d : Date) : Nat :=
  let months := List.range (d.month - 1)
  daysBeforeYear d.year + months.foldr (fun m n => monthLength d.year (m + 1) + n) 0 + d.day

/-- The written form. -/
def text (d : Date) : Text :=
  Text.padLeft 4 '0' (Text.ofNat d.year) ++ "-" ++ Text.padLeft 2 '0' (Text.ofNat d.month) ++ "-"
    ++ Text.padLeft 2 '0' (Text.ofNat d.day)

end Date

namespace Moment

/-- The moment of a day and a time, if there is one. -/
def make? (date : Date) (hour minute second micro : Nat) (offset : Option Int) :
    Except Date.Fault Moment :=
  if hour > 23 then .error .hour
  else if minute > 59 then .error .minute
  else if second > 59 then .error .second
  else .ok ⟨date, hour, minute, second, micro, offset⟩

/-- Two digits. -/
def two (n : Nat) : Text := Text.padLeft 2 '0' (Text.ofNat n)

/-- The written form of an offset. -/
def offsetText (seconds : Int) : Text :=
  let n := seconds.natAbs
  Text.concat [if seconds < 0 then "-" else "+", two (n / 3600), ":", two (n / 60 % 60),
    if n % 60 = 0 then "" else Text.concat [":", two (n % 60)]]

/-- The written form, with `separator` between day and time. -/
def text (separator : Code) (m : Moment) : Text :=
  Text.concat [m.date.text, [separator], two m.hour, ":", two m.minute, ":", two m.second,
    if m.micro = 0 then "" else Text.concat [".", Text.padLeft 6 '0' (Text.ofNat m.micro)],
    match m.offset with
    | none => ""
    | some seconds => offsetText seconds]

/-- Microseconds since the start of the calendar, in universal time. -/
def instant (m : Moment) : Int :=
  (((m.date.ordinal * 24 + m.hour) * 60 + m.minute) * 60 + m.second : Nat) * 1000000
    + m.micro - m.offset.getD 0 * 1000000

end Moment

end ThemeForge
