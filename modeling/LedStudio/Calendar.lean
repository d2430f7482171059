/-!
# Days and moments

A day of the years 1 to 9999, and a moment of a day, to the microsecond. A moment may be given with
the offset of its clock from universal time; of two such moments the instants are compared, of two
others the readings.
-/

namespace LedStudio

/-- What is not in its range. -/
inductive CalendarError where
  | year (n : Nat)
  | month | day | hour | minute | second
  /-- An offset of a day or more, in minutes. -/
  | offset (minutes : Int)
  deriving DecidableEq, Repr

structure Date where
  year : Nat
  month : Nat
  day : Nat
  deriving DecidableEq, Repr

structure Moment where
  date : Date
  hour : Nat
  minute : Nat
  second : Nat
  micro : Nat
  /-- How many minutes the clock is ahead of universal time, where that is known. -/
  offset : Option Int
  deriving DecidableEq, Repr

namespace Calendar

/-- A number with zeros in front. -/
def padded (width n : Nat) : String :=
  let s := toString n
  "".pushn '0' (width - s.length) ++ s

/-- A span of minutes as it is inspected: whole days, which may be negative, and seconds. -/
def spanText (minutes : Int) : String :=
  let days := minutes.fdiv 1440
  let seconds := minutes.fmod 1440 * 60
  let parts := (if days = 0 then [] else ["days=" ++ toString days])
    ++ (if seconds = 0 then [] else ["seconds=" ++ toString seconds])
  "datetime.timedelta(" ++ (if parts.isEmpty then "0" else ", ".intercalate parts) ++ ")"

end Calendar

namespace CalendarError

def message : CalendarError → String
  | year n => "year " ++ toString n ++ " is out of range"
  | month => "month must be in 1..12"
  | day => "day is out of range for month"
  | hour => "hour must be in 0..23"
  | minute => "minute must be in 0..59"
  | second => "second must be in 0..59"
  | offset minutes =>
    "offset must be a timedelta strictly between -timedelta(hours=24) and timedelta(hours=24), not "
      ++ Calendar.spanText minutes ++ "."

end CalendarError

namespace Date

def isLeap (year : Nat) : Bool := year % 4 = 0 && (year % 100 ≠ 0 || year % 400 = 0)

/-- The number of days of a month. -/
def daysIn (year month : Nat) : Nat :=
  if month = 2 then (if isLeap year then 29 else 28)
  else if [4, 6, 9, 11].contains month then 30
  else 31

/-- The day with these numbers. -/
def of (year month day : Nat) : Except CalendarError Date :=
  if year = 0 ∨ 9999 < year then .error (.year year)
  else if month = 0 ∨ 12 < month then .error .month
  else if day = 0 ∨ daysIn year month < day then .error .day
  else .ok ⟨year, month, day⟩

/-- The number of days from the beginning of the year 1, this one included. -/
def ordinal (d : Date) : Nat :=
  let past := d.year - 1
  let months := (List.range (d.month - 1)).map fun m => daysIn d.year (m + 1)
  past * 365 + past / 4 - past / 100 + past / 400 + months.foldl (· + ·) 0 + d.day

def text (d : Date) : String :=
  Calendar.padded 4 d.year ++ "-" ++ Calendar.padded 2 d.month ++ "-" ++ Calendar.padded 2 d.day

/-- The numbers of a day in a row. -/
def numbers (d : Date) : List Nat := [d.year, d.month, d.day]

def inspect (d : Date) : String :=
  "datetime.date(" ++ ", ".intercalate (d.numbers.map toString) ++ ")"

end Date

namespace Moment

/-- The moment with these readings. An offset has to be less than a day. -/
def of (year month day hour minute second micro : Nat) (offset : Option Int) :
    Except CalendarError Moment := do
  if let some minutes := offset then
    if 1440 ≤ minutes.natAbs then throw (.offset minutes)
  let date ← Date.of year month day
  if 23 < hour then throw .hour
  if 59 < minute then throw .minute
  if 59 < second then throw .second
  return { date, hour, minute, second, micro, offset }

/-- The microseconds from the beginning of the year 1, by universal time. -/
def instant (m : Moment) (offset : Int) : Int :=
  (((m.date.ordinal * 24 + m.hour) * 60 + m.minute - offset) * 60 + m.second) * 1000000 + m.micro

/-- Two moments are the same. One with an offset never is the same as one without. -/
def same (m n : Moment) : Bool :=
  match m.offset, n.offset with
  | some a, some b => m.instant a == n.instant b
  | none, none => m == n
  | _, _ => false

/-- An offset in hours and minutes. -/
def offsetText (minutes : Int) : String :=
  let size := minutes.natAbs
  (if minutes < 0 then "-" else "+") ++ Calendar.padded 2 (size / 60) ++ ":"
    ++ Calendar.padded 2 (size % 60)

def text (m : Moment) : String :=
  m.date.text ++ " " ++ ":".intercalate ([m.hour, m.minute, m.second].map (Calendar.padded 2))
    ++ (if m.micro = 0 then "" else "." ++ Calendar.padded 6 m.micro)
    ++ (m.offset.map offsetText).getD ""

/-- An offset as it is inspected. -/
def zoneText (minutes : Int) : String :=
  if minutes = 0 then "datetime.timezone.utc"
  else "datetime.timezone(" ++ Calendar.spanText minutes ++ ")"

/-- The readings of a moment in a row; what is zero behind the minutes is left out. -/
def inspect (m : Moment) : String :=
  let readings := m.date.numbers ++ [m.hour, m.minute]
    ++ (if m.second = 0 ∧ m.micro = 0 then [] else [m.second])
    ++ (if m.micro = 0 then [] else [m.micro])
  let zone := (m.offset.map fun minutes => "tzinfo=" ++ zoneText minutes).toList
  "datetime.datetime(" ++ ", ".intercalate (readings.map toString ++ zone) ++ ")"

end Moment
end LedStudio
