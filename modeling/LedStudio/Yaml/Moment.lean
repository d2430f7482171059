import LedStudio.Fault
import LedStudio.Yaml.Cursor

/-!
# Moments in documents

A day is written by its year, month and day. A time may follow it: the hour, the minute and the
second, perhaps a fraction of a second, and perhaps how far the clock is ahead of universal time.
-/

namespace LedStudio.Yaml

/-- A time as it is written. -/
structure WrittenTime where
  hour : Nat
  minute : Nat
  second : Nat
  fraction : List Nat
  /-- The offset in minutes. -/
  offset : Option Int

/-- A day as it is written, perhaps with a time. -/
structure WrittenMoment where
  year : Nat
  month : Nat
  day : Nat
  time : Option WrittenTime

namespace WrittenMoment

/-- A number of so many digits at least and at most, and what follows. -/
def number? (least most : Nat) (s : List Char) : Option (Nat × List Char) :=
  let row := (s.takeWhile Char.isDigit).take most
  if row.length < least then none
  else some (Text.ofDigits 10 (Numeral.takeDigits row).1, s.drop row.length)

/-- What follows a character that has to be there. -/
def after? (c : Char) : List Char → Option (List Char)
  | x :: rest => if x = c then some rest else none
  | [] => none

def isPadding (c : Char) : Bool := c = ' ' || c = '\t'

/-- What follows the mark between a day and a time: a letter, or padding. -/
def afterDay? : List Char → Option (List Char)
  | [] => none
  | c :: rest =>
    if c = 'T' ∨ c = 't' then some rest
    else if isPadding c then some (rest.dropWhile isPadding)
    else none

/-- The offset that ends a time, which may be missing. -/
def offset? (s : List Char) : Option (Option Int) :=
  if s.isEmpty then some none
  else
    match s.dropWhile isPadding with
    | ['Z'] => some (some 0)
    | sign :: rest =>
      if sign = '+' ∨ sign = '-' then do
        let (hours, rest) ← number? 1 2 rest
        let (minutes, rest) ←
          if rest.isEmpty then some (0, []) else (after? ':' rest).bind (number? 2 2)
        if !rest.isEmpty then none
        let size : Int := hours * 60 + minutes
        return some (if sign = '-' then -size else size)
      else none
    | [] => none

/-- A time, up to the end of the text. -/
def time? (s : List Char) : Option WrittenTime := do
  let (hour, s) ← number? 1 2 s
  let (minute, s) ← (after? ':' s).bind (number? 2 2)
  let (second, s) ← (after? ':' s).bind (number? 2 2)
  let (fraction, s) :=
    match s with
    | '.' :: rest => Numeral.takeDigits rest
    | s => ([], s)
  let offset ← offset? s
  return { hour, minute, second, fraction, offset }

/-- A day, perhaps with a time, up to the end of the text. -/
def read? (s : List Char) : Option WrittenMoment := do
  let (year, s) ← number? 4 4 s
  let (month, s) ← (after? '-' s).bind (number? 1 2)
  let (day, s) ← (after? '-' s).bind (number? 1 2)
  if s.isEmpty then return ⟨year, month, day, none⟩
  let time ← (afterDay? s).bind time?
  return ⟨year, month, day, some time⟩

/-- The microseconds of a fraction of a second; what is finer is dropped. -/
def microseconds (fraction : List Nat) : Nat :=
  let digits := fraction.take 6
  Text.ofDigits 10 (digits ++ List.replicate (6 - digits.length) 0)

/-- The day or the moment that is written. -/
def value (w : WrittenMoment) : Except CalendarError Value :=
  match w.time with
  | none => (Date.of w.year w.month w.day).map .date
  | some t =>
    (Moment.of w.year w.month w.day t.hour t.minute t.second (microseconds t.fraction) t.offset).map
      .moment

end WrittenMoment

/-- The text looks like a moment. A day alone has to have all its digits. -/
def looksMoment (s : List Char) : Bool :=
  match WrittenMoment.read? s with
  | some w => w.time.isSome || s.length = 10
  | none => false

/-- The day or the moment that a text spells. -/
def momentOf (s : List Char) : Outcome Value :=
  match WrittenMoment.read? s with
  | none => .error .notAMoment
  | some w => w.value.mapError .notOnCalendar

end LedStudio.Yaml
