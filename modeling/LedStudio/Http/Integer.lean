import LedStudio.Json.Basic
import LedStudio.Number.Mixed

/-!
# Integers of the web interface

A field that has to be an integer may also be given as a truth value, as a number without a fraction
or as a text. A text that is no plain integer is tidied up once: white space around it, a plus sign,
a fraction of zeros, zeros in front and single underscores inside go away.
-/

namespace LedStudio.Http

open Numeral (Spelling)

/-- The text behind a minus sign, and whether there is one. -/
def takeMinus : List Char → Bool × List Char
  | '-' :: rest => (true, rest)
  | s => (false, s)

/-- A plain integer: a minus sign perhaps, and a zero alone or ASCII digits that begin with another
one. Too many digits are refused whatever follows them. -/
def plainInt (s : List Char) : Spelling :=
  let (negative, unsigned) := takeMinus s
  let digits := unsigned.takeWhile Char.isDigit
  match digits with
  | [] => .malformed
  | first :: more =>
    if first = '0' && !more.isEmpty then .malformed
    else if Numeral.digitLimit < digits.length then .overlong digits.length
    else if digits.length < unsigned.length then .malformed
    else .integer (Numeral.withSign negative (Text.ofDigits 10 (Numeral.takeDigits digits).1))

/-- The text without a plus sign, which no minus sign may follow. -/
def withoutPlus : List Char → Option (List Char)
  | '+' :: '-' :: _ => none
  | '+' :: rest => some rest
  | s => some s

/-- The text without a fraction; a fraction has to be one zero or more. -/
def withoutFraction (s : List Char) : Option (List Char) :=
  let whole := s.takeWhile (· ≠ '.')
  match s.drop whole.length with
  | [] => some s
  | _ :: zeros => if !zeros.isEmpty && zeros.all (· = '0') then some whole else none

/-- The text behind its first zero, less the zeros and underscores that follow; of these the last
one stays when nothing else is there. -/
def afterZeros : (last : Char) → List Char → Option (List Char)
  | last, [] => some [last]
  | _, c :: rest =>
    if c = '0' ∨ c = '_' then afterZeros c rest
    else if c.isDigit ∨ c = '-' then some (c :: rest)
    else none

/-- The unsigned text without zeros in front. It has to begin with a digit. -/
def withoutZeros : List Char → Option (List Char)
  | [] => none
  | c :: rest =>
    if c = '0' then afterZeros c rest
    else if c.isDigit then some (c :: rest)
    else none

/-- The text with a sign perhaps, without zeros in front. -/
def withoutSignedZeros (s : List Char) : Option (List Char) :=
  let (negative, unsigned) := takeMinus s
  (withoutZeros unsigned).map fun rest => if negative then '-' :: rest else rest

/-- Two underscores stand side by side. -/
def hasDoubleUnderscore : List Char → Bool
  | '_' :: '_' :: _ => true
  | _ :: rest => hasDoubleUnderscore rest
  | [] => false

/-- The text without its underscores, if they are single ones inside of it. -/
def withoutUnderscores (s : List Char) : List Char :=
  if s.head? = some '_' ∨ s.getLast? = some '_' ∨ hasDoubleUnderscore s then s
  else s.filter (· ≠ '_')

/-- The text tidied up. -/
def tidyInt (s : List Char) : Option (List Char) :=
  (((withoutPlus s).bind withoutFraction).bind withoutSignedZeros).map withoutUnderscores

/-- How a text spells an integer. Only of a text that is taken as it stands it is said that it has
too many digits. -/
def spellInt (s : String) : Spelling :=
  match plainInt s.toList with
  | .malformed =>
    match (tidyInt (Text.trimBy Text.isSpace s.toList)).map plainInt with
    | some (.integer n) => .integer n
    | _ => .malformed
  | spelling => spelling

/-- What is wrong with an integer. -/
inductive IntegerError where
  | fraction
  | notFinite
  | malformed
  | tooLarge
  | notUnicode
  | wrongType
  deriving DecidableEq, Repr

namespace IntegerError

/-- The name of the error. -/
def kind : IntegerError → String
  | fraction => "int_from_float"
  | notFinite => "finite_number"
  | malformed => "int_parsing"
  | tooLarge => "int_parsing_size"
  | notUnicode => "string_unicode"
  | wrongType => "int_type"

def message : IntegerError → String
  | fraction => "Input should be a valid integer, got a number with a fractional part"
  | notFinite => "Input should be a finite number"
  | malformed => "Input should be a valid integer, unable to parse string as an integer"
  | tooLarge => "Unable to parse input string as an integer, exceeded maximum size"
  | notUnicode => "Input should be a valid string, unable to parse raw data as a unicode string"
  | wrongType => "Input should be a valid integer"

end IntegerError

/-- A double without a fraction has to lie between two bounds to be taken for an integer. -/
def wholeBound : Int := Nat.pow 2 63

/-- The integer that a double is. -/
def wholeNumber : Double → Except IntegerError Int
  | .finite q =>
    if !q.isInt then .error .fraction
    else if -wholeBound < q.num ∧ q.num < wholeBound then .ok q.num
    else .error .tooLarge
  | .negZero => .ok 0
  | _ => .error .notFinite

/-- The integer that a value is, or what is wrong with it. -/
def readInteger : Json → Except IntegerError Int
  | .int n => .ok n
  | .bool b => .ok (if b then 1 else 0)
  | .float x => wholeNumber x
  | .text s =>
    match spellInt s with
    | .integer n => .ok n
    | .overlong _ => .error .tooLarge
    | .malformed => .error .malformed
  | .brokenText _ => .error .notUnicode
  | _ => .error .wrongType

end LedStudio.Http
