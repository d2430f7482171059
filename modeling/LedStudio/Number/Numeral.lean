import LedStudio.Number.Shortest
import LedStudio.Text.Blank
import LedStudio.Text.Digit

/-!
# Numerals

Integers and decimal numbers as they are read from text.
-/

namespace LedStudio

namespace Numeral

/-- Splits off a sign; `true` stands for minus. -/
def takeSign : List Char → Bool × List Char
  | '-' :: rest => (true, rest)
  | '+' :: rest => (false, rest)
  | rest => (false, rest)

def withSign (negative : Bool) (n : Nat) : Int := if negative then -n else n

/-- The digits after a first one; a single underscore may stand between two digits. -/
def moreDigits? (digit? : Char → Option Nat) : List Char → Option (List Nat)
  | [] => some []
  | '_' :: c :: rest =>
    match digit? c with
    | some d => (moreDigits? digit? rest).map (d :: ·)
    | none => none
  | c :: rest =>
    match digit? c with
    | some d => (moreDigits? digit? rest).map (d :: ·)
    | none => none

/-- A row of digits, at least one, with single underscores between them. -/
def digits? (digit? : Char → Option Nat) : List Char → Option (List Nat)
  | [] => none
  | c :: rest =>
    match digit? c with
    | some d => (moreDigits? digit? rest).map (d :: ·)
    | none => none

/-- The greatest number of decimal digits that an integer is read from. -/
def digitLimit : Nat := 4300

/-- The text with the decimal digits of every script in ASCII. -/
def plainDigits (s : List Char) : List Char :=
  s.map fun c =>
    match Text.digitValue? c with
    | some d => Nat.digitChar d
    | none => c

/-- The letter behind a zero that marks a base. -/
def baseMark? : Nat → Option Char
  | 2 => some 'b'
  | 8 => some 'o'
  | 16 => some 'x'
  | _ => none

/-- The text without the mark of a base in front, which an underscore may follow. -/
def dropBaseMark (base : Nat) (s : List Char) : List Char :=
  match s with
  | '0' :: mark :: rest =>
    if baseMark? base = some mark.toLower then (if rest.head? = some '_' then rest.tail else rest)
    else s
  | _ => s

/-- How a text spells an integer, if it does. -/
inductive Spelling where
  | integer (n : Int)
  /-- There are more digits than may be read. -/
  | overlong (digits : Nat)
  | malformed
  deriving DecidableEq, Repr

/-- An integer in a base, without anything around it: one sign at most, perhaps the mark of the
base, and ASCII digits with single underscores between them. Only decimal digits are limited. -/
def spellTrimmed (base : Nat) (s : List Char) : Spelling :=
  let (negative, rest) := takeSign s
  let rest := dropBaseMark base rest
  let inRow (c : Char) : Bool := (Text.asciiDigit? base c).isSome || c = '_'
  match digits? (Text.asciiDigit? base) (rest.takeWhile inRow) with
  | none => .malformed
  | some digits =>
    if base = 10 ∧ digitLimit < digits.length then .overlong digits.length
    else if (rest.dropWhile inRow).isEmpty then
      .integer (withSign negative (Text.ofDigits base digits))
    else .malformed

/-- An integer in a base, perhaps with white space around it; its digits may be of any script. -/
def spell (base : Nat) (s : List Char) : Spelling :=
  spellTrimmed base (plainDigits (Text.trimBy Text.isSpace s))

/-- White space among bytes. -/
def isAsciiSpace (c : Char) : Bool := c = ' ' || ('\t' ≤ c && c ≤ '\r')

/-- An integer in bytes, perhaps with white space around it; its digits are those of ASCII. -/
def spellBytes (base : Nat) (bytes : List UInt8) : Spelling :=
  spellTrimmed base (Text.trimBy isAsciiSpace (bytes.map fun b => .ofNat b.toNat))

/-- The leading ASCII digits of a text, and what follows them. -/
def takeDigits (s : List Char) : List Nat × List Char :=
  ((s.takeWhile Char.isDigit).map fun c => c.toNat - '0'.toNat, s.dropWhile Char.isDigit)

/-- An exponent part, which may be missing. -/
def exponent? : List Char → Option Int
  | [] => some 0
  | c :: rest =>
    if c = 'e' ∨ c = 'E' then
      let (negative, rest) := takeSign rest
      match takeDigits rest with
      | (d :: digits, []) => some (withSign negative (Text.ofDigits 10 (d :: digits)))
      | _ => none
    else none

end Numeral

namespace Double

/-- The double nearest to `digits` times ten to the power `exponent`. A number of more than 400
digits before the point is infinite, and one of more than 400 zeros after it vanishes. -/
def ofDecimal (negative : Bool) (digits : Nat) (exponent : Int) : Double :=
  let size := digitCount digits + exponent
  if digits = 0 ∨ size < -400 then zero negative
  else if 400 < size then infinite negative
  else
    let x := ofRat (digits * tenPow exponent)
    if negative then x.neg else x

/-- Reads a decimal number without a sign: digits, a point among them perhaps, and an exponent. -/
def ofUnsigned? (negative : Bool) (s : List Char) : Option Double :=
  let (whole, rest) := Numeral.takeDigits s
  let (fraction, rest) :=
    match rest with
    | '.' :: rest => Numeral.takeDigits rest
    | rest => ([], rest)
  if whole.isEmpty && fraction.isEmpty then none
  else
    (Numeral.exponent? rest).map fun exponent =>
      ofDecimal negative (Text.ofDigits 10 (whole ++ fraction)) (exponent - fraction.length)

/-- A decimal number in small letters: white space around it, one sign at most, digits of any
script, or the name of what is infinite or no number. -/
def spelled? (s : List Char) : Option Double :=
  let (negative, rest) := Numeral.takeSign (Numeral.plainDigits (Text.trimBy Text.isSpace s))
  if rest = "nan".toList then some nan
  else if rest = "inf".toList ∨ rest = "infinity".toList then some (infinite negative)
  else ofUnsigned? negative rest

/-- Reads what `text` writes, and every other decimal number. -/
def ofText? (s : List Char) : Option Double :=
  let (negative, rest) := Numeral.takeSign s
  if rest = "nan".toList then some nan
  else if rest = "inf".toList then some (infinite negative)
  else ofUnsigned? negative rest

end Double
end LedStudio
