import LedStudio.Text.Half
import LedStudio.Text.Printable

/-!
# Quoted text

A text as it is quoted in a message: between apostrophes, or between quotation marks where it
holds an apostrophe and no quotation mark. The mark itself, the backslash and everything that
cannot be shown are escaped.
-/

namespace LedStudio.Text

def apostrophe : Char := '\x27'

def quotationMark : Char := '\x22'

def backslash : Char := '\x5c'

/-- The last `width` hexadecimal digits of a number, in small letters. -/
def hexDigits : Nat → Nat → List Char
  | 0, _ => []
  | width + 1, n => hexDigits width (n / 16) ++ [Nat.digitChar (n % 16)]

/-- The mark that a text is quoted with. -/
def quoteMark (s : List Char) : Char :=
  if s.contains apostrophe && !s.contains quotationMark then quotationMark else apostrophe

/-- One character between two marks. -/
def escapeChar (mark c : Char) : List Char :=
  if c = mark ∨ c = backslash then [backslash, c]
  else if c = '\n' then [backslash, 'n']
  else if c = '\r' then [backslash, 'r']
  else if c = '\t' then [backslash, 't']
  else if isPrintable c then [c]
  else if c.toNat < 0x100 then backslash :: 'x' :: hexDigits 2 c.toNat
  else if c.toNat < 0x10000 then backslash :: 'u' :: hexDigits 4 c.toNat
  else backslash :: 'U' :: hexDigits 8 c.toNat

/-- The text between its marks. -/
def quote (s : List Char) : List Char :=
  let mark := quoteMark s
  mark :: s.flatMap (escapeChar mark) ++ [mark]

/-- A string between quotes. -/
def quoted (s : String) : String := .ofList (quote s.toList)

/-- One code point between two marks; a half character is escaped. -/
def escapePoint (mark : Char) (point : Nat) : List Char :=
  if isHalf point then backslash :: 'u' :: hexDigits 4 point else escapeChar mark (.ofNat point)

/-- A row of code points between quotes. -/
def quotedPoints (points : List Nat) : String :=
  let mark := quoteMark (shownPoints points).toList
  .ofList (mark :: points.flatMap (escapePoint mark) ++ [mark])

/-- One byte between two marks; bytes are shown as the ASCII characters that they are. -/
def escapeByte (mark : Char) (b : UInt8) : List Char :=
  if 0x20 ≤ b ∧ b < 0x7f ∨ b = 0x09 ∨ b = 0x0a ∨ b = 0x0d then escapeChar mark (.ofNat b.toNat)
  else backslash :: 'x' :: hexDigits 2 b.toNat

/-- Bytes between quotes, with a letter in front. -/
def quotedBytes (bytes : List UInt8) : String :=
  let mark := quoteMark (bytes.map fun b => .ofNat b.toNat)
  .ofList ('b' :: mark :: bytes.flatMap (escapeByte mark) ++ [mark])

end LedStudio.Text
