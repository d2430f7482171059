import LedStudio.Text.Ranges

/-!
# Blanks

The characters that padding is made of, and texts without their padding.
-/

namespace LedStudio.Text

/-- White space and the four information separators. -/
def blankRanges : CharRanges :=
  [(0x09, 0x0D), (0x1C, 0x20), (0x85, 0x85), (0xA0, 0xA0), (0x1680, 0x1680), (0x2000, 0x200A),
   (0x2028, 0x2029), (0x202F, 0x202F), (0x205F, 0x205F), (0x3000, 0x3000)]

/-- A character that `trim` takes off. The zero-width space is not one. -/
def isBlank (c : Char) : Bool := inRanges blankRanges c

/-- White space proper: a blank other than an information separator. -/
def isSpace (c : Char) : Bool := isBlank c && !(0x1C ≤ c.toNat && c.toNat ≤ 0x1F)

/-- The row without the members of a class at its two ends. -/
def trimBy {α : Type} (drop : α → Bool) (s : List α) : List α :=
  ((s.dropWhile drop).reverse.dropWhile drop).reverse

/-- The text without the blanks at its two ends. -/
def trim (s : List Char) : List Char := trimBy isBlank s

/-- A code point of a blank. A half character is none. -/
def isBlankPoint (p : Nat) : Bool := isBlank (.ofNat p)

/-- The code points without the blanks at their two ends. -/
def trimPoints (points : List Nat) : List Nat := trimBy isBlankPoint points

end LedStudio.Text
