/-!
# Half characters

The code points from D800 to DFFF are halves of a pair and no characters. Two of them in the right
order stand for one character; one that stands alone makes a row of code points no text.
-/

namespace LedStudio.Text

/-- The first half of a pair. -/
def isHighHalf (n : Nat) : Bool := 0xD800 ≤ n && n < 0xDC00

/-- The second half of a pair. -/
def isLowHalf (n : Nat) : Bool := 0xDC00 ≤ n && n < 0xE000

def isHalf (n : Nat) : Bool := isHighHalf n || isLowHalf n

/-- The code point that two halves stand for. -/
def joinHalves (high low : Nat) : Nat := 0x10000 + (high - 0xD800) * 0x400 + (low - 0xDC00)

/-- The code points of code units; a half without the other one stays as it is. -/
def joinUnits : List Nat → List Nat
  | high :: low :: rest =>
    if isHighHalf high && isLowHalf low then joinHalves high low :: joinUnits rest
    else high :: joinUnits (low :: rest)
  | rest => rest

/-- The text of code points; none if one of them is half of a pair. -/
def ofPoints? (points : List Nat) : Option String :=
  if points.any isHalf then none else some (.ofList (points.map Char.ofNat))

/-- The text of code points with the replacement character for each half. -/
def shownPoints (points : List Nat) : String :=
  .ofList (points.map fun p => if isHalf p then '\ufffd' else .ofNat p)

end LedStudio.Text
