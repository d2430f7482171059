import LedStudio.Text.Half

/-!
# Bytes in sixty-four characters

Four characters stand for three bytes. Characters that stand for nothing are passed over. Padding
ends the bytes where it fills up a group that has at least two characters; a group that is left
without it is refused.
-/

namespace LedStudio.Text

/-- The six bits that a character stands for. -/
def sextet? (point : Nat) : Option Nat :=
  let within (first last : Char) : Bool := first.toNat ≤ point && point ≤ last.toNat
  if within 'A' 'Z' then some (point - 'A'.toNat)
  else if within 'a' 'z' then some (point - 'a'.toNat + 26)
  else if within '0' '9' then some (point - '0'.toNat + 52)
  else if point = '+'.toNat then some 62
  else if point = '/'.toNat then some 63
  else none

/-- The rest of the bytes, after `place` characters of a group, of which the bits `left` are still
to be written, and after `pads` padding characters. -/
def sextetBytes (place left pads : Nat) : List Nat → Option (List UInt8)
  | [] => if place = 0 then some [] else none
  | p :: rest =>
    if p = '='.toNat then
      if place < 2 then sextetBytes place left pads rest
      else if 4 ≤ place + pads + 1 then some []
      else sextetBytes place left (pads + 1) rest
    else
      match sextet? p with
      | none => sextetBytes place left pads rest
      | some bits =>
        let kept := Nat.pow 4 (3 - place)
        if place = 0 then sextetBytes 1 bits 0 rest
        else
          (sextetBytes ((place + 1) % 4) (bits % kept) 0 rest).map fun bytes =>
            .ofNat (left * Nat.pow 4 place + bits / kept) :: bytes

/-- The bytes that ASCII characters stand for. -/
def fromBase64? (points : List Nat) : Option (List UInt8) :=
  if points.all (· < 0x80) then sextetBytes 0 0 0 points else none

end LedStudio.Text
