import LedStudio.Text.Half

/-!
# Bytes of JSON texts

A JSON text begins with two ASCII characters or is one alone, so the zeros among its first bytes
tell how its characters are written: as bytes, as pairs of bytes, or as fours.
-/

namespace LedStudio.Json

/-- How the characters of a text are written as bytes. -/
inductive Encoding where
  | bytes
  | pairs (bigEndian : Bool)
  | fours (bigEndian : Bool)
  deriving DecidableEq, Repr

namespace Encoding

/-- The encoding that the first bytes tell of. -/
def guess : List UInt8 → Encoding
  | [0, _] => pairs true
  | [_, 0] => pairs false
  | 0 :: 0 :: _ :: _ :: _ => fours true
  | 0 :: _ :: _ :: _ :: _ => pairs true
  | _ :: 0 :: 0 :: 0 :: _ => fours false
  | _ :: 0 :: _ :: _ :: _ => pairs false
  | _ => bytes

/-- The numbers that two bytes each stand for; none if a byte is left over. -/
def pairUnits (bigEndian : Bool) : List UInt8 → Option (List Nat)
  | [] => some []
  | a :: b :: rest =>
    let unit := if bigEndian then a.toNat * 0x100 + b.toNat else b.toNat * 0x100 + a.toNat
    (pairUnits bigEndian rest).map (unit :: ·)
  | _ => none

/-- The code points that two pairs of bytes each stand for; none if one is too great or a pair is
left over. -/
def joinPairs (bigEndian : Bool) : List Nat → Option (List Nat)
  | [] => some []
  | a :: b :: rest =>
    let point := if bigEndian then a * 0x10000 + b else b * 0x10000 + a
    if point < 0x110000 then (joinPairs bigEndian rest).map (point :: ·) else none
  | _ => none

/-- The text without a byte order mark in front. -/
def withoutMark : List Char → List Char
  | '\ufeff' :: rest => rest
  | text => text

/-- The code points of a text of bytes, given as the text that these bytes are in UTF-8. -/
def read (s : String) : Option (List Nat) :=
  let bytes := s.toUTF8.toList
  match guess bytes with
  | .bytes => some ((withoutMark s.toList).map Char.toNat)
  | .pairs bigEndian => (pairUnits bigEndian bytes).map Text.joinUnits
  | .fours bigEndian => (pairUnits bigEndian bytes).bind (joinPairs bigEndian)

end Encoding
end LedStudio.Json
