import LedStudio.Fault

/-!
# Bytes as text

Bytes are read as UTF-8. What is no text is refused with the bytes that could not be read, up to
the first one that does not continue a character. Bytes at the end that only begin a character are
kept apart, as others may follow; if none do, they are looked at by themselves. So are the first two
of three bytes that would make half a character.
-/

namespace LedStudio.Text

/-- How many bytes follow the first byte of a character, with the bounds of the second byte. -/
def continuation? (b : UInt8) : Option (Nat × UInt8 × UInt8) :=
  if b < 0x80 then some (0, 0x80, 0xBF)
  else if b < 0xC2 then none
  else if b < 0xE0 then some (1, 0x80, 0xBF)
  else if b = 0xE0 then some (2, 0xA0, 0xBF)
  else if b = 0xED then some (2, 0x80, 0x9F)
  else if b < 0xF0 then some (2, 0x80, 0xBF)
  else if b = 0xF0 then some (3, 0x90, 0xBF)
  else if b < 0xF4 then some (3, 0x80, 0xBF)
  else if b = 0xF4 then some (3, 0x80, 0x8F)
  else none

/-- The bytes that go on with a character, at most `count`. -/
def continuing (low high : UInt8) : (count : Nat) → List UInt8 → List UInt8
  | 0, _ => []
  | _, [] => []
  | count + 1, b :: rest =>
    if low ≤ b ∧ b ≤ high then b :: continuing 0x80 0xBF count rest else []

/-- The bits that the first byte of a character of `count + 1` bytes brings in. -/
def leadBits (b : UInt8) (count : Nat) : Nat :=
  match count with
  | 0 => b.toNat
  | 1 => b.toNat % 0x20
  | 2 => b.toNat % 0x10
  | _ => b.toNat % 0x08

/-- Two bytes at the end that would begin a half character, which no third byte can make a
character. -/
def isOpenHalf : List UInt8 → Bool
  | [b, c] => b = 0xED && 0xA0 ≤ c && c ≤ 0xBF
  | _ => false

/-- What is left of bytes behind the characters that could be read. -/
inductive Remainder where
  | nothing
  /-- The beginning of a character. -/
  | incomplete (bytes : List UInt8)
  /-- Bytes that are no character, and how many bytes stand before them. -/
  | wrong (bytes : List UInt8) (position : Nat) (reason : String)

/-- Why a remainder is no text. -/
def Remainder.fault? : Remainder → Option Fault
  | nothing => none
  | incomplete bytes =>
    some (if isOpenHalf bytes then .undecodable (bytes.take 1) 0 "invalid continuation byte"
      else .undecodable bytes 0 "unexpected end of data")
  | wrong bytes position reason => some (.undecodable bytes position reason)

/-- Reads bytes after `position` others and after the characters already read, latest first. -/
def decodeFrom : (fuel : Nat) → (position : Nat) → (done : List Char) → List UInt8 →
    List Char × Remainder
  | 0, _, done, _ => (done.reverse, .nothing)
  | _, _, done, [] => (done.reverse, .nothing)
  | fuel + 1, position, done, b :: rest =>
    match continuation? b with
    | none => (done.reverse, .wrong [b] position "invalid start byte")
    | some (count, low, high) =>
      let more := continuing low high count rest
      if more.length = count then
        let point := more.foldl (fun n b => n * 0x40 + b.toNat % 0x40) (leadBits b count)
        decodeFrom fuel (position + count + 1) (.ofNat point :: done) (rest.drop count)
      else if more.length = rest.length || isOpenHalf (b :: rest) then
        (done.reverse, .incomplete (b :: rest))
      else (done.reverse, .wrong (b :: more) position "invalid continuation byte")

/-- The characters at the start of bytes, and what is left. -/
def decodeStart (bytes : List UInt8) : List Char × Remainder :=
  decodeFrom bytes.length 0 [] bytes

/-- The text of bytes. -/
def decode (bytes : List UInt8) : Outcome (List Char) :=
  let (text, left) := decodeStart bytes
  match left.fault? with
  | none => .ok text
  | some f => .error f

/-- The text with every way to end a line made a line feed. -/
def unifyLineEnds : List Char → List Char
  | '\r' :: '\n' :: rest => '\n' :: unifyLineEnds rest
  | '\r' :: rest => '\n' :: unifyLineEnds rest
  | c :: rest => c :: unifyLineEnds rest
  | [] => []

end LedStudio.Text
