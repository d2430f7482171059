import LedStudio.Number.Mixed
import LedStudio.Text.Utf8
import LedStudio.Yaml.Cursor

/-!
# How a file is read

A file is taken in piece by piece, and only as far as it is needed. Its bytes become characters in
pieces, and characters are looked at in rows. A piece with bytes that are no text, and a row with a
character that documents cannot hold, stop the reading; what comes before can be read, and may be
malformed for a reason of its own. Every way to end a line is made a line feed.
-/

namespace LedStudio.Yaml

/-- What of a file can be read, and why the reading stops there; without a reason the file ends. -/
structure Intake where
  text : List Char
  stop : Option Fault
  deriving Repr

namespace Intake

/-- The least number of bytes that are asked for in a piece. -/
def pieceSize : Nat := 8192

/-- The number of characters in a row. -/
def rowSize : Nat := 4096

/-- Bytes that are being taken in. -/
structure Supply where
  /-- The bytes that are still to be taken. -/
  bytes : List UInt8
  /-- The bytes of the last piece that only begin a character. -/
  left : List UInt8 := []
  /-- The last piece ended with a carriage return, which waits for what comes behind it. -/
  isOpen : Bool := false
  /-- How many bytes the last piece took for a character. -/
  ratio : Double := .finite 0
  /-- How many characters there are so far. -/
  count : Nat := 0

namespace Supply

/-- How many bytes are asked for: enough for the rest of a row, if they are like the last ones. -/
def nextSize (s : Supply) : Nat :=
  let missing : Nat := rowSize - s.count % rowSize
  match (s.ratio.mul (.ofRat missing)).integerPart with
  | .ok n => max pieceSize n.toNat
  | .error _ => pieceSize

/-- Adds the characters of a piece of `size` bytes. -/
def add (s : Supply) (size : Nat) (text : List Char) (left : List UInt8) : List Char × Supply :=
  let all := if s.isOpen && !text.isEmpty then '\r' :: text else text
  let isOpen := if text.isEmpty then s.isOpen else text.getLast? = some '\r'
  let whole := Text.unifyLineEnds (if !text.isEmpty && isOpen then all.dropLast else all)
  (whole,
    { bytes := s.bytes.drop size
      left
      isOpen
      ratio := if whole.isEmpty then .finite 0 else .ofRat (mkRat size whole.length)
      count := s.count + whole.length })

/-- What stands at the end of a file: a carriage return that waited, or the beginning of a
character, which is none. -/
def finish (s : Supply) : List (List Char) × Option Fault :=
  if s.left.isEmpty then ([if s.isOpen then ['\n'] else []], none)
  else ([], (Text.Remainder.incomplete s.left).fault?)

/-- The characters of a file, piece by piece, and the bytes that are no text. -/
def pieces : (fuel : Nat) → Supply → List (List Char) × Option Fault
  | 0, s => s.finish
  | fuel + 1, s =>
    if s.bytes.isEmpty then s.finish
    else
      let taken := s.bytes.take s.nextSize
      let (text, left) := Text.decodeStart (s.left ++ taken)
      let go (left : List UInt8) : List (List Char) × Option Fault :=
        let (text, s) := s.add taken.length text left
        let (more, stop) := pieces fuel s
        (text :: more, stop)
      match left with
      | .wrong .. => ([], left.fault?)
      | .nothing => go []
      | .incomplete left => go left

end Supply

/-- How many of `n` characters stand in whole rows. The first two rows are looked at together. -/
def inWholeRows (n : Nat) : Nat := if n < 2 * rowSize then 0 else n / rowSize * rowSize

/-- The characters before the first row that stops the reading. -/
def ofText (text : List Char) (stop : Option Fault) : Intake :=
  let text := if stop.isSome then text.take (inWholeRows text.length) else text
  let clean := (text.takeWhile isAdmissible).length
  if clean < text.length then ⟨text.take (inWholeRows clean), some .malformedDocument⟩
  else ⟨text, stop⟩

/-- What can be read of a file of bytes. -/
def ofBytes (bytes : List UInt8) : Intake :=
  let (texts, stop) := Supply.pieces (bytes.length + 1) { bytes }
  ofText texts.flatten stop

end Intake
end LedStudio.Yaml
