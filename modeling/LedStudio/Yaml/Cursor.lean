import LedStudio.Fault

/-!
# A place in a document

Reading goes forward character by character and keeps the line and the column. Four characters end
a line; behind the end of a text stands a null character, which no document holds. The text may stop
where its file cannot be read on.
-/

namespace LedStudio.Yaml

structure Cursor where
  rest : List Char
  offset : Nat := 0
  line : Nat := 0
  column : Nat := 0
  /-- Why nothing behind `rest` can be read; none if the document ends there. -/
  stop : Option Fault := none
  deriving Repr, Inhabited

def endMark : Char := '\x00'

/-- A character that ends a line. -/
def isBreak (c : Char) : Bool := c = '\n' || c = '\x85' || c = '\u2028' || c = '\u2029'

/-- The end of a line or of the text. -/
def isBreakOrEnd (c : Char) : Bool := c = endMark || isBreak c

/-- What separates words: a blank, a tab, or the end of a line or of the text. -/
def isGap (c : Char) : Bool := c = ' ' || c = '\t' || isBreakOrEnd c

/-- A character that documents may hold. -/
def isAdmissible (c : Char) : Bool :=
  c = '\t' || c = '\n' || c = '\r' || (' ' ≤ c && c ≤ '~') || c = '\x85'
    || (0xA0 ≤ c.toNat && c.toNat ≤ 0xFFFD) || 0x10000 ≤ c.toNat

/-- The byte order mark; it takes no column. -/
def byteOrderMark : Char := '\ufeff'

namespace Cursor

/-- The character that is `n` places ahead. -/
def ahead (c : Cursor) (n : Nat) : Char := (c.rest[n]?).getD endMark

/-- The next character. -/
def peek (c : Cursor) : Char := c.ahead 0

/-- Goes on by one character. -/
def next (c : Cursor) : Cursor :=
  match c.rest with
  | [] => c
  | x :: rest =>
    if isBreak x then { c with rest, offset := c.offset + 1, line := c.line + 1, column := 0 }
    else
      { c with
        rest
        offset := c.offset + 1
        column := if x = byteOrderMark then c.column else c.column + 1 }

/-- Goes on by `n` characters. -/
def skip (c : Cursor) : Nat → Cursor
  | 0 => c
  | n + 1 => c.next.skip n

/-- The characters of a class that come next, and the cursor behind them. -/
def take (c : Cursor) (p : Char → Bool) : List Char × Cursor :=
  let taken := c.rest.takeWhile p
  (taken, c.skip taken.length)

/-- The cursor behind the characters of a class. -/
def skipWhile (c : Cursor) (p : Char → Bool) : Cursor := (c.take p).2

def skipSpaces (c : Cursor) : Cursor := c.skipWhile (· = ' ')

/-- The cursor behind a comment, at the end of its line. -/
def skipComment (c : Cursor) : Cursor :=
  if c.peek = '#' then c.skipWhile (!isBreakOrEnd ·) else c

/-- The end of a line, as it counts in a text that goes on over it, and the cursor behind it. -/
def lineEnd? (c : Cursor) : Option (Char × Cursor) :=
  if isBreak c.peek then some (if c.peek = '\x85' then '\n' else c.peek, c.next) else none

/-- The cursor stands on three marks that divide documents. -/
def atMarks (c : Cursor) (mark : Char) : Bool :=
  c.ahead 0 = mark && c.ahead 1 = mark && c.ahead 2 = mark && isGap (c.ahead 3)

/-- A line that begins or ends a document. -/
def atDocumentMarks (c : Cursor) : Bool := c.atMarks '-' || c.atMarks '.'

end Cursor

/-- A text and the cursor behind it, or why the document is refused. -/
abbrev Scanned := Outcome (List Char × Cursor)

/-- Code points and the cursor behind them, or why the document is refused. -/
abbrev ScannedPoints := Outcome (List Nat × Cursor)

/-- The document is refused as malformed. -/
def malformed {α : Type} : Outcome α := .error .malformedDocument

namespace Cursor

/-- Why the text stops here, if it stops and does not end. -/
def stop? (c : Cursor) : Option Fault := if c.rest.isEmpty then c.stop else none

/-- The document is refused where the text ends too early. -/
def endsEarly (c : Cursor) : Outcome α := .error (c.stop.getD .malformedDocument)

/-- The document is refused for the character `n` places ahead. Where there is none the text ends
too early. -/
def refuse (c : Cursor) (n : Nat := 0) : Outcome α :=
  if c.rest.length ≤ n then c.endsEarly else malformed

end Cursor

/-- The code points of a text. -/
def pointsOf (s : List Char) : List Nat := s.map Char.toNat

end LedStudio.Yaml
