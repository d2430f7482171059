import LedStudio.Text.Digit
import LedStudio.Text.Half
import LedStudio.Yaml.Cursor

/-!
# Texts in a document

The four ways to write a text: plain, between quotes, and as a block of lines that are kept or
folded. Where a text goes on over the end of a line, one line end becomes a blank, and of several
the first is dropped. A text between quotes may name half characters, so it is a row of code points.
-/

namespace LedStudio.Yaml

/-- What the end of a line and the empty lines after it leave of themselves. -/
def foldedBreaks (first : Char) (more : List Char) : List Char :=
  if first ≠ '\n' then first :: more else if more.isEmpty then [' '] else more

/-! ## Quoted texts -/

/-- The line ends from here on, blanks left out. Marks that divide documents may not stand here. -/
def quotedBreaks : (fuel : Nat) → Cursor → Scanned
  | 0, c => .ok ([], c)
  | fuel + 1, c =>
    if c.atDocumentMarks then c.refuse 3
    else
      let c := c.skipWhile fun x => x = ' ' || x = '\t'
      match c.lineEnd? with
      | none => .ok ([], c)
      | some (x, c) => (quotedBreaks fuel c).map fun (more, c) => (x :: more, c)

/-- What stands for a character behind a backslash. -/
def escapes : List (Char × Char) :=
  [('0', '\x00'), ('a', '\x07'), ('b', '\x08'), ('t', '\t'), ('\t', '\t'), ('n', '\n'),
   ('v', '\x0b'), ('f', '\x0c'), ('r', '\r'), ('e', '\x1b'), (' ', ' '), ('\x22', '\x22'),
   ('\x5c', '\x5c'), ('/', '/'), ('N', '\x85'), ('_', '\xa0'), ('L', '\u2028'), ('P', '\u2029')]

/-- The number of digits that name a character behind a backslash and a letter. -/
def escapeDigits : List (Char × Nat) := [('x', 2), ('u', 4), ('U', 8)]

/-- The number that `count` hexadecimal digits spell. -/
def hexNumber (c : Cursor) (count : Nat) : Outcome Nat :=
  let digits := (c.rest.take count).takeWhile fun x => (Text.asciiDigit? 16 x).isSome
  if digits.length = count then .ok (Text.ofDigits 16 (digits.filterMap (Text.asciiDigit? 16)))
  else c.refuse digits.length

/-- The code point that `count` hexadecimal digits name; it may be half a character, and halves are
not joined. -/
def namedPoint (c : Cursor) (count : Nat) : ScannedPoints :=
  match hexNumber c count with
  | .error f => .error f
  | .ok point =>
    if point.isValidChar || Text.isHalf point then .ok ([point], c.skip count)
    else .error (.noSuchCharacter point)

/-- What stands for an escape, where the cursor is behind the backslash. -/
def escape (c : Cursor) : ScannedPoints :=
  match escapes.lookup c.peek with
  | some x => .ok ([x.toNat], c.next)
  | none =>
    match escapeDigits.lookup c.peek with
    | some count => namedPoint c.next count
    | none =>
      match c.lineEnd? with
      | some (_, c) =>
        (quotedBreaks (c.rest.length + 1) c).map fun (breaks, c) => (pointsOf breaks, c)
      | none => c.refuse

/-- Blanks in a quoted text, which a line end after them swallows. -/
def quotedGap (c : Cursor) : Scanned :=
  let (blanks, c) := c.take fun x => x = ' ' || x = '\t'
  if c.peek = endMark then c.endsEarly
  else
    match c.lineEnd? with
    | none => .ok (blanks, c)
    | some (x, c) => (quotedBreaks (c.rest.length + 1) c).map fun (more, c) =>
        (foldedBreaks x more, c)

/-- A character that a quoted text cannot simply go on with. -/
def stopsQuoted (x : Char) : Bool := x = '\x27' || x = '\x22' || x = '\x5c' || isGap x

/-- The rest of a text between quotes, after what has been read of it. -/
def quotedRest (quote : Char) : (fuel : Nat) → List Nat → Cursor → ScannedPoints
  | 0, _, _ => malformed
  | fuel + 1, done, c =>
    let double := quote = '\x22'
    let x := c.peek
    if !stopsQuoted x then
      let (word, c) := c.take (!stopsQuoted ·)
      quotedRest quote fuel (done ++ pointsOf word) c
    else if !double && x = quote && c.ahead 1 = quote then
      quotedRest quote fuel (done ++ [quote.toNat]) (c.skip 2)
    else if x = quote then .ok (done, c.next)
    else if double && x = '\x5c' then
      match escape c.next with
      | .ok (part, c) => quotedRest quote fuel (done ++ part) c
      | .error f => .error f
    else if x = '\x27' || x = '\x22' || x = '\x5c' then
      quotedRest quote fuel (done ++ [x.toNat]) c.next
    else
      match quotedGap c with
      | .ok (part, c) => quotedRest quote fuel (done ++ pointsOf part) c
      | .error f => .error f

/-- The code points of a text between quotes, where the cursor stands on the first of them. -/
def quoted (c : Cursor) : ScannedPoints := quotedRest c.peek (c.rest.length + 1) [] c.next

/-! ## Block texts -/

/-- What becomes of the line ends at the end of a block. -/
inductive Chomping where
  | clip | strip | keep
  deriving DecidableEq

/-- The signs behind the mark of a block: how it ends, and how far it is indented. -/
def blockHeader (c : Cursor) : Outcome (Chomping × Option Nat × Cursor) :=
  let chomping (c : Cursor) : Chomping × Cursor :=
    if c.peek = '+' then (.keep, c.next) else if c.peek = '-' then (.strip, c.next) else (.clip, c)
  let increment (c : Cursor) : Outcome (Option Nat × Cursor) :=
    if c.peek = '0' then c.refuse
    else if c.peek.isDigit then .ok (some (c.peek.toNat - '0'.toNat), c.next)
    else .ok (none, c)
  let check (found : Chomping × Option Nat × Cursor) : Outcome (Chomping × Option Nat × Cursor) :=
    let c := found.2.2
    if c.peek = ' ' || isBreakOrEnd c.peek then .ok found else c.refuse
  match chomping c with
  | (.clip, _) => do
    let (n, c) ← increment c
    let (ending, c) := chomping c
    check (ending, n, c)
  | (ending, c) => do
    let (n, c) ← increment c
    check (ending, n, c)

/-- The rest of the line behind a block's mark, which holds nothing but a comment. -/
def blockHeaderEnd (c : Cursor) : Outcome Cursor :=
  let c := c.skipSpaces.skipComment
  if !isBreakOrEnd c.peek then c.refuse else .ok ((c.lineEnd?.map (·.2)).getD c)

/-- The empty lines at the start of a block, and the deepest column of a blank among them. -/
def blockIndent : (fuel : Nat) → (deepest : Nat) → Cursor → List Char × Nat × Cursor
  | 0, deepest, c => ([], deepest, c)
  | fuel + 1, deepest, c =>
    match c.lineEnd? with
    | some (x, c) =>
      let (more, deepest, c) := blockIndent fuel deepest c
      (x :: more, deepest, c)
    | none =>
      if c.peek = ' ' then blockIndent fuel (max deepest c.next.column) c.next
      else ([], deepest, c)

/-- Skips blanks up to a column. -/
def skipIndent (indent : Nat) (c : Cursor) : Cursor :=
  let blanks := (c.rest.takeWhile (· = ' ')).length
  c.skip (min blanks (indent - c.column))

/-- Empty lines inside a block. -/
def blockBreaks (indent : Nat) : (fuel : Nat) → Cursor → List Char × Cursor
  | 0, c => ([], c)
  | fuel + 1, c =>
    match (skipIndent indent c).lineEnd? with
    | some (x, c) =>
      let (more, c) := blockBreaks indent fuel c
      (x :: more, c)
    | none => ([], skipIndent indent c)

/-- The lines of a block: the text, the last line end, the empty lines behind it, and the cursor. -/
def blockLines (folded : Bool) (indent : Nat) : (fuel : Nat) → (done breaks : List Char) →
    (last : List Char) → Cursor → List Char × List Char × List Char × Cursor
  | 0, done, breaks, last, c => (done, last, breaks, c)
  | fuel + 1, done, breaks, last, c =>
    if c.column ≠ indent ∨ c.peek = endMark then (done, last, breaks, c)
    else
      let indented := c.peek = ' ' || c.peek = '\t'
      let (line, c) := c.take (!isBreakOrEnd ·)
      let done := done ++ breaks ++ line
      let (last, c) :=
        match c.lineEnd? with
        | some (x, c) => ([x], c)
        | none => ([], c)
      let (breaks, c) := blockBreaks indent (c.rest.length + 1) c
      if c.column = indent ∧ c.peek ≠ endMark then
        let joins := folded && last == ['\n'] && !indented && c.peek != ' ' && c.peek != '\t'
        let between := if joins then (if breaks.isEmpty then [' '] else []) else last
        blockLines folded indent fuel (done ++ between) breaks last c
      else (done, last, breaks, c)

/-- A block, where the cursor stands behind its mark; `parent` is the column of what holds it. -/
def block (folded : Bool) (parent : Int) (c : Cursor) : Scanned := do
  let (chomping, increment, c) ← blockHeader c
  let c ← blockHeaderEnd c
  let least := (max 1 (parent + 1)).toNat
  let (breaks, indent, c) :=
    match increment with
    | none =>
      let (breaks, deepest, c) := blockIndent (c.rest.length + 1) 0 c
      (breaks, max least deepest, c)
    | some n =>
      let indent := least + n - 1
      let (breaks, c) := blockBreaks indent (c.rest.length + 1) c
      (breaks, indent, c)
  let (text, last, breaks, c) := blockLines folded indent (c.rest.length + 1) [] breaks [] c
  match chomping with
  | .strip => return (text, c)
  | .clip => return (text ++ last, c)
  | .keep => return (text ++ last ++ breaks, c)

/-! ## Plain texts -/

/-- A character that ends a plain text wherever it stands. -/
def endsPlain (inFlow : Bool) (x next : Char) : Bool :=
  isGap x || (x = ':' && (isGap next || (inFlow && ",[]\x7b\x7d".toList.contains next)))
    || (inFlow && ",?[]\x7b\x7d".toList.contains x)

/-- The length of the piece of plain text that begins here. -/
def plainLength (inFlow : Bool) : List Char → Nat
  | [] => 0
  | x :: rest =>
    if endsPlain inFlow x (rest.head?.getD endMark) then 0 else 1 + plainLength inFlow rest

/-- The line ends between two lines of a plain text; nothing if a document ends there. -/
def plainBreaks : (fuel : Nat) → Cursor → Option (List Char) × Cursor
  | 0, c => (some [], c)
  | fuel + 1, c =>
    if c.peek = ' ' then plainBreaks fuel c.next
    else
      match c.lineEnd? with
      | none => (some [], c)
      | some (x, c) =>
        if c.atDocumentMarks then (none, c)
        else
          let (more, c) := plainBreaks fuel c
          (more.map (x :: ·), c)

/-- The blanks or line ends behind a piece of plain text, the cursor behind them, and whether there
was the end of a line. An empty gap ends the text. -/
def plainGap (c : Cursor) : List Char × Cursor × Bool :=
  let (blanks, c) := c.take (· = ' ')
  match c.lineEnd? with
  | none => (blanks, c, false)
  | some (x, c) =>
    if c.atDocumentMarks then ([], c, true)
    else
      match plainBreaks (c.rest.length + 1) c with
      | (none, c) => ([], c, true)
      | (some more, c) => (foldedBreaks x more, c, true)

/-- A plain text from here on, after what has been read of it, and whether the cursor came to a new
line behind it. -/
def plainRest (inFlow : Bool) (indent : Int) :
    (fuel : Nat) → (done gap : List Char) → (newLine : Bool) → Cursor → List Char × Bool × Cursor
  | 0, done, _, newLine, c => (done, newLine, c)
  | fuel + 1, done, gap, newLine, c =>
    let length := if c.peek = '#' then 0 else plainLength inFlow c.rest
    if length = 0 then (done, newLine, c)
    else
      let done := done ++ gap ++ c.rest.take length
      let (gap, c, newLine) := plainGap (c.skip length)
      if gap.isEmpty || c.peek = '#' || (!inFlow && decide ((c.column : Int) < indent)) then
        (done, newLine, c)
      else plainRest inFlow indent fuel done gap newLine c

/-- A plain text; `parent` is the column of what holds it. -/
def plain (inFlow : Bool) (parent : Int) (c : Cursor) : List Char × Bool × Cursor :=
  plainRest inFlow (parent + 1) (c.rest.length + 1) [] [] false c

end LedStudio.Yaml
