import LedStudio.Json.Basic
import LedStudio.Number.Numeral

/-!
# Reading JSON

A text is read from left to right, and a text that is no JSON is refused with the number of
characters before the place where that shows. An integer of too many digits is not read, nor is what
is nested too deeply. Besides the standard's values the reader takes `NaN`, `Infinity` and
`-Infinity`.
-/

namespace LedStudio.Json

/-- What is left of a text, and how many characters have been read. -/
structure Cursor where
  rest : List Char
  offset : Nat := 0
  /-- The half characters of the text by their places; `rest` shows other characters for them. -/
  halves : List (Nat × Nat) := []

namespace Cursor

/-- The beginning of a row of code points. -/
def ofPoints (points : List Nat) : Cursor where
  rest := (Text.shownPoints points).toList
  halves := (points.zipIdx.filter fun (point, _) => Text.isHalf point).map fun (point, i) =>
    (i, point)

def skip (c : Cursor) (n : Nat) : Cursor :=
  { c with rest := c.rest.drop n, offset := c.offset + n }

/-- The code point of the next character, which is shown as `x`. -/
def point (c : Cursor) (x : Char) : Nat := (c.halves.lookup c.offset).getD x.toNat

def isSpace (c : Char) : Bool := c = ' ' || c = '\t' || c = '\n' || c = '\r'

/-- The cursor behind the characters of a class. -/
def skipWhile (c : Cursor) (p : Char → Bool) : Cursor := c.skip (c.rest.takeWhile p).length

def skipSpace (c : Cursor) : Cursor := c.skipWhile isSpace

end Cursor

/-- Why a text is not read. -/
inductive Refusal where
  /-- It is no JSON, as shows after so many characters. -/
  | malformed (offset : Nat)
  /-- An integer has too many digits, or lists and objects are nested too deeply. -/
  | beyondLimits
  deriving DecidableEq, Repr

/-- What was read and the cursor behind it, or why nothing is read. -/
abbrev Scan (α : Type) := Except Refusal (α × Cursor)

/-- Nothing is read, as shows here. -/
def Cursor.refuse (c : Cursor) : Scan α := .error (.malformed c.offset)

/-! ## Numbers -/

/-- A fraction part, if one with a digit stands here. -/
def fraction (c : Cursor) : List Char × Cursor :=
  match c.rest with
  | '.' :: d :: _ =>
    if d.isDigit then
      let digits := (c.rest.drop 1).takeWhile Char.isDigit
      ('.' :: digits, c.skip (digits.length + 1))
    else ([], c)
  | _ => ([], c)

/-- An exponent part, if one with a digit stands here. -/
def exponent (c : Cursor) : List Char × Cursor :=
  match c.rest with
  | e :: rest =>
    if e = 'e' ∨ e = 'E' then
      let sign :=
        match rest with
        | '+' :: _ => ['+']
        | '-' :: _ => ['-']
        | _ => []
      let digits := (rest.drop sign.length).takeWhile Char.isDigit
      if digits.isEmpty then ([], c)
      else (e :: sign ++ digits, c.skip (1 + sign.length + digits.length))
    else ([], c)
  | [] => ([], c)

/-- The digits before the point: a zero alone, or a row that begins with another digit. -/
def wholePart (s : List Char) : List Char :=
  match s with
  | '0' :: _ => ['0']
  | s => s.takeWhile Char.isDigit

/-- A number; it is an integer unless it has a fraction or an exponent. -/
def number (start : Cursor) : Scan Json :=
  let negative := start.rest.head? = some '-'
  let c := if negative then start.skip 1 else start
  let whole := wholePart c.rest
  if whole.isEmpty then start.refuse
  else
    let (part, c) := fraction (c.skip whole.length)
    let (power, c) := exponent c
    if part.isEmpty && power.isEmpty then
      if Numeral.digitLimit < whole.length then .error .beyondLimits
      else
        let n := Text.ofDigits 10 (Numeral.takeDigits whole).1
        .ok (.int (Numeral.withSign negative n), c)
    else
      match Double.ofUnsigned? negative (whole ++ part ++ power) with
      | some x => .ok (.float x, c)
      | none => start.refuse

/-! ## Texts -/

/-- The code unit of four hexadecimal digits. -/
def codeUnit? (s : List Char) : Option Nat :=
  let digits := (s.take 4).filterMap (Text.asciiDigit? 16)
  if digits.length = 4 then some (Text.ofDigits 16 digits) else none

/-- The character behind `\u`, where the cursor stands on the `u`: its code point and the cursor
behind it. A text cannot end right after the digits. Two halves of a pair are one character. -/
def escapedUnit (c : Cursor) : Scan Nat :=
  let digits := c.skip 1
  if digits.rest.length ≤ 4 then c.refuse
  else
    match codeUnit? digits.rest with
    | none => c.refuse
    | some high =>
      let next := digits.skip 4
      match next.rest with
      | '\x5c' :: 'u' :: low =>
        if Text.isHighHalf high && 6 < next.rest.length then
          match codeUnit? low with
          | none => (next.skip 1).refuse
          | some low =>
            if Text.isLowHalf low then .ok (Text.joinHalves high low, next.skip 6)
            else .ok (high, next)
        else .ok (high, next)
      | _ => .ok (high, next)

/-- The character of an escape of one letter. -/
def escapedLetter? (c : Char) : Option Char :=
  if c = Text.quotationMark ∨ c = Text.backslash ∨ c = '/' then some c
  else if c = 'b' then some '\x08'
  else if c = 'f' then some '\x0c'
  else if c = 'n' then some '\n'
  else if c = 'r' then some '\r'
  else if c = 't' then some '\t'
  else none

/-- The code points of a text whose opening mark stood at `start`, up to its closing mark, after
those already read, latest first. -/
def textPoints (start : Cursor) : (fuel : Nat) → List Nat → Cursor → Scan (List Nat)
  | 0, _, _ => start.refuse
  | fuel + 1, done, c =>
    match c.rest with
    | [] => start.refuse
    | x :: rest =>
      if x = Text.quotationMark then .ok (done.reverse, c.skip 1)
      else if x = Text.backslash then
        match rest with
        | [] => start.refuse
        | 'u' :: _ =>
          match escapedUnit (c.skip 1) with
          | .error why => .error why
          | .ok (point, c) => textPoints start fuel (point :: done) c
        | y :: _ =>
          match escapedLetter? y with
          | none => c.refuse
          | some y => textPoints start fuel (y.toNat :: done) (c.skip 2)
      else if x.toNat < 0x20 then c.refuse
      else textPoints start fuel (c.point x :: done) (c.skip 1)

/-- The code points of a text, where the cursor stands on its opening mark. -/
def quotedText (c : Cursor) : Scan (List Nat) := textPoints c (c.rest.length + 1) [] (c.skip 1)

/-- The value of a text. -/
def ofPoints (points : List Nat) : Json :=
  match Text.ofPoints? points with
  | some s => .text s
  | none => .brokenText points

/-! ## Values -/

/-- The values that are spelled with letters. -/
def words : List (String × Json) :=
  [("null", .null), ("true", .bool true), ("false", .bool false), ("NaN", .float .nan),
   ("Infinity", .float (.infinite false)), ("-Infinity", .float (.infinite true))]

/-- The word that stands here. -/
def word? (c : Cursor) : Option (Json × Cursor) :=
  (words.find? fun entry => entry.1.toList.isPrefixOf c.rest).map fun entry =>
    (entry.2, c.skip entry.1.length)

mutual
/-- A value that may nest `room` lists and objects. Each step of the readers takes a character at
least, so the length of the text is fuel enough. -/
def value : (fuel room : Nat) → Cursor → Scan Json
  | 0, _, c => c.refuse
  | fuel + 1, room, c =>
    match c.rest with
    | [] => c.refuse
    | x :: _ =>
      if x = Text.quotationMark then (quotedText c).map fun (points, c) => (ofPoints points, c)
      else if x = '\x7b' ∨ x = '[' then
        match room with
        | 0 => .error .beyondLimits
        | room + 1 =>
          let close := if x = '[' then ']' else '\x7d'
          let c := (c.skip 1).skipSpace
          if c.rest.head? = some close then
            .ok (if x = '[' then .list [] else .object [], c.skip 1)
          else if x = '[' then items fuel room [] c
          else fields fuel room [] c
      else
        match word? c with
        | some found => .ok found
        | none => number c

/-- The fields of an object from the next name on, after those already read. -/
def fields : (fuel room : Nat) → List (String × Json) → Cursor → Scan Json
  | 0, _, _, c => c.refuse
  | fuel + 1, room, done, c =>
    if c.rest.head? ≠ some Text.quotationMark then c.refuse
    else
      match quotedText c with
      | .error why => .error why
      | .ok (name, c) =>
        let c := c.skipSpace
        if c.rest.head? ≠ some ':' then c.refuse
        else
          match value fuel room (c.skip 1).skipSpace with
          | .error why => .error why
          | .ok (v, c) =>
            let done :=
              match Text.ofPoints? name with
              | some name => setField done name v
              | none => done
            let c := c.skipSpace
            match c.rest.head? with
            | some '\x7d' => .ok (.object done, c.skip 1)
            | some ',' => fields fuel room done (c.skip 1).skipSpace
            | _ => c.refuse

/-- The items of a list from the next one on, after those already read, latest first. -/
def items : (fuel room : Nat) → List Json → Cursor → Scan Json
  | 0, _, _, c => c.refuse
  | fuel + 1, room, done, c =>
    match value fuel room c with
    | .error why => .error why
    | .ok (v, c) =>
      let c := c.skipSpace
      match c.rest.head? with
      | some ']' => .ok (.list (v :: done).reverse, c.skip 1)
      | some ',' => items fuel room (v :: done) (c.skip 1).skipSpace
      | _ => c.refuse
end

/-- The value that code points spell, where lists and objects are nested at most `room` deep. -/
def parsePoints (room : Nat) (points : List Nat) : Except Refusal Json :=
  match value (2 * points.length + 1) room (Cursor.ofPoints points).skipSpace with
  | .error why => .error why
  | .ok (v, c) =>
    if c.skipSpace.rest.isEmpty then .ok v else .error (.malformed c.skipSpace.offset)

/-- The value that a text spells. -/
def parse (room : Nat) (text : List Char) : Except Refusal Json :=
  parsePoints room (text.map Char.toNat)

end LedStudio.Json
