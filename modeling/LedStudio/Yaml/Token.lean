import LedStudio.Yaml.Intake
import LedStudio.Yaml.Scalar
import LedStudio.Yaml.Tag

/-!
# Tokens of a document

A document is first cut into tokens. Indentation shows in them as the start and the end of block
collections. Whether a piece of text is a key shows only at the colon behind it, so a slot is kept
in front of everything that may be a key, and filled if the colon comes on the same line. Where a
document cannot be cut any further, the tokens before the first open slot still count.
-/

namespace LedStudio.Yaml

inductive Token where
  /-- The version of the language, which has to be the first one. -/
  | version (isFirst : Bool)
  /-- A handle of tags and the beginning of names that it stands for. -/
  | handle (name beginning : String)
  /-- A directive without a meaning. -/
  | reserved
  | documentStart
  | documentEnd
  | blockSequence
  | blockMapping
  | blockEnd
  | flowSequence
  | flowSequenceEnd
  | flowMapping
  | flowMappingEnd
  | blockEntry
  | flowEntry
  | key
  | value
  | alias (name : String)
  | anchor (name : String)
  | tag (t : WrittenTag)
  /-- A text by its code points. -/
  | scalar (points : List Nat) (isPlain : Bool)
  deriving DecidableEq, Repr, Inhabited

/-- Something that may turn out to be a key: its slot among the tokens and where it stands. A
required one has to be a key, as nothing else fits where it stands. -/
structure Candidate where
  slot : Nat
  required : Bool
  cursor : Cursor

/-- The state of cutting a document into tokens. -/
structure Lexer where
  cursor : Cursor
  /-- The tokens so far; a slot that was not filled is empty. -/
  tokens : Array (List Token) := #[]
  /-- The column of the innermost block collection; minus one outside of all. -/
  indent : Int := -1
  /-- The columns of the collections around it. -/
  outer : List Int := []
  /-- How many flow collections are open. -/
  flow : Nat := 0
  /-- A key may begin here. -/
  keyAllowed : Bool := true
  /-- The latest candidate for a key at each depth of flow collections. -/
  candidates : List (Nat × Candidate) := []

namespace Lexer

/-- A step of cutting, or why the document is refused. -/
abbrev Step := Outcome Lexer

def push (l : Lexer) (t : Token) : Lexer := { l with tokens := l.tokens.push [t] }

/-- Puts the cursor behind what was read. -/
def moveTo (l : Lexer) (c : Cursor) : Lexer := { l with cursor := c }

def inFlow (l : Lexer) : Bool := 0 < l.flow

/-! ## Candidates -/

/-- A candidate too far back: on an earlier line, or more than 1024 characters ago. -/
def isStale (l : Lexer) (k : Candidate) : Bool :=
  k.cursor.line != l.cursor.line || 1024 < l.cursor.offset - k.cursor.offset

/-- Gives up the candidates that are too far back. -/
def dropStale (l : Lexer) : Step :=
  if l.candidates.any fun (_, k) => l.isStale k && k.required then malformed
  else .ok { l with candidates := l.candidates.filter fun (_, k) => !l.isStale k }

/-- Gives up the candidate at this depth. -/
def dropCandidate (l : Lexer) : Step :=
  if l.candidates.any fun (depth, k) => depth = l.flow && k.required then malformed
  else .ok { l with candidates := l.candidates.filter fun (depth, _) => depth ≠ l.flow }

/-- Makes what begins here a candidate, if a key may begin here. -/
def saveCandidate (l : Lexer) : Step :=
  if !l.keyAllowed then .ok l
  else do
    let required := !l.inFlow && l.indent = l.cursor.column
    let l ← l.dropCandidate
    return { l with
      tokens := l.tokens.push []
      candidates := (l.flow, ⟨l.tokens.size, required, l.cursor⟩) :: l.candidates }

/-! ## Indentation -/

/-- Closes the block collections that are indented deeper than a column. -/
def unwind (column : Int) : (outer : List Int) → Lexer → Lexer
  | [], l => l
  | parent :: outer, l =>
    if column < l.indent then
      unwind column outer { l.push .blockEnd with indent := parent, outer }
    else l

/-- Goes back to a column; inside a flow collection columns do not count. -/
def unwindTo (l : Lexer) (column : Int) : Lexer := if l.inFlow then l else unwind column l.outer l

/-- Goes to a deeper column; `true` if it is deeper. -/
def indentTo (l : Lexer) (column : Int) : Bool × Lexer :=
  if l.indent < column then (true, { l with indent := column, outer := l.indent :: l.outer })
  else (false, l)

/-- Opens a block collection at the cursor, unless one is open at its column. -/
def openBlock (l : Lexer) (start : Token) : Lexer :=
  match l.indentTo l.cursor.column with
  | (true, l) => l.push start
  | (false, l) => l

/-! ## One token -/

/-- Skips blanks, comments and line ends; after a line end a key may begin. -/
def skipToToken : (fuel : Nat) → Lexer → Lexer
  | 0, l => l
  | fuel + 1, l =>
    let c := l.cursor.skipSpaces.skipComment
    match c.lineEnd? with
    | some (_, c) => skipToToken fuel { l.moveTo c with keyAllowed := l.keyAllowed || !l.inFlow }
    | none => l.moveTo c

/-- What stands by itself: indicators of documents and of flow collections. -/
def simple (l : Lexer) (t : Token) (length : Nat) : Lexer :=
  (l.push t).moveTo (l.cursor.skip length)

/-- A line that divides documents. -/
def documentMark (l : Lexer) (t : Token) : Step := do
  let l ← (l.unwindTo (-1)).dropCandidate
  return { l.simple t 3 with keyAllowed := false }

def flowStart (l : Lexer) (t : Token) : Step := do
  let l ← l.saveCandidate
  return { l.simple t 1 with flow := l.flow + 1, keyAllowed := true }

def flowEnd (l : Lexer) (t : Token) : Step := do
  if !l.inFlow then l.cursor.refuse 1
  let l ← l.dropCandidate
  return { l.simple t 1 with flow := l.flow - 1, keyAllowed := false }

def flowEntry (l : Lexer) : Step := do
  let l ← l.dropCandidate
  return { l.simple .flowEntry 1 with keyAllowed := true }

/-- The mark of an item. Inside of a flow collection it is out of place, but that shows later. -/
def blockEntry (l : Lexer) : Step := do
  if !l.inFlow && !l.keyAllowed then l.cursor.refuse 1
  let l ← (if l.inFlow then l else l.openBlock .blockSequence).dropCandidate
  return { l.simple .blockEntry 1 with keyAllowed := true }

/-- A key that is marked as one. -/
def explicitKey (l : Lexer) : Step := do
  if !l.inFlow && !l.keyAllowed then l.cursor.refuse 1
  let l := if l.inFlow then l else l.openBlock .blockMapping
  let l ← l.dropCandidate
  return { l.simple .key 1 with keyAllowed := !l.inFlow }

/-- A colon: it makes the candidate in front of it a key, if there is one. -/
def value (l : Lexer) : Step :=
  match l.candidates.lookup l.flow with
  | some k => do
    let (opens, l) :=
      if l.inFlow then (false, l) else l.indentTo k.cursor.column
    let l := { l with
      tokens := l.tokens.setIfInBounds k.slot (if opens then [.blockMapping, .key] else [.key])
      candidates := l.candidates.filter fun (depth, _) => depth ≠ l.flow }
    return { l.simple .value 1 with keyAllowed := false }
  | none => do
    if !l.inFlow && !l.keyAllowed then l.cursor.refuse 1
    let l := if l.inFlow then l else l.openBlock .blockMapping
    let l ← { l with keyAllowed := !l.inFlow }.dropCandidate
    return l.simple .value 1

/-- The name behind the mark of an anchor or an alias. -/
def name (c : Cursor) : Scanned :=
  let (name, c) := c.next.take WrittenTag.isNameChar
  if name.isEmpty || !(isGap c.peek || "?:,]\x7d%@\x60".toList.contains c.peek) then c.refuse
  else .ok (name, c)

def anchor (l : Lexer) (token : String → Token) : Step := do
  let l ← l.saveCandidate
  let (name, c) ← name l.cursor
  return { (l.push (token (.ofList name))).moveTo c with keyAllowed := false }

def tag (l : Lexer) : Step := do
  let l ← l.saveCandidate
  let (t, c) ← WrittenTag.scan l.cursor
  return { (l.push (.tag t)).moveTo c with keyAllowed := false }

/-- A number of a version. -/
def versionNumber (c : Cursor) : Outcome (Nat × Cursor) := do
  let (digits, d) := c.take Char.isDigit
  if digits.isEmpty then d.refuse
  if let some f := d.stop? then throw f
  if Numeral.digitLimit < digits.length then throw (.overlongInteger digits.length)
  return (Text.ofDigits 10 (digits.map fun x => x.toNat - '0'.toNat), d)

/-- The version behind its directive. -/
def version (c : Cursor) : Outcome (Token × Cursor) := do
  let (major, c) ← versionNumber c.skipSpaces
  if c.peek ≠ '.' then c.refuse
  let (_, c) ← versionNumber c.next
  if !(c.peek = ' ' || isBreakOrEnd c.peek) then c.refuse
  return (.version (major = 1), c)

/-- A directive: a version, a handle of tags, or one that says nothing. It takes its whole line, so
that no key may begin right behind it. -/
def directive (l : Lexer) : Step := do
  let l ← (l.unwindTo (-1)).dropCandidate
  let (name, c) := l.cursor.next.take WrittenTag.isNameChar
  if name.isEmpty || !(c.peek = ' ' || isBreakOrEnd c.peek) then c.refuse
  let (token, c) ←
    if name = "YAML".toList then version c
    else if name = "TAG".toList then
      (WrittenTag.scanDeclaration c).map fun (handle, beginning, c) =>
        (.handle handle beginning, c)
    else .ok (.reserved, c.skipWhile (!isBreakOrEnd ·))
  let c := c.skipSpaces.skipComment
  if !isBreakOrEnd c.peek then c.refuse
  let c := (c.lineEnd?.map (·.2)).getD c
  return { (l.push token).moveTo c with keyAllowed := false }

def blockScalar (l : Lexer) (folded : Bool) : Step := do
  let l ← { l with keyAllowed := true }.dropCandidate
  let (text, c) ← block folded l.indent l.cursor.next
  return (l.push (.scalar (pointsOf text) false)).moveTo c

def quotedScalar (l : Lexer) : Step := do
  let l ← l.saveCandidate
  let (points, c) ← quoted l.cursor
  return { (l.push (.scalar points false)).moveTo c with keyAllowed := false }

def plainScalar (l : Lexer) : Step := do
  let l ← l.saveCandidate
  let (text, newLine, c) := plain l.inFlow l.indent l.cursor
  return { (l.push (.scalar (pointsOf text) true)).moveTo c with keyAllowed := newLine }

/-- A plain text may begin here. -/
def plainBegins (inFlow : Bool) (x next : Char) : Bool :=
  !(isGap x || "-?:,[]\x7b\x7d#&*!|>'\x22%@\x60".toList.contains x)
    || (!isGap next && (x = '-' || (!inFlow && (x = '?' || x = ':'))))

/-- The token at the cursor. -/
def token (l : Lexer) : Step :=
  let c := l.cursor
  let x := c.peek
  if x = '%' && c.column = 0 then l.directive
  else if c.column = 0 && c.atMarks '-' then l.documentMark .documentStart
  else if c.column = 0 && c.atMarks '.' then l.documentMark .documentEnd
  else if x = '[' then l.flowStart .flowSequence
  else if x = '\x7b' then l.flowStart .flowMapping
  else if x = ']' then l.flowEnd .flowSequenceEnd
  else if x = '\x7d' then l.flowEnd .flowMappingEnd
  else if x = ',' then l.flowEntry
  else if x = '-' && isGap (c.ahead 1) then l.blockEntry
  else if x = '?' && (l.inFlow || isGap (c.ahead 1)) then l.explicitKey
  else if x = ':' && (l.inFlow || isGap (c.ahead 1)) then l.value
  else if x = '*' then l.anchor .alias
  else if x = '&' then l.anchor .anchor
  else if x = '!' then l.tag
  else if x = '|' && !l.inFlow then l.blockScalar false
  else if x = '>' && !l.inFlow then l.blockScalar true
  else if x = '\x27' || x = '\x22' then l.quotedScalar
  else if plainBegins l.inFlow x (c.ahead 1) then l.plainScalar
  else c.refuse 1

/-- Refuses to go on where the text stops. -/
def unlessStopped (l : Lexer) : Step :=
  match l.cursor.stop? with
  | some f => .error f
  | none => .ok l

/-- Cuts off what comes next; nothing is left at the end of the text. -/
def step (l : Lexer) : Outcome (Option Lexer) := do
  let l ← (skipToToken (l.cursor.rest.length + 1) l).unlessStopped
  let l ← l.dropStale
  let l := l.unwindTo l.cursor.column
  if l.cursor.rest.isEmpty then return none
  return some (← (← l.token).unlessStopped)

/-- What closes the collections that are open at the end of the text. -/
def close (l : Lexer) : Step :=
  ((skipToToken (l.cursor.rest.length + 1) l).dropStale).bind fun l =>
    (l.unwindTo (-1)).dropCandidate

/-- All tokens so far. -/
def allTokens (l : Lexer) : List Token := l.tokens.toList.flatten

/-- The tokens that count although the next step fails: those before the first slot that may still
be filled. -/
def settledTokens (l : Lexer) : List Token :=
  let slots := (l.candidates.filter fun (_, k) => !l.isStale k).map fun (_, k) => k.slot
  (l.tokens.toList.take (slots.foldl min l.tokens.size)).flatten

/-- Cuts the rest of a document. Each token takes a character, so its length is fuel enough. -/
def run : (fuel : Nat) → Lexer → List Token × Option Fault
  | 0, l => (l.settledTokens, some .malformedDocument)
  | fuel + 1, l =>
    match l.step with
    | .error f => (l.settledTokens, some f)
    | .ok (some l) => run fuel l
    | .ok none =>
      match l.close with
      | .error f => (l.settledTokens, some f)
      | .ok l => (l.allTokens, none)

end Lexer

/-- The tokens of a document, and why there are no more; without a reason they are complete. -/
def tokens (intake : Intake) : List Token × Option Fault :=
  let start : Cursor := { rest := intake.text, stop := intake.stop }
  let start := if start.peek = byteOrderMark then start.next else start
  Lexer.run (intake.text.length + 1) { cursor := start }

end LedStudio.Yaml
