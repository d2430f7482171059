import LedStudio.Text.Utf8
import LedStudio.Yaml.Cursor

/-!
# Tags

A tag says what a node is. It is written in full between angle brackets, or as a handle, which
stands for the beginning of its name, and the rest of it. Characters that a name cannot hold are
written as bytes behind percent signs.
-/

namespace LedStudio.Yaml

/-- A tag as it is written. -/
structure WrittenTag where
  handle : Option String
  suffix : String
  deriving DecidableEq, Repr, Inhabited

namespace WrittenTag

/-- A character of the name of a handle, an anchor or a directive. -/
def isNameChar (c : Char) : Bool := c.isAlphanum || c = '-' || c = '_'

/-- A character of the name of a tag. -/
def isAddressChar (c : Char) : Bool := c.isAlphanum || "-;/?:@&=+$,_.!~*'()[]%".toList.contains c

/-- The bytes behind percent signs that stand here. -/
def escapedBytes : (fuel : Nat) → Cursor → Outcome (List UInt8 × Cursor)
  | 0, c => .ok ([], c)
  | fuel + 1, c =>
    if c.peek ≠ '%' then .ok ([], c)
    else
      match Text.asciiDigit? 16 (c.ahead 1), Text.asciiDigit? 16 (c.ahead 2) with
      | some high, some low =>
        (escapedBytes fuel (c.skip 3)).map fun (bytes, c) => (.ofNat (high * 16 + low) :: bytes, c)
      | none, _ => c.refuse 1
      | _, none => c.refuse 2

/-- The characters that escaped bytes stand for. -/
def escaped (c : Cursor) : Scanned :=
  match escapedBytes (c.rest.length + 1) c with
  | .error f => .error f
  | .ok (bytes, c) =>
    match Text.decode bytes with
    | .ok text => .ok (text, c)
    | .error _ => c.refuse

/-- The rest of the name of a tag, after what has been read of it. -/
def addressRest : (fuel : Nat) → List Char → Cursor → Scanned
  | 0, _, _ => malformed
  | fuel + 1, done, c =>
    if c.peek = '%' then
      match escaped c with
      | .ok (part, c) => addressRest fuel (done ++ part) c
      | .error f => .error f
    else
      let (part, c) := c.take fun x => isAddressChar x && x ≠ '%'
      if part.isEmpty then .ok (done, c) else addressRest fuel (done ++ part) c

/-- The name of a tag or the rest of it, which is not empty. -/
def address (c : Cursor) : Scanned := do
  let (name, c) ← addressRest (c.rest.length + 1) [] c
  if name.isEmpty then c.refuse else return (name, c)

/-- A handle: one exclamation mark, or a name between two. -/
def handleAt (c : Cursor) : Scanned :=
  let (name, d) := c.next.take isNameChar
  if c.peek ≠ '!' then c.refuse
  else if c.ahead 1 = ' ' then .ok (['!'], c.next)
  else if d.peek = '!' then .ok ('!' :: name ++ ['!'], d.next)
  else d.refuse

/-- A tag by its full name. -/
def full (c : Cursor) : Outcome (WrittenTag × Cursor) := do
  let (name, c) ← address (c.skip 2)
  if c.peek ≠ '>' then c.refuse else return (⟨none, .ofList name⟩, c.next)

/-- A tag by a handle. The mark in front is a handle by itself if there is no other. -/
def short (c : Cursor) : Outcome (WrittenTag × Cursor) := do
  let (word, behind) := c.next.take fun x => !(x = ' ' || isBreakOrEnd x)
  if let some f := if word.contains '!' then none else behind.stop? then throw f
  let (handle, c) ← if word.contains '!' then handleAt c else .ok (['!'], c.next)
  let (suffix, c) ← address c
  return (⟨some (.ofList handle), .ofList suffix⟩, c)

/-- The tag at the cursor. A mark alone is a full name. -/
def scan (c : Cursor) : Outcome (WrittenTag × Cursor) := do
  let (tag, c) ←
    if c.ahead 1 = '<' then full c
    else if isGap (c.ahead 1) then .ok (⟨none, "!"⟩, c.next)
    else short c
  if c.peek = ' ' || isBreakOrEnd c.peek then return (tag, c) else c.refuse

/-- The handle and the beginning of names that a directive declares. -/
def scanDeclaration (c : Cursor) : Outcome (String × String × Cursor) := do
  let (handle, c) ← handleAt c.skipSpaces
  if c.peek ≠ ' ' then c.refuse
  else
    let (beginning, c) ← address c.skipSpaces
    if c.peek = ' ' || isBreakOrEnd c.peek then
      return (.ofList handle, .ofList beginning, c)
    else c.refuse

end WrittenTag

/-! ## Meaning -/

/-- The handles that are there without being declared. -/
def commonHandles : List (String × String) := [("!", "!"), ("!!", "tag:yaml.org,2002:")]

/-- The name of a tag, by the handles that are known. -/
def WrittenTag.name (handles : List (String × String)) (t : WrittenTag) : Outcome String :=
  match t.handle with
  | none => .ok t.suffix
  | some handle =>
    match handles.lookup handle with
    | some beginning => .ok (beginning ++ t.suffix)
    | none => malformed

/-- What a node is. -/
inductive Tag where
  | null | bool | int | float | moment | text
  /-- Bytes, written in sixty-four characters. -/
  | binary
  | sequence | mapping
  /-- The keys of a mapping. -/
  | set
  /-- A list of pairs, each written as a mapping of its own. -/
  | pairs
  /-- As a key: the pairs of the value are taken in. -/
  | merge
  /-- As a key: a text; as a value it stands for nothing. -/
  | default
  | unknown
  deriving DecidableEq, Repr, Inhabited

/-- The tag of a collection. -/
def Tag.isCollection (t : Tag) : Bool := t = sequence || t = mapping || t = set || t = pairs

/-- The tags with a meaning, by their short names. -/
def Tag.known : List (String × Tag) :=
  [("null", null), ("bool", bool), ("int", int), ("float", float), ("timestamp", moment),
   ("binary", binary), ("str", text), ("seq", sequence), ("map", mapping), ("set", set),
   ("omap", pairs), ("pairs", pairs), ("merge", merge), ("value", default)]

/-- The tag of a name. -/
def Tag.ofName (name : String) : Tag :=
  ((Tag.known.find? fun entry => "tag:yaml.org,2002:" ++ entry.1 = name).map (·.2)).getD unknown

end LedStudio.Yaml
