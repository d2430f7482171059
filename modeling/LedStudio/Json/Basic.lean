import LedStudio.Text.Half
import LedStudio.Value

/-!
# JSON values

The values of the web interface. Integers keep their size, and an object keeps its fields in the
order in which they came first. A text with half characters in it is no sequence of characters, and
kept as its code points.
-/

namespace LedStudio

inductive Json where
  | null
  | bool (b : Bool)
  | int (n : Int)
  | float (x : Double)
  | text (s : String)
  | brokenText (points : List Nat)
  | list (items : List Json)
  | object (fields : List (String × Json))
  deriving Repr, Inhabited

namespace Json

/-- Sets a field of an object: in place when it is there, at the end when it is new. -/
def setField : List (String × Json) → String → Json → List (String × Json)
  | [], name, v => [(name, v)]
  | field :: rest, name, v =>
    if field.1 = name then (name, v) :: rest else field :: setField rest name v

/-- The field of an object; no other value has fields. -/
def field? (name : String) : Json → Option Json
  | object fields => (fields.find? fun field => field.1 = name).map (·.2)
  | _ => none

/-! ## Values -/

/-- The spelling of a double, which also has names for what is not finite. -/
def doubleText : Double → String
  | .infinite negative => if negative then "-Infinity" else "Infinity"
  | .nan => "NaN"
  | x => x.text

/-- The text that a key of a map becomes. -/
def keyText : Value → String
  | .null => "null"
  | .bool b => if b then "true" else "false"
  | .float x => doubleText x
  | .loneNan => doubleText .nan
  | v => v.display

mutual
/-- What a value is in JSON; the keys of a map become texts, of which the last of equal ones counts.
What has no form of its own is shown by its text or as a list. -/
def ofValue : Value → Json
  | .null => null
  | .bool b => bool b
  | .int n => int n
  | .float x => float x
  | .loneNan => float .nan
  | .text s => text s
  | .brokenText points => brokenText points
  | .bytes b => text (Text.quotedBytes b)
  | .date d => text d.text
  | .moment m => text m.text
  | .list items => list (ofItems items)
  | .tuple items => list (ofItems items)
  | .set members => list (ofItems members)
  | .map entries => object (ofEntries [] entries)
  | .again isMap => if isMap then object [] else list []

def ofItems : List Value → List Json
  | [] => []
  | v :: rest => ofValue v :: ofItems rest

def ofEntries (done : List (String × Json)) : List (Value × Value) → List (String × Json)
  | [] => done
  | (key, v) :: rest => ofEntries (setField done (keyText key) (ofValue v)) rest
end

/-! ## Writing -/

/-- One character of a quoted text. -/
def escapeChar (c : Char) : List Char :=
  if c = Text.quotationMark ∨ c = Text.backslash then [Text.backslash, c]
  else if c.toNat < 0x20 then Text.backslash :: 'u' :: Text.hexDigits 4 c.toNat
  else [c]

/-- A text between quotation marks. -/
def quoted (s : String) : String :=
  .ofList (Text.quotationMark :: s.toList.flatMap escapeChar ++ [Text.quotationMark])

/-- One code point of a quoted text; half characters are escaped. -/
def escapePoint (point : Nat) : List Char :=
  if Text.isHalf point then Text.backslash :: 'u' :: Text.hexDigits 4 point
  else escapeChar (.ofNat point)

/-- Code points between quotation marks. -/
def quotedPoints (points : List Nat) : String :=
  .ofList (Text.quotationMark :: points.flatMap escapePoint ++ [Text.quotationMark])

mutual
/-- The text of a value, without blanks. -/
def render : Json → String
  | null => "null"
  | bool b => if b then "true" else "false"
  | int n => toString n
  | float x => doubleText x
  | text s => quoted s
  | brokenText points => quotedPoints points
  | list items => "[" ++ ",".intercalate (renderItems items) ++ "]"
  | object fields => "\x7b" ++ ",".intercalate (renderFields fields) ++ "\x7d"

def renderItems : List Json → List String
  | [] => []
  | v :: rest => render v :: renderItems rest

def renderFields : List (String × Json) → List String
  | [] => []
  | (name, v) :: rest => (quoted name ++ ":" ++ render v) :: renderFields rest
end

end Json
end LedStudio
