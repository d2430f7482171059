import LedStudio.Calendar
import LedStudio.Number.Shortest
import LedStudio.Text.Quoted

/-!
# Values

What a document holds and what a caller may pass: nothing, a truth value, a number, a text, bytes, a
day, a moment, or a collection of values. A value has a name for its kind and two texts: `display`,
where a text stands for itself, and `inspect`, where it is quoted.
-/

namespace LedStudio

inductive Value where
  | null
  | bool (b : Bool)
  | int (n : Int)
  | float (x : Double)
  /-- As a key, a number that is none and is the same as no other. -/
  | loneNan
  | text (s : String)
  /-- A text with half characters among its code points. -/
  | brokenText (points : List Nat)
  | bytes (b : List UInt8)
  | date (d : Date)
  | moment (m : Moment)
  | list (items : List Value)
  /-- A row of values that is no list. -/
  | tuple (items : List Value)
  /-- Keys without values. -/
  | set (members : List Value)
  | map (entries : List (Value × Value))
  /-- A list or a map where it stands inside of itself. -/
  | again (isMap : Bool)
  deriving Repr, Inhabited

/-- The kinds of values. -/
inductive Kind where
  | null | bool | int | float | text | bytes | date | moment | list | tuple | set | map
  deriving DecidableEq, Repr

/-- The name of a kind in messages. -/
def Kind.name : Kind → String
  | .null => "NoneType"
  | .bool => "bool"
  | .int => "int"
  | .float => "float"
  | .text => "str"
  | .bytes => "bytes"
  | .date => "date"
  | .moment => "datetime"
  | .list => "list"
  | .tuple => "tuple"
  | .set => "set"
  | .map => "dict"

/-- The full name of a kind, where an operation does not take it. -/
def Kind.fullName : Kind → String
  | .date => "datetime.date"
  | .moment => "datetime.datetime"
  | kind => kind.name

namespace Value

def kind : Value → Kind
  | null => .null
  | bool _ => .bool
  | int _ => .int
  | float _ => .float
  | loneNan => .float
  | text _ => .text
  | brokenText _ => .text
  | bytes _ => .bytes
  | date _ => .date
  | moment _ => .moment
  | list _ => .list
  | tuple _ => .tuple
  | set _ => .set
  | map _ => .map
  | again isMap => if isMap then .map else .list

/-- The text of code points. -/
def ofPoints (points : List Nat) : Value :=
  match Text.ofPoints? points with
  | some s => text s
  | none => brokenText points

/-- The code points of a text; other values have none. -/
def points : Value → List Nat
  | text s => s.toList.map Char.toNat
  | brokenText points => points
  | _ => []

/-! ## Texts of values -/

mutual
/-- The text of a value in which texts are quoted. -/
def inspect : Value → String
  | null => "None"
  | bool b => if b then "True" else "False"
  | int n => toString n
  | float x => x.text
  | loneNan => Double.nan.text
  | text s => Text.quoted s
  | brokenText points => Text.quotedPoints points
  | bytes b => Text.quotedBytes b
  | date d => d.inspect
  | moment m => m.inspect
  | list items => "[" ++ ", ".intercalate (inspectItems items) ++ "]"
  | tuple [v] => "(" ++ inspect v ++ ",)"
  | tuple items => "(" ++ ", ".intercalate (inspectItems items) ++ ")"
  | set [] => "set()"
  | set members => "\x7b" ++ ", ".intercalate (inspectItems members) ++ "\x7d"
  | map entries => "\x7b" ++ ", ".intercalate (inspectEntries entries) ++ "\x7d"
  | again isMap => if isMap then "\x7b...\x7d" else "[...]"

def inspectItems : List Value → List String
  | [] => []
  | v :: rest => inspect v :: inspectItems rest

def inspectEntries : List (Value × Value) → List String
  | [] => []
  | (key, v) :: rest => (inspect key ++ ": " ++ inspect v) :: inspectEntries rest
end

/-- The text of a value; a text stands for itself, and so do days and moments. Two halves of a pair
are shown as the character that they stand for, and other half characters by the replacement
character. -/
def display : Value → String
  | text s => s
  | brokenText points => Text.shownPoints (Text.joinUnits points)
  | date d => d.text
  | moment m => m.text
  | v => inspect v

/-- The value counts as true: nothing, zero and what is empty do not. -/
def isTruthy : Value → Bool
  | null => false
  | bool b => b
  | int n => n != 0
  | float x => x != .finite 0 && x != .negZero
  | loneNan => true
  | text s => !s.isEmpty
  | brokenText points => !points.isEmpty
  | bytes b => !b.isEmpty
  | date _ => true
  | moment _ => true
  | list items => !items.isEmpty
  | tuple items => !items.isEmpty
  | set members => !members.isEmpty
  | map entries => !entries.isEmpty
  | again _ => true

/-! ## Keys -/

/-- The number that a value is, when it is one. -/
def exactNumber? : Value → Option Rat
  | bool b => some (if b then 1 else 0)
  | int n => some n
  | float x => x.rational?
  | _ => none

/-- Two values are one key of a map. Equal numbers are, whatever their kind, and so is "not a
number" with itself, unless it is a lone one; collections are never keys. -/
def sameKey (a b : Value) : Bool :=
  match a, b with
  | null, null => true
  | text s, text t => s == t
  | brokenText p, brokenText q => p == q
  | bytes b, bytes c => b == c
  | date d, date e => d == e
  | moment m, moment n => m.same n
  | float (.infinite m), float (.infinite n) => m == n
  | float .nan, float .nan => true
  | a, b =>
    match a.exactNumber?, b.exactNumber? with
    | some p, some q => p == q
    | _, _ => false

/-- A value that may stand as a key. -/
def isKey : Value → Bool
  | list _ | tuple _ | set _ | map _ | again _ => false
  | _ => true

end Value

/-! ## Maps -/

/-- The entries of a map in the order in which their keys came first. -/
abbrev Entries := List (Value × Value)

namespace Entries

/-- The value of a key. -/
def get? (entries : Entries) (key : Value) : Option Value :=
  (entries.find? fun entry => entry.1.sameKey key).map (·.2)

/-- The value of a key that is a text. -/
def field? (entries : Entries) (key : String) : Option Value := get? entries (.text key)

/-- Sets the value of a key: in place when the key is there, at the end when it is new. -/
def insert : Entries → Value → Value → Entries
  | [], key, value => [(key, value)]
  | entry :: rest, key, value =>
    if entry.1.sameKey key then (entry.1, value) :: rest else entry :: insert rest key value

/-- Sets the keys of the second map in the first, one after the other. -/
def merge (entries more : Entries) : Entries :=
  more.foldl (fun acc entry => insert acc entry.1 entry.2) entries

/-- The entries without those of a key. -/
def erase (entries : Entries) (key : Value) : Entries :=
  entries.filter fun entry => !entry.1.sameKey key

end Entries
end LedStudio
