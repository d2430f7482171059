import LedStudio.Number.Mixed
import LedStudio.Text.Blank
import LedStudio.Text.Case

/-!
# Choices

A closed list of named members that callers pick from by text. A member answers to its name and,
if its value is a text, to that; letter case and the blanks around the given text do not count.
-/

namespace LedStudio

namespace Value

mutual
/-- Equality of values: equal numbers are equal whatever their kind, and maps are equal whatever
the order of their entries. -/
def equals : Value → Value → Bool
  | list a, list b => equalItems a b
  | map a, map b => a.length == b.length && equalEntries a b
  | float .nan, _ => false
  | a, b => sameKey a b

def equalItems : List Value → List Value → Bool
  | [], [] => true
  | v :: a, w :: b => equals v w && equalItems a b
  | _, _ => false

def equalEntries : List (Value × Value) → Entries → Bool
  | [], _ => true
  | (key, v) :: rest, entries =>
    (match Entries.get? entries key with
      | some w => equals v w
      | none => false) && equalEntries rest entries
end

end Value

/-- A member of a choice: its name, its value and what it stands for. -/
structure Member (α : Type) where
  name : String
  value : Value
  item : α

/-- A named list of members. -/
structure Choice (α : Type) where
  name : String
  members : List (Member α)

/-- Code points as they are compared: without the blanks around them, in lower case. -/
def searchKey (points : List Nat) : List Nat := Text.lowerPoints (Text.trimPoints points)

namespace Member

/-- What a member goes by: its name, and its value if that is a text. -/
def names (m : Member α) : List (List Nat) :=
  (Value.text m.name).points :: if m.value.kind = .text then [m.value.points] else []

/-- The member answers to a key. -/
def answersTo (m : Member α) (key : List Nat) : Bool :=
  m.names.any fun name => Text.lowerPoints name == key

end Member

namespace Choice

/-- The choice with these members, in order, where a member whose value occurred before is only
another name for the earlier one. -/
def distinct (name : String) (members : List (Member α)) : Choice α :=
  ⟨name, members.foldl (fun kept m =>
    if kept.any fun k => k.value.equals m.value then kept else kept ++ [m]) []⟩

/-- The member with this very name. -/
def named? (c : Choice α) (name : String) : Option (Member α) := c.members.find? (·.name = name)

/-- The member that one of the names declared for `distinct` stands for: the one that kept the name,
or the one whose value it shares. -/
def declared? (c : Choice α) (declared : List (Member α)) (name : String) : Option (Member α) :=
  match c.named? name with
  | some m => some m
  | none => do
    let m ← declared.find? (·.name = name)
    c.members.find? fun kept => kept.value.equals m.value

/-- The first member that answers to a row of code points. -/
def findPoints? (c : Choice α) (points : List Nat) : Option (Member α) :=
  c.members.find? (·.answersTo (searchKey points))

/-- The first member that answers to a text. -/
def find? (c : Choice α) (text : String) : Option (Member α) :=
  c.findPoints? (Value.text text).points

/-- The first member that answers to the text of a value, or else the default. A value that cannot
be written is refused before. -/
def pick (c : Choice α) (name : Value) (default : Option (Member α)) : Outcome (Member α) := do
  match c.findPoints? (← name.writtenPoints) with
  | some m => return m
  | none =>
    match default with
    | some m => return m
    | none => throw (.noSuchMember c.name name)

end Choice
end LedStudio
