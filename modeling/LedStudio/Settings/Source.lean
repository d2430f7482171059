import LedStudio.Text.Search
import LedStudio.Yaml.Document

/-!
# Where settings come from

Settings are read from documents that have names. A source gives the document under a name, and the
path that messages show for it. A folder of files is a source.
-/

namespace LedStudio

structure Source where
  read : String → Outcome Value
  path : String → String

/-- A folder of files. The name of a file in a folder further inside has the steps that lead to it.
-/
structure Folder where
  path : String
  files : List (String × List UInt8)

namespace Folder

/-- The steps of a path. Empty steps and single dots lead nowhere. -/
def steps (name : String) : List String :=
  ((Text.splitAt '/' name.toList).map String.ofList).filter fun s => s ≠ "" ∧ s ≠ "."

/-- What an absolute name begins with: two slashes if it has just two, and else one. Other names
begin with nothing. -/
def root (name : String) : String :=
  match (name.toList.takeWhile (· = '/')).length with
  | 0 => ""
  | 2 => "//"
  | _ => "/"

def isAbsolute (name : String) : Bool := root name ≠ ""

/-- The name of what stands in the same folder as another file. -/
def beside (other name : String) : String :=
  if isAbsolute name then name
  else root other ++ "/".intercalate ((steps other).dropLast ++ [name])

/-- The path of a name, taken from the folder unless it is absolute. -/
def pathOf (folder : Folder) (name : String) : String :=
  if isAbsolute name then root name ++ "/".intercalate (steps name)
  else "/".intercalate (folder.path :: steps name)

/-! ## Looking up -/

/-- Where a path leads to. -/
inductive Place where
  /-- The folder itself, or one inside of it, by the steps that lead there. -/
  | inside (steps : List String)
  /-- A folder around it, of which nothing else is known. -/
  | around
  | file (bytes : List UInt8)

/-- The greatest number of bytes in one step of a path. -/
def stepLimit : Nat := 255

/-- The greatest number of bytes in a path. -/
def pathLimit : Nat := 4095

/-- What some steps lead to from the folder. A folder inside is there if a file is in it. -/
def place? (folder : Folder) (path : List String) : Option Place :=
  match folder.files.find? fun (name, _) => steps name = path with
  | some (_, bytes) => some (.file bytes)
  | none =>
    if folder.files.any fun (name, _) => path.isPrefixOf (steps name) then some (.inside path)
    else none

/-- Takes the steps of a path from a place; `path` is what messages show. -/
def walk (folder : Folder) (path : String) : Place → List String → Outcome Place
  | place, [] => .ok place
  | .file _, _ :: _ => .error (.notADirectory path)
  | place, step :: rest =>
    if stepLimit < step.utf8ByteSize then .error (.pathTooLong path)
    else
      match place, step with
      | .inside (first :: more), ".." =>
        walk folder path (.inside (first :: more).dropLast) rest
      | _, ".." => walk folder path .around rest
      | .inside before, step =>
        match folder.place? (before ++ [step]) with
        | some next => walk folder path next rest
        | none => .error (.fileNotFound path)
      | _, _ => .error (.fileNotFound path)

/-- The bytes of the file under a name. -/
def bytes (folder : Folder) (name : String) : Outcome (List UInt8) := do
  let path := folder.pathOf name
  if name.toList.contains '\x00' then throw .nullInPath
  if pathLimit < path.utf8ByteSize then throw (.pathTooLong path)
  match ← walk folder path (if isAbsolute name then .around else .inside []) (steps name) with
  | .file bytes => return bytes
  | _ => throw (.isADirectory path)

def source (folder : Folder) : Source where
  read name := (folder.bytes name).bind Yaml.loadBytes
  path := folder.pathOf

/-- Puts a file into the folder. -/
def write (folder : Folder) (name : String) (bytes : List UInt8) : Folder :=
  { folder with files := (name, bytes) :: folder.files.filter (·.1 ≠ name) }

/-- Takes a file out of the folder. -/
def remove (folder : Folder) (name : String) : Folder :=
  { folder with files := folder.files.filter (·.1 ≠ name) }

end Folder
end LedStudio
