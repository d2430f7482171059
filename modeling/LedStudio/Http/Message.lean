import LedStudio.Json.Basic

/-!
# Requests and responses

What the web interface is asked and what it answers. The names of headers are in small letters.
-/

namespace LedStudio.Http

structure Request where
  method : String
  path : String
  headers : List (String × String) := []
  body : Option String := none

namespace Request

/-- The value of a header. -/
def header? (r : Request) (name : String) : Option String := r.headers.lookup name

/-- One character of a path in an address. What would end the path is written as a byte behind a
percent sign, and control characters that no address holds are left out. -/
def addressChar (c : Char) : List Char :=
  if c = '?' ∨ c = '#' ∨ c = Text.backslash then
    '%' :: (Text.hexDigits 2 c.toNat).map Char.toUpper
  else if c = '\n' ∨ c = '\r' ∨ c = '\t' then []
  else [c]

/-- The path as messages show it. -/
def shownPath (r : Request) : String := .ofList (r.path.toList.flatMap addressChar)

end Request

/-- The contents of a response. -/
inductive Content where
  | json (v : Json)
  | text (s : String)

structure Response where
  status : Nat
  headers : List (String × String)
  content : Content

namespace Response

/-- A JSON response. -/
def json (status : Nat) (v : Json) : Response :=
  ⟨status, [("content-type", "application/json")], .json v⟩

/-- A plain text. -/
def text (status : Nat) (s : String) : Response :=
  ⟨status, [("content-type", "text/plain; charset=utf-8")], .text s⟩

def withHeader (r : Response) (name value : String) : Response :=
  { r with headers := r.headers ++ [(name, value)] }

/-- A response that says why, in one sentence. -/
def refusal (status : Nat) (why : String) : Response :=
  json status (.object [("detail", .text why)])

end Response
end LedStudio.Http
