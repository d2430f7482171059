import LedStudio.Http.Integer
import LedStudio.Http.Message
import LedStudio.Json.Encoding
import LedStudio.Json.Reader
import LedStudio.Pattern.Basic
import LedStudio.Text.Search

/-!
# Request bodies

The bodies that requests carry. A body is read as JSON first, and then checked field by field; all
fields that are wrong are reported together, in the order in which they are declared.
-/

namespace LedStudio.Http

/-- A field that is wrong, and how. -/
structure FieldError where
  field : String
  message : String
  kind : String
  deriving DecidableEq, Repr

/-- A value, or everything that is wrong with it. -/
abbrev Checked (α : Type) := Except (List FieldError) α

namespace Checked

/-- Both values, or the errors of both. -/
def both (a : Checked α) (b : Checked β) : Checked (α × β) :=
  match a, b with
  | .ok a, .ok b => .ok (a, b)
  | .ok _, .error e => .error e
  | .error e, .ok _ => .error e
  | .error d, .error e => .error (d ++ e)

end Checked

/-! ## Fields -/

def wrong (field message kind : String) : Checked α := .error [⟨field, message, kind⟩]

def missing (field : String) : Checked α := wrong field "Field required" "missing"

/-- An integer, or what stands for one. -/
def integer (field : String) (v : Json) : Checked Int :=
  match readInteger v with
  | .ok n => .ok n
  | .error e => wrong field e.message e.kind

def notAText (field : String) : Checked α :=
  wrong field "Input should be a valid string" "string_type"

/-- A pattern by its text, which may hold half characters. -/
def patternText (field : String) : Json → Checked PatternRef
  | .text s => .ok (.value (.text s))
  | .brokenText points => .ok (.broken points)
  | _ => notAText field

/-- A text that is not empty and holds no half characters. -/
def sentence (field : String) : Json → Checked String
  | .text s =>
    if s.isEmpty then wrong field "String should have at least 1 character" "string_too_short"
    else .ok s
  | .brokenText _ => wrong field IntegerError.notUnicode.message IntegerError.notUnicode.kind
  | _ => notAText field

/-- A field that may be missing or null. -/
def optional (read : String → Json → Checked α) (field : String) (body : Json) :
    Checked (Option α) :=
  match body.field? field with
  | none => .ok none
  | some .null => .ok none
  | some v => (read field v).map some

/-- A field that has to be there. -/
def required (read : String → Json → Checked α) (field : String) (body : Json) : Checked α :=
  match body.field? field with
  | none => missing field
  | some v => read field v

/-! ## Bodies -/

/-- Settings to change; what is not given stays. -/
structure ConfigUpdate where
  ledCount : Option Int
  brightness : Option Int
  speed : Option Int
  deriving DecidableEq, Repr

def ConfigUpdate.read (body : Json) : Checked ConfigUpdate :=
  (((optional integer "led_count" body).both (optional integer "brightness" body)).both
    (optional integer "speed" body)).map fun ((ledCount, brightness), speed) =>
      { ledCount, brightness, speed }

/-- A pattern to select. -/
def readPattern (body : Json) : Checked PatternRef := required patternText "pattern" body

/-- A prompt, which may not be empty. -/
def readPrompt (body : Json) : Checked String := required sentence "prompt" body

/-- A sketch to write; what is not given comes from the session. -/
structure CodeRequest where
  pattern : Option PatternRef
  settings : ConfigUpdate

def CodeRequest.read (body : Json) : Checked CodeRequest :=
  ((optional patternText "pattern" body).both (ConfigUpdate.read body)).map
    fun (pattern, settings) => { pattern, settings }

/-! ## Reading -/

/-- A body before its fields are looked at. -/
inductive RawBody where
  | absent
  /-- Its bytes are no text, or it goes beyond what is read. -/
  | unreadable
  | malformed (offset : Nat)
  | json (v : Json)
  /-- It is not declared to be JSON. -/
  | opaqueBytes

/-- How deep lists and objects of a body may be nested. -/
def nestingLimit : Nat := 965

/-- The name of a content type, without its parameters. -/
def contentType (header : String) : List Char :=
  Text.lower (Text.trim (header.toList.takeWhile (· ≠ ';')))

/-- A content type that stands for JSON. -/
def isJsonType (header : String) : Bool :=
  match Text.splitAt '/' (contentType header) with
  | [main, sub] =>
    main = "application".toList && (sub = "json".toList || "+json".toList.isSuffixOf sub)
  | _ => false

/-- The body of a request, read as JSON. -/
def Request.rawBody (r : Request) : RawBody :=
  match r.body with
  | none => .absent
  | some s =>
    if s.isEmpty then .absent
    else if !((r.header? "content-type").any isJsonType) then .opaqueBytes
    else
      match (Json.Encoding.read s).map (Json.parsePoints nestingLimit) with
      | none => .unreadable
      | some (.ok v) => .json v
      | some (.error (.malformed offset)) => .malformed offset
      | some (.error .beyondLimits) => .unreadable

/-- What is wrong with a body that is no object. -/
def notAnObject : Checked α :=
  wrong "" "Input should be a valid dictionary or object to extract fields from"
    "model_attributes_type"

/-- What a body comes to, by the way its fields are read. -/
inductive Reading (α : Type) where
  /-- It is refused as a whole. -/
  | unreadable
  /-- It is refused before anything else is looked at. -/
  | malformed (errors : List FieldError)
  | checked (fields : Checked α)

/-- Reads the fields of a body, which has to be an object. -/
def RawBody.check (read : Json → Checked α) : RawBody → Reading α
  | .absent => .checked (missing "")
  | .unreadable => .unreadable
  | .malformed offset => .malformed [⟨toString offset, "JSON decode error", "json_invalid"⟩]
  | .json (.object fields) => .checked (read (.object fields))
  | .json _ | .opaqueBytes => .checked notAnObject

end LedStudio.Http
