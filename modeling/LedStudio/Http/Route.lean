import LedStudio.Http.Message
import LedStudio.Text.Search

/-!
# Routes

The paths that are served and the method of each.
-/

namespace LedStudio.Http

inductive Route where
  | health
  | patterns
  | pattern (name : String)
  | session | config | selectPattern | start | stop | reset | step | play | prompt
  | code | download
  deriving DecidableEq, Repr

namespace Route

def root : String := "/api/v1"

/-- The paths that stand for one route each. -/
def fixed : List (String × Route) :=
  [(root ++ "/session", session), (root ++ "/session/config", config),
   (root ++ "/session/pattern", selectPattern), (root ++ "/session/start", start),
   (root ++ "/session/stop", stop), (root ++ "/session/reset", reset),
   (root ++ "/session/step", step), (root ++ "/session/play", play),
   (root ++ "/session/prompt", prompt), (root ++ "/patterns", patterns),
   (root ++ "/code", code), (root ++ "/code/download", download), ("/api/health", health)]

/-- The path without one line end behind it. -/
def withoutLineEnd (path : List Char) : List Char :=
  if path.getLast? = some '\n' then path.dropLast else path

def patternRoot : List Char := (root ++ "/patterns/").toList

/-- The name at the end of a pattern's path: a single step that is not empty. -/
def patternName? (path : List Char) : Option String :=
  let name := path.drop patternRoot.length
  if patternRoot.isPrefixOf path && !name.isEmpty && !name.contains '/' then some (.ofList name)
  else none

/-- The route of a path. -/
def ofPath? (path : String) : Option Route :=
  match fixed.lookup (.ofList (withoutLineEnd path.toList)) with
  | some r => some r
  | none => (patternName? path.toList).map pattern

/-- The only method that a route answers to. -/
def method : Route → String
  | health | patterns | pattern _ | session | download => "GET"
  | config | selectPattern => "PUT"
  | start | stop | reset | step | play | prompt | code => "POST"

end Route
end LedStudio.Http
