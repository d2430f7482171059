import LedStudio.Http.Message

/-!
# Origins

Pages of some origins may use the web interface. A browser asks first, by a preflight request,
which is answered here; every other response tells whether the page may see it.
-/

namespace LedStudio.Http

/-- The origins of pages that may use the interface. -/
structure Origins where
  allowed : List String

namespace Origins

/-- The servers of pages under development. -/
def development : Origins :=
  ⟨["http://localhost:3000", "http://localhost:5173", "http://127.0.0.1:3000",
    "http://127.0.0.1:5173"]⟩

/-- All origins are allowed. -/
def allowsAll (o : Origins) : Bool := o.allowed.contains "*"

def allows (o : Origins) (origin : String) : Bool := o.allowsAll || o.allowed.contains origin

/-- The methods that a page may use. -/
def methods : List String := ["DELETE", "GET", "HEAD", "OPTIONS", "PATCH", "POST", "PUT", "QUERY"]

/-- What a preflight response depends on. -/
def preflightVary : String :=
  ", ".intercalate ["Origin", "Access-Control-Request-Method", "Access-Control-Request-Headers",
    "Access-Control-Request-Private-Network"]

/-- What is wrong with a preflight request. A private network is never let in. -/
def failures (o : Origins) (origin method : String) (privateNetwork : Option String) :
    List String :=
  (if o.allows origin then [] else ["origin"])
    ++ (if methods.contains method then [] else ["method"])
    ++ (if privateNetwork.isSome then ["private-network"] else [])

/-- The answer to a preflight request. -/
def preflight (o : Origins) (r : Request) (origin method : String) : Response :=
  let found := o.failures origin method (r.header? "access-control-request-private-network")
  let response :=
    if found.isEmpty then Response.text 200 "OK"
    else Response.text 400 ("Disallowed CORS " ++ ", ".intercalate found)
  let granted := if o.allows origin then [("access-control-allow-origin", origin)] else []
  let headers :=
    match r.header? "access-control-request-headers" with
    | some asked => [("access-control-allow-headers", asked)]
    | none => []
  { response with
    headers := response.headers ++
      [("access-control-allow-credentials", "true"),
       ("access-control-allow-methods", ", ".intercalate methods),
       ("access-control-max-age", "600"), ("vary", preflightVary)] ++ granted ++ headers }

/-- The preflight request that a request is, if it is one: its origin and the method asked for. -/
def preflight? (r : Request) : Option (String × String) :=
  if r.method ≠ "OPTIONS" then none
  else
    match r.header? "origin", r.header? "access-control-request-method" with
    | some origin, some method => some (origin, method)
    | _, _ => none

/-- The origin that a response to a page is marked with. -/
def mark (o : Origins) (origin : String) : List (String × String) :=
  if o.allows origin then [("access-control-allow-origin", origin)] else []

/-- A response with what a browser has to know. -/
def finish (o : Origins) (r : Request) (response : Response) : Response :=
  let marks :=
    match r.header? "origin" with
    | some origin => ("access-control-allow-credentials", "true") :: o.mark origin
    | none => []
  { response with headers := response.headers ++ ("vary", "Origin") :: marks }

end Origins
end LedStudio.Http
