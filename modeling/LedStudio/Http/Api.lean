import LedStudio.Http.Body
import LedStudio.Http.Origin
import LedStudio.Http.Route
import LedStudio.Session.Listener

/-!
# The web interface

Requests to look at a session and to operate it. Each route of a session carries out one operation
and answers with the session that it leaves. An error leaves in one form, with a code, a message
and details; a fault that nobody expected changes nothing more, but what was done stays done.
-/

namespace LedStudio.Http

/-- What is marked on every error: when it happened, and under which number. -/
structure Stamp where
  time : String
  requestId : String

structure Api where
  title : String := "LED Pattern Studio"
  version : String := "1.0.0"
  /-- The interface describes itself, which takes a title and a version. -/
  hasDocs : Bool := true
  origins : Origins := .development
  stamp : Stamp

/-- The record of setting up the interface. -/
def Api.created (api : Api) : LogRecord :=
  ⟨.system, .debug, "FastAPI app created",
    [detail "title" api.title,
     detail "routes" (", ".intercalate
       (["/session", "/patterns", "/code"].map fun area => Route.root ++ area)),
     detail "cors" (toString api.origins.allowed.length)]⟩

/-- Sets up the interface; gives the record of it. -/
def Api.create (api : Api) : Outcome LogRecord :=
  if api.hasDocs && api.title.isEmpty then .error .noTitle
  else if api.hasDocs && api.version.isEmpty then .error .noVersion
  else .ok api.created

/-! ## Errors -/

/-- An error that leaves in the common form. -/
structure ApiError where
  status : Nat
  code : String
  message : String
  details : List (String × Json)

/-- The common form of errors. -/
def ApiError.envelope (e : ApiError) (stamp : Stamp) (more : List (String × Json)) : Response :=
  .json e.status (.object ([("error", .object
      [("code", .text e.code), ("message", .text e.message), ("details", .object e.details),
       ("timestamp", .text stamp.time)]),
    ("request_id", .text stamp.requestId)] ++ more))

def patternNotFound (name : String) : ApiError :=
  ⟨404, "PATTERN_NOT_FOUND", "Pattern '" ++ name ++ "' not found",
    [("pattern_id", .text name),
     ("valid_values", .list (PatternId.all.map fun p => .text p.name))]⟩

/-- A number of LEDs that is refused. -/
def invalidLedCount (count : Value) (f : Fault) : ApiError :=
  ⟨422, "INVALID_SESSION_VALUE", "Invalid led_count: " ++ f.message,
    [("field", .text "led_count"), ("value", .ofValue count)]⟩

def unexpected (stamp : Stamp) : ApiError :=
  ⟨500, "INTERNAL_SERVER_ERROR", "An unexpected error occurred. Please try again.",
    [("request_id", .text stamp.requestId)]⟩

def invalidBody (errors : List FieldError) : ApiError :=
  ⟨422, "VALIDATION_ERROR", "Request validation failed",
    [("error_count", .int errors.length)]⟩

/-- What went wrong with a request. -/
inductive Failure where
  | known (e : ApiError)
  | body (errors : List FieldError)
  | unexpected (f : Fault)

namespace Failure

/-- The record of a failure. -/
def record (stamp : Stamp) (r : Request) (failure : Failure) : LogRecord :=
  let path := detail "path" r.shownPath
  let id := detail "request_id" stamp.requestId
  match failure with
  | known e => ⟨.api, .warn, e.code ++ ": " ++ e.message, [path, id]⟩
  | body errors =>
    ⟨.api, .warn, "Request validation failed",
      [path, detail "errors" (toString errors.length), id]⟩
  | unexpected f => ⟨.api, .error, "Unhandled " ++ f.label ++ ": " ++ f.message, [path, id]⟩

def fieldJson (e : FieldError) : Json :=
  .object [("field", .text e.field), ("message", .text e.message), ("type", .text e.kind)]

def response (stamp : Stamp) : Failure → Response
  | known e => e.envelope stamp []
  | body errors =>
    (invalidBody errors).envelope stamp [("validation_errors", .list (errors.map fieldJson))]
  | unexpected _ => (Http.unexpected stamp).envelope stamp []

end Failure

/-! ## Answers -/

def ledJson (c : Color) : Json :=
  .object [("r", .int c.red.toNat), ("g", .int c.green.toNat), ("b", .int c.blue.toNat),
    ("hex", .text c.hex)]

/-- The name of a pattern as it is shown; half characters cannot be written. -/
def patternName : PatternRef → Outcome Json
  | .broken points => .error (.unfitPoints points)
  | ref => .ok (.text ref.name)

/-- The errors of a field. -/
def errorsOf : Except (List BadField) Int → List BadField
  | .ok _ => []
  | .error fields => fields

/-- The settings of a strip as they are shown: the number of LEDs, the brightness and the speed,
which have to be integers. -/
def shownSettings (config : StripConfig) : Outcome (Int × Int × Int) :=
  let field (name : String) (v : Value) : Except (List BadField) Int :=
    match readInteger (.ofValue v) with
    | .ok n => .ok n
    | .error e => .error [⟨name, e.message, e.kind, v⟩]
  match field "led_count" config.ledCount, field "brightness" config.brightness,
    field "speed" config.speed with
  | .ok ledCount, .ok brightness, .ok speed => .ok (ledCount, brightness, speed)
  | ledCount, brightness, speed =>
    .error (.unfitAnswer "SessionResponse" ([ledCount, brightness, speed].flatMap errorsOf))

/-- A session as it is shown. -/
def sessionJson (s : SessionState) : Outcome Json := do
  let (ledCount, brightness, speed) ← shownSettings s.body.config
  let pattern ← patternName s.body.pattern
  return .object [("pattern", pattern), ("led_count", .int ledCount),
    ("brightness", .int brightness), ("speed", .int speed),
    ("frame", .int s.clock.frame), ("state", .text s.clock.stateName),
    ("interval_ms", .int s.clock.interval), ("leds", .list (s.body.leds.map ledJson)),
    ("has_code", .bool s.body.code.isSome)]

/-- A pattern as it is shown. -/
def patternJson (p : PatternId) : Json :=
  .object [("id", .text p.name), ("deterministic", .bool (PatternRef.id p).isDeterministic),
    ("routine", .text (PatternRef.id p).routineName), ("snippet", .text p.snippet)]

def patternList : Json :=
  .object [("patterns", .list (PatternId.all.map patternJson)),
    ("count", .int PatternId.all.length)]

/-! ## Operations of a session -/

/-- What a route does: a response, or what went wrong. -/
abbrev Handler := SessionState → Except Failure Response × SessionState

/-- Carries out an action and goes on with what it gave. -/
def perform (a : SessionAction α) (onFault : Fault → Failure) (next : α → Handler) : Handler :=
  fun s =>
    match a s with
    | (.ok v, s) => next v s
    | (.error f, s) => (.error (onFault f), s)

/-- Answers with a value, if there is one to be shown. -/
def answerWith (v : Outcome Json) : Handler := fun s =>
  match v with
  | .ok v => (.ok (.json 200 v), s)
  | .error f => (.error (.unexpected f), s)

/-- Answers with the session. -/
def showSession : Handler := fun s => answerWith (sessionJson s) s

/-- Carries out an operation and answers with the session. -/
def operate (op : SessionOp) (s : SessionState) : Except Failure Response × SessionState :=
  perform (op.perform (s.notify 0)) .unexpected (fun _ => showSession) s

/-- Carries out an operation if there is a value for it, and goes on. -/
def setting (op : Int → SessionOp) (onFault : Int → Fault → Failure) (next : Handler) :
    Option Int → Handler
  | none => next
  | some v => fun s => perform ((op v).perform (s.notify 0)) (onFault v) (fun _ => next) s

/-- A fault of the number of LEDs: known if the number itself is wrong. -/
def ledCountFailure (count : Value) (f : Fault) : Failure :=
  if f.isValueFault then .known (invalidLedCount count f) else .unexpected f

/-- Changes the settings that are given, one after the other. -/
def updateConfig (u : ConfigUpdate) : Handler :=
  setting (fun v => .setLedCount (.int v)) (fun v => ledCountFailure (.int v))
    (setting (fun v => .setBrightness (.int v)) (fun _ => .unexpected)
      (setting (fun v => .setSpeed (.int v)) (fun _ => .unexpected) showSession u.speed)
      u.brightness)
    u.ledCount

/-- Plays the pattern that a prompt suggests. -/
def applyPrompt (prompt : String) : Handler := fun s =>
  perform (do
      let p ← Session.applyPrompt (s.notify 0) (.text prompt)
      Timed.note ⟨.api, .info, "Prompt applied", [detail "pattern" p.name]⟩
      return p) .unexpected
    (fun p s =>
      answerWith (do return .object [("pattern", .text p.name), ("session", ← sessionJson s)]) s) s

/-- A setting of a sketch: the one that was asked for, or the session's own. -/
def chosen (asked : Option Int) (own : Value) : Value := (asked.map Value.int).getD own

/-- A sketch as it is shown; half characters cannot be written. -/
def sketchJson (code : String) : (broken : Option (List Nat)) → Outcome Json
  | none => .ok (.text code)
  | some points => .error (.unfitPoints points)

/-- Writes a sketch for the given settings, and for the session's where none is given. The session
does not change. -/
def writeCode (c : CodeRequest) : Handler := fun s =>
  let pattern := c.pattern.getD (s.body.pattern)
  let ledCount := chosen c.settings.ledCount s.body.config.ledCount
  let brightness := chosen c.settings.brightness s.body.config.brightness
  let speed := chosen c.settings.speed s.body.config.speed
  match Sketch.generate pattern ledCount brightness speed s.body.wiring with
  | .ok (code, log) =>
    let broken := Sketch.brokenPoints? pattern ledCount brightness speed s.body.wiring
    answerWith (do return .object [("pattern", ← patternName pattern),
        ("code", ← sketchJson code broken)])
      { s with log := s.log ++ log }
  | .error f => (.error (ledCountFailure ledCount f), s)

/-- Writes the session's sketch, to be kept as a file. -/
def sendCode : Handler :=
  perform Session.generateCode .unexpected fun code s =>
    match Sketch.brokenPoints? s.body.pattern s.body.config.ledCount s.body.config.brightness
      s.body.config.speed s.body.wiring with
    | some points => (.error (.unexpected (.unencodable points)), s)
    | none =>
      (.ok ((Response.text 200 code).withHeader "content-disposition"
        ("attachment; filename=\"" ++ s.body.pattern.sketchName ++ ".ino\"")), s)

/-! ## Requests -/

/-- The session behind the interface, if there is one, and the log. -/
structure Desk where
  session : Option SessionState
  log : Log := []

/-- Runs a handler on the session; without one the request has come too early. -/
def Desk.withSession (d : Desk) (h : Handler) : Except Failure Response × Desk :=
  match d.session with
  | none => (.ok (.refusal 503 "Preview session not initialized yet"), d)
  | some s =>
    let (r, s) := h { s with log := d.log }
    (r, ⟨some { s with log := [] }, s.log⟩)

/-- Runs a handler with the body of a request. A body that is no JSON is refused first, a missing
session next, and then what is wrong with the fields. -/
def Desk.withBody (d : Desk) (r : Request) (read : Json → Checked α) (h : α → Handler) :
    Except Failure Response × Desk :=
  match r.rawBody.check read with
  | .unreadable => (.ok (.refusal 400 "There was an error parsing the body"), d)
  | .malformed errors => (.error (.body errors), d)
  | .checked (.error errors) => d.withSession fun s => (.error (.body errors), s)
  | .checked (.ok v) => d.withSession (h v)

/-- What a route does with a request. -/
def Route.handle (route : Route) (api : Api) (r : Request) (d : Desk) :
    Except Failure Response × Desk :=
  match route with
  | .health =>
    (.ok (.json 200 (.object [("status", .text "healthy"),
      ("service", .text "led-pattern-studio-api"), ("version", .text api.version)])), d)
  | .patterns => (.ok (.json 200 patternList), d)
  | .pattern name =>
    match PatternId.ofText? name with
    | some p => (.ok (.json 200 (patternJson p)), d)
    | none => (.error (.known (patternNotFound name)), d)
  | .session => d.withSession showSession
  | .config => d.withBody r ConfigUpdate.read updateConfig
  | .selectPattern => d.withBody r readPattern fun ref => operate (.setPattern ref)
  | .start => d.withSession (operate .start)
  | .stop => d.withSession (operate .stop)
  | .reset => d.withSession (operate .reset)
  | .step => d.withSession (operate .step)
  | .play => d.withSession (operate .play)
  | .prompt => d.withBody r readPrompt applyPrompt
  | .code => d.withBody r CodeRequest.read writeCode
  | .download => d.withSession sendCode

/-- What a request is answered, before origins are looked at. -/
def Api.answer (api : Api) (r : Request) (d : Desk) : Response × Desk :=
  match Route.ofPath? r.path with
  | none => (.refusal 404 "Not Found", d)
  | some route =>
    if r.method ≠ route.method then
      ((Response.refusal 405 "Method Not Allowed").withHeader "allow" route.method, d)
    else
      match route.handle api r d with
      | (.ok response, d) => (response, d)
      | (.error failure, d) =>
        (failure.response api.stamp, { d with log := d.log ++ [failure.record api.stamp r] })

/-- Answers a request. An unexpected error is marked with nothing but its type. -/
def Api.respond (api : Api) (r : Request) (d : Desk) : Response × Desk :=
  match Origins.preflight? r with
  | some (origin, method) => (api.origins.preflight r origin method, d)
  | none =>
    let (response, d) := api.answer r d
    (if response.status = 500 then response else api.origins.finish r response, d)

/-- Lets the event loop run after a request. -/
def Desk.settle (d : Desk) : Desk :=
  match d.session with
  | none => d
  | some s =>
    let s := Timed.settle { s with log := d.log }
    ⟨some { s with log := [] }, s.log⟩

/-- Lets time pass. -/
def Desk.elapse (d : Desk) (ms : Nat) : Desk :=
  match d.session with
  | none => d
  | some s =>
    let s := SessionState.elapse { s with log := d.log } ms
    ⟨some { s with log := [] }, s.log⟩

/-- The frame of the session. -/
def Desk.frame (d : Desk) : Nat := (d.session.map (·.clock.frame)).getD 0

end LedStudio.Http
