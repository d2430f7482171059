import LedStudio.Http.Api

/-!
# Visits

A server answers one request after the other, and time passes between them. After each request the
event loop runs once, so that a clock that was started begins to tick.
-/

namespace LedStudio.Http

/-- What happens at the interface. -/
inductive Visit where
  | request (r : Request)
  /-- Some milliseconds pass. -/
  | pause (ms : Nat)

/-- What is there to see after a visit. -/
inductive Reply where
  | response (r : Response)
  /-- The frame that the session has come to. -/
  | frame (n : Nat)

/-- Deals with a visit. -/
def Api.visit (api : Api) (d : Desk) : Visit → Reply × Desk
  | .request r =>
    let (response, d) := api.respond r d
    (.response response, d.settle)
  | .pause ms =>
    let d := d.elapse ms
    (.frame d.frame, d)

/-- Deals with visits in order. -/
def Api.serve (api : Api) (d : Desk) : List Visit → List Reply × Desk
  | [] => ([], d)
  | v :: rest =>
    let (reply, d) := api.visit d v
    let (replies, d) := api.serve d rest
    (reply :: replies, d)

end LedStudio.Http
