import LedStudio.Http.Visit
import LedStudio.Proofs.Http.Task

/-!
# The routes of a session and its operations

The interface, with its bodies, errors, headers and logs, comes to the same as the operations of its
tasks by themselves: whatever is asked in whatever order, and however much time passes in between.

* `respond_mirrors`, `visit_mirrors`, `serve_mirrors` — one request, one visit, and any visits.
* `requests_follow_operations` — what the session is after any visits, and what the next answer says.
-/

namespace LedStudio
namespace Http

open SessionState (Twin)
open StripConfig (Whole whole_stable)

/-! ## Visits -/

/-- The response to what a handler gave. -/
def Api.reply (api : Api) : Except Failure Response → Response
  | .ok response => response
  | .error failure => failure.response api.stamp

theorem preflight_of_method {r : Request} {route : Route} (h : r.method = route.method) :
    Origins.preflight? r = none := by
  have hmethod : r.method ≠ "OPTIONS" := by
    rw [h]
    cases route <;> simp [Route.method]
  rw [Origins.preflight?, if_pos hmethod]

theorem route_of_task {r : Request} {task : Task} (h : r.task? = some task) :
    ∃ route, Route.ofPath? r.path = some route ∧ r.method = route.method ∧
      route.task? r.rawBody = some task := by
  simp only [Request.task?, Option.bind_eq_bind, Option.bind_eq_some_iff,
    Option.ite_none_right_eq_some] at h
  exact h

theorem answer_handle {r : Request} {route : Route} (hroute : Route.ofPath? r.path = some route)
    (hmethod : r.method = route.method) (api : Api) (d : Desk) :
    let out := route.handle api r d
    ∃ log, api.answer r d = (api.reply out.1, { out.2 with log := log }) := by
  intro out
  simp only [Api.answer, hroute, hmethod, ne_eq, not_true, if_false]
  have hout : route.handle api r d = out := rfl
  rw [hout]
  rcases out with ⟨_ | _, left⟩
  · exact ⟨_, rfl⟩
  · exact ⟨left.log, rfl⟩

/-- What the interface does with a request to a route: all that it adds to the handling are headers
and records of the log. -/
theorem respond_handle {r : Request} {route : Route} (hroute : Route.ofPath? r.path = some route)
    (hmethod : r.method = route.method) (api : Api) (d : Desk) :
    let out := route.handle api r d
    (api.respond r d).1.status = (api.reply out.1).status ∧
    (api.respond r d).1.content = (api.reply out.1).content ∧
    ∃ log, (api.respond r d).2 = { out.2 with log := log } := by
  intro out
  obtain ⟨log, hanswer⟩ := answer_handle hroute hmethod api d
  simp only [Api.respond, preflight_of_method hmethod, hanswer]
  split <;> exact ⟨rfl, rfl, log, rfl⟩

/-- The headers that it adds come last. -/
theorem respond_headers {r : Request} {route : Route} (hroute : Route.ofPath? r.path = some route)
    (hmethod : r.method = route.method) (api : Api) (d : Desk) : ∃ marks,
    (api.respond r d).1.headers = (api.reply (route.handle api r d).1).headers ++ marks := by
  obtain ⟨log, hanswer⟩ := answer_handle hroute hmethod api d
  simp only [Api.respond, preflight_of_method hmethod, hanswer]
  split
  · exact ⟨[], (List.append_nil _).symm⟩
  · exact ⟨_, rfl⟩

theorem respond_task {r : Request} {task : Task} (hr : r.task? = some task) (api : Api)
    {d : Desk} {u : SessionState} (hd : d.session = some u) :
    let out := task.handler { u with log := d.log }
    (api.respond r d).1.status = (api.reply out.1).status ∧
    (api.respond r d).1.content = (api.reply out.1).content ∧
    ∃ log, (api.respond r d).2 = ⟨some { out.2 with log := [] }, log⟩ := by
  intro out
  obtain ⟨route, hroute, hmethod, htask⟩ := route_of_task hr
  have hhandle : route.handle api r d = (out.1, ⟨some { out.2 with log := [] }, out.2.log⟩) := by
    rw [handle_task htask, Desk.withSession, hd]
  have hrespond := respond_handle hroute hmethod api d
  rwa [hhandle] at hrespond

/-- The session behind the interface has the clock and the body of a session, and integer
settings. -/
def Desk.Mirrors (d : Desk) (t : SessionState) : Prop :=
  ∃ u, d.session = some u ∧ Twin Whole u t

theorem Desk.Mirrors.settle {d : Desk} {t : SessionState} (h : d.Mirrors t) :
    d.settle.Mirrors t.settle := by
  obtain ⟨u, hd, htwin⟩ := h
  refine ⟨{ Timed.settle { u with log := d.log } with log := [] }, ?_, ?_⟩
  · rw [Desk.settle, hd]
  · exact ((htwin.relog d.log t.log).settle whole_stable).relog [] t.settle.log

theorem Desk.Mirrors.elapse {d : Desk} {t : SessionState} (h : d.Mirrors t) (ms : Nat) :
    (d.elapse ms).Mirrors (t.elapse ms) := by
  obtain ⟨u, hd, htwin⟩ := h
  refine ⟨{ SessionState.elapse { u with log := d.log } ms with log := [] }, ?_, ?_⟩
  · rw [Desk.elapse, hd]
  · exact ((htwin.relog d.log t.log).elapse whole_stable ms).relog [] (t.elapse ms).log

theorem Task.Answers.of_twin {task : Task} {v : Json} {s t : SessionState}
    (h : task.Answers v s) (htwin : Twin Whole s t) : task.Answers v t := by
  cases task with
  | play prompt =>
    obtain ⟨p, shown, hp, hpattern, hsession, hshows⟩ := h
    exact ⟨p, shown, hp, hpattern, hsession, hshows.of_twin htwin⟩
  | _ => exact Shows.of_twin h htwin

theorem Task.Answers.settle {task : Task} {v : Json} {s : SessionState} (h : task.Answers v s) :
    task.Answers v s.settle := by
  cases task with
  | play prompt =>
    obtain ⟨p, shown, hp, hpattern, hsession, hshows⟩ := h
    exact ⟨p, shown, hp, hpattern, hsession, hshows.settle⟩
  | _ => exact Shows.settle h

/-- A request for a task, and the operations of the task by themselves. -/
theorem respond_mirrors {r : Request} {task : Task} (hr : r.task? = some task) (api : Api)
    {d : Desk} {t : SessionState} (h : d.Mirrors t) :
    let after := (t.performEach task.operations).2
    (api.respond r d).2.Mirrors after ∧
    ((api.respond r d).1.status = 200 ↔
      (t.performEach task.operations).1 = .ok () ∧ Writable after) ∧
    ((api.respond r d).1.status = 200 →
      ∃ v, (api.respond r d).1.content = .json v ∧ task.Answers v after) := by
  intro after
  obtain ⟨u, hd, htwin⟩ := h
  obtain ⟨hstatus, hcontent, log, hdesk⟩ := respond_task hr api hd
  obtain ⟨route, -, -, htask⟩ := route_of_task hr
  obtain ⟨hafter, hgave⟩ := handler_performs htask _ t (htwin.relog d.log t.log)
  rw [hstatus, hcontent]
  refine ⟨⟨_, by rw [hdesk], hafter.relog [] after.log⟩, ?_⟩
  cases hdone : (t.performEach task.operations).1 with
  | error f =>
    rw [hdone] at hgave
    obtain ⟨failure, hfailure, hrefuses⟩ := hgave
    rw [hfailure]
    have hno := hrefuses api.stamp
    exact ⟨⟨fun h => absurd h hno, fun h => nomatch h.1⟩, fun h => absurd h hno⟩
  | ok _ =>
    rw [hdone] at hgave
    simp only at hgave
    by_cases hwritable : Writable after
    · obtain ⟨v, hv, hanswers⟩ :=
        task.view_answers hafter.1 (fun points => hafter.body_eq ▸ hwritable points)
      rw [hgave, hv]
      exact ⟨⟨fun _ => ⟨rfl, hwritable⟩, fun _ => rfl⟩,
        fun _ => ⟨v, rfl, hanswers.of_twin hafter⟩⟩
    · obtain ⟨f, hf⟩ :=
        task.view_error hafter.1 (fun h => hwritable fun points => hafter.body_eq ▸ h points)
      rw [hgave, hf]
      have hno := refuses_unexpected f api.stamp
      exact ⟨⟨fun h => absurd h hno, fun h => absurd h.2 hwritable⟩, fun h => absurd h hno⟩

/-! ## Runs -/

/-- What a visit comes to on the session itself. -/
inductive Turn where
  | task (task : Task)
  | pause (ms : Nat)

/-- The turn of a visit: a pause, or a request for a task. -/
def Visit.turn? : Visit → Option Turn
  | .request r => r.task?.map .task
  | .pause ms => some (.pause ms)

/-- Carries out a turn on the session itself: the operations of a task, after which the event loop
runs, or time that passes. -/
def Turn.perform (t : SessionState) : Turn → SessionState
  | task todo => (t.performEach todo.operations).2.settle
  | pause ms => t.elapse ms

theorem visit_mirrors {v : Visit} {turn : Turn} (hv : v.turn? = some turn) (api : Api) {d : Desk}
    {t : SessionState} (h : d.Mirrors t) : (api.visit d v).2.Mirrors (turn.perform t) := by
  cases v with
  | request r =>
    obtain ⟨task, htask, rfl⟩ := Option.map_eq_some_iff.mp hv
    exact (respond_mirrors htask api h).1.settle
  | pause ms =>
    obtain rfl := Option.some.inj hv
    exact h.elapse ms

theorem serve_mirrors {visits : List Visit} (hvisits : ∀ v ∈ visits, v.turn?.isSome) (api : Api)
    {d : Desk} {t : SessionState} (h : d.Mirrors t) :
    (api.serve d visits).2.Mirrors
      ((visits.filterMap Visit.turn?).foldl (fun t turn => turn.perform t) t) := by
  induction visits generalizing d t with
  | nil => exact h
  | cons v rest ih =>
    obtain ⟨turn, hturn⟩ := Option.isSome_iff_exists.mp (hvisits v List.mem_cons_self)
    rw [List.filterMap_cons_some hturn]
    exact ih (fun w hw => hvisits w (List.mem_cons_of_mem v hw)) (visit_mirrors hturn api h)

/-- A session of clamped settings has integer settings, whatever was done with it. -/
theorem whole_create {setup : SessionSetup} {count brightness speed : Value}
    (hconfig : StripConfig.clamped count brightness speed = .ok setup.config) {s : SessionState}
    (hs : setup.create = .ok s) (before : List SessionStep) :
    (s.steps before).body.config.Whole := by
  refine SessionState.whole_steps ?_ before
  rw [SessionState.config_of_create hs]
  exact StripConfig.whole_of_clamped hconfig

/-- **Requests follow operations.** Take a session of clamped settings, with listeners or without,
any requests for tasks with any pauses between them, and one more request. Before and after it the
session has the clock and the body that the operations leave by themselves, each task's carried out
until one fails; settings are set exactly for the fields that are there and not null. The answer is a
success if and only if no operation fails and the name of the pattern can be written, and then it
says what the session is. -/
theorem requests_follow_operations (api : Api) {setup : SessionSetup}
    {count brightness speed : Value}
    (hconfig : StripConfig.clamped count brightness speed = .ok setup.config) {s : SessionState}
    (hs : setup.create = .ok s) (before : List SessionStep) (log : Log) {visits : List Visit}
    (hvisits : ∀ v ∈ visits, v.turn?.isSome) {r : Request} {task : Task}
    (hr : r.task? = some task) :
    let d := (api.serve ⟨some (s.steps before), log⟩ visits).2
    let t := (visits.filterMap Visit.turn?).foldl (fun t turn => turn.perform t) (s.steps before)
    let ran := t.performEach task.operations
    let after := ran.2.settle
    (∃ u, d.session = some u ∧ u.clock = t.clock ∧ u.body = t.body) ∧
    (∀ u, task = .change u →
      ∃ fields, r.rawBody = .json (.object fields) ∧ u.GivenBy (.object fields)) ∧
    ∃ response next, api.visit d (.request r) = (.response response, next) ∧
      (∃ u, next.session = some u ∧ u.clock = after.clock ∧ u.body = after.body) ∧
      (response.status = 200 ↔ ran.1 = .ok () ∧ Writable after) ∧
      (response.status = 200 → ∃ v, response.content = .json v ∧ task.Answers v after) := by
  intro d t ran after
  have hstart : Desk.Mirrors ⟨some (s.steps before), log⟩ (s.steps before) :=
    ⟨_, rfl, .refl (whole_create hconfig hs before)⟩
  have hd : d.Mirrors t := serve_mirrors hvisits api hstart
  obtain ⟨hnext, hstatus, hanswers⟩ := respond_mirrors hr api hd
  have hsame : ∀ {e : Desk} {u : SessionState}, e.Mirrors u →
      ∃ v, e.session = some v ∧ v.clock = u.clock ∧ v.body = u.body :=
    fun ⟨v, hv, htwin⟩ => ⟨v, hv, htwin.clock_eq, htwin.body_eq⟩
  have hgiven : ∀ u, task = .change u →
      ∃ fields, r.rawBody = .json (.object fields) ∧ u.GivenBy (.object fields) := by
    rintro u rfl
    obtain ⟨route, -, -, htask⟩ := route_of_task hr
    exact givenBy_of_task htask
  refine ⟨hsame hd, hgiven, (api.respond r d).1, (api.respond r d).2.settle, rfl,
    hsame hnext.settle, hstatus, fun h => ?_⟩
  obtain ⟨v, hv, hshows⟩ := hanswers h
  exact ⟨v, hv, hshows.settle⟩

/-- A strip of two LEDs that flashes, with a listener that is called at each picture. -/
def flashing : SessionSetup where
  config := ⟨.int 2, .int 50, .int 97⟩
  pattern := .id .strobe
  stream := .cycle #[]

/-- Asks for a third LED and for more speed than there is, and leaves the brightness alone. -/
def resize : Request where
  method := "PUT"
  path := "/api/v1/session/config"
  headers := [("content-type", "application/json")]
  body := some "\x7b\"led_count\": 3, \"brightness\": null, \"speed\": 120\x7d"

/-- Starts the clock and waits for a tick. -/
def flashingVisits : List Visit :=
  [.request { method := "POST", path := "/api/v1/session/start" }, .pause 4]

/-- The task of the request is to set the count and the speed. -/
theorem task_resize : resize.task? = some (.change ⟨some 3, none, some 120⟩) := by
  have hroute : Route.ofPath? resize.path = some .config := by decide +kernel
  have hfields : resize.rawBody.fields? ConfigUpdate.read = some ⟨some 3, none, some 120⟩ := by
    decide +kernel
  exact Request.task_change hroute rfl hfields

theorem requests_follow_operations_resizing :
    StripConfig.clamped (.int 2) (.int 50) (.int 97) = .ok flashing.config ∧
    (∀ v ∈ flashingVisits, v.turn?.isSome) ∧
    resize.task? = some (.change ⟨some 3, none, some 120⟩) ∧
    ∃ s, flashing.create = .ok s ∧
      let api : Api := { stamp := ⟨"today", "first"⟩ }
      let begun := s.steps [.op (.subscribe "view" .fail)]
      let t := (flashingVisits.filterMap Visit.turn?).foldl (fun t turn => turn.perform t) begun
      let after := (t.performEach [.setLedCount (.int 3), .setSpeed (.int 120)]).2.settle
      ∃ response next, (api.visit (api.serve ⟨some begun, []⟩ flashingVisits).2 (.request resize)) =
          (.response response, next) ∧
        response.status = 200 ∧ ∃ v, response.content = .json v ∧ Shows v after := by
  have hconfig : StripConfig.clamped (.int 2) (.int 50) (.int 97) = .ok flashing.config := rfl
  have hvisits : ∀ v ∈ flashingVisits, v.turn?.isSome := by decide +kernel
  refine ⟨hconfig, hvisits, task_resize, _, rfl, ?_⟩
  intro api begun t after
  obtain ⟨-, -, response, next, hvisit, -, hstatus, hanswers⟩ :=
    requests_follow_operations api hconfig rfl [.op (.subscribe "view" .fail)] [] hvisits task_resize
  have hok : (t.performEach [.setLedCount (.int 3), .setSpeed (.int 120)]).1.isOk = true := by
    decide +kernel
  have hwritable : Writable after := by decide +kernel
  have hran : (t.performEach [.setLedCount (.int 3), .setSpeed (.int 120)]).1 = .ok () := by
    cases hout : (t.performEach [.setLedCount (.int 3), .setSpeed (.int 120)]).1 with
    | error f =>
      rw [hout] at hok
      cases hok
    | ok _ => rfl
  have hsuccess : response.status = 200 := hstatus.mpr ⟨hran, hwritable⟩
  exact ⟨response, next, hvisit, hsuccess, hanswers hsuccess⟩

end Http
end LedStudio
