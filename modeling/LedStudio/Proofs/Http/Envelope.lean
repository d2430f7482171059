import LedStudio.Proofs.Http.Simulation

/-!
# The common form of errors

What goes wrong in a handler leaves in one form: an error with a code, a message, details and a
time, and the number of the request. Two refusals are made before a handler is there to fail, and
they have a form of their own: a body that cannot be read, and a session that is not there yet.

* `handle_settles` — a route refuses a request, or answers with success, or something goes wrong.
* `errors_enveloped_unless_refused` — which errors of the routes have the common form.
* `early_request_is_not_enveloped` — one that does not.
-/

namespace LedStudio
namespace Http

/-- The common form: an error with its code, message, details and time, and the number of the
request. -/
structure Enveloped (v : Json) : Prop where
  error : ∃ e, v.field? "error" = some e ∧ (∃ code, e.field? "code" = some (.text code)) ∧
    (∃ message, e.field? "message" = some (.text message)) ∧
    (∃ details, e.field? "details" = some (.object details)) ∧
    ∃ time, e.field? "timestamp" = some (.text time)
  requestId : ∃ id, v.field? "request_id" = some (.text id)

/-- The contents are an error in the common form. -/
def Content.IsEnvelope (c : Content) : Prop := ∃ v, c = .json v ∧ Enveloped v

theorem envelope_isEnvelope (e : ApiError) (stamp : Stamp) (more : List (String × Json)) :
    (e.envelope stamp more).content.IsEnvelope :=
  ⟨_, rfl, ⟨_, rfl, ⟨_, rfl⟩, ⟨_, rfl⟩, ⟨_, rfl⟩, ⟨_, rfl⟩⟩, ⟨_, rfl⟩⟩

/-- **Whatever goes wrong in a handler leaves in the common form.** -/
theorem Failure.response_isEnvelope (stamp : Stamp) (failure : Failure) :
    (failure.response stamp).content.IsEnvelope := by
  cases failure <;> exact envelope_isEnvelope _ _ _

theorem refusal_not_isEnvelope (status : Nat) (why : String) :
    ¬(Response.refusal status why).content.IsEnvelope := by
  rintro ⟨_, hv, ⟨e, herror, -⟩, -⟩
  cases hv
  cases herror

/-! ## Refusals -/

instance (body : RawBody) : Decidable (body = .unreadable) :=
  match body with
  | .unreadable => .isTrue rfl
  | .absent | .malformed _ | .json _ | .opaqueBytes => .isFalse nofun

/-- The route reads the body of a request. -/
def Route.readsBody : Route → Bool
  | .config | .selectPattern | .prompt | .code => true
  | _ => false

/-- The route is of use only when there is a session. -/
def Route.isOfSession : Route → Bool
  | .health | .patterns | .pattern _ => false
  | _ => true

/-- The route refuses the request before it is handled. A body that is no JSON is found before the
session is looked for. -/
inductive Refused (route : Route) (r : Request) (d : Desk) : Nat → String → Prop where
  | unreadable : route.readsBody = true → r.rawBody = .unreadable →
      Refused route r d 400 "There was an error parsing the body"
  | uninitialized : route.isOfSession = true → d.session = none →
      (route.readsBody = true →
        r.rawBody ≠ .unreadable ∧ ∀ offset, r.rawBody ≠ .malformed offset) →
      Refused route r d 503 "Preview session not initialized yet"

theorem Refused.unique {route : Route} {r : Request} {d : Desk} {status status' : Nat}
    {why why' : String} (h : Refused route r d status why) (h' : Refused route r d status' why') :
    status = status' ∧ why = why' := by
  rcases h with ⟨hreads, hraw⟩ | ⟨-, -, hbody⟩ <;> rcases h' with ⟨hreads', hraw'⟩ | ⟨-, -, hbody'⟩
  · exact ⟨rfl, rfl⟩
  · exact absurd hraw (hbody' hreads).1
  · exact absurd hraw' (hbody hreads').1
  · exact ⟨rfl, rfl⟩

/-! ## Handlers -/

/-- The only responses of the handler are successes. -/
def Succeeds (h : Handler) : Prop :=
  ∀ s response t, h s = (.ok response, t) → response.status = 200

theorem answerWith_succeeds (v : Outcome Json) : Succeeds (answerWith v) := by
  intro s response t h
  cases v with
  | error f => cases h
  | ok v =>
    cases h
    rfl

theorem showSession_succeeds : Succeeds showSession :=
  fun s => answerWith_succeeds (sessionJson s) s

variable {α : Type}

theorem perform_succeeds (a : SessionAction α) (onFault : Fault → Failure) {next : α → Handler}
    (hnext : ∀ v, Succeeds (next v)) : Succeeds (perform a onFault next) := by
  intro s response t h
  unfold perform at h
  split at h
  · exact hnext _ _ _ _ h
  · cases h

theorem operate_succeeds (op : SessionOp) : Succeeds (operate op) :=
  fun s => perform_succeeds (op.perform (s.notify 0)) .unexpected (fun _ => showSession_succeeds) s

theorem setting_succeeds (op : Int → SessionOp) (onFault : Int → Fault → Failure) {next : Handler}
    (hnext : Succeeds next) (given : Option Int) : Succeeds (setting op onFault next given) := by
  cases given with
  | none => exact hnext
  | some v =>
    exact fun s => perform_succeeds ((op v).perform (s.notify 0)) (onFault v) (fun _ => hnext) s

theorem updateConfig_succeeds (u : ConfigUpdate) : Succeeds (updateConfig u) :=
  setting_succeeds _ _ (setting_succeeds _ _ (setting_succeeds _ _ showSession_succeeds _) _) _

theorem applyPrompt_succeeds (prompt : String) : Succeeds (applyPrompt prompt) :=
  fun s => perform_succeeds _ _ (fun _ t => answerWith_succeeds _ t) s

theorem writeCode_succeeds (c : CodeRequest) : Succeeds (writeCode c) := by
  intro s response t h
  unfold writeCode at h
  dsimp only at h
  split at h
  · exact answerWith_succeeds _ _ _ _ h
  · cases h

theorem sendCode_succeeds : Succeeds sendCode := by
  refine perform_succeeds _ _ fun code s response t h => ?_
  split at h
  · cases h
  · cases h
    rfl

/-! ## Routes -/

/-- The route refuses the request, or it does not and its only responses are successes. -/
def Settles (route : Route) (r : Request) (d : Desk) (out : Except Failure Response × Desk) :
    Prop :=
  (∃ status why, Refused route r d status why ∧ out = (.ok (.refusal status why), d)) ∨
    (∀ status why, ¬Refused route r d status why) ∧
      ∀ response, out.1 = .ok response → response.status = 200

variable {route : Route} {r : Request} {d : Desk}

theorem withSession_settles {h : Handler} (hh : Succeeds h) (hroute : route.isOfSession = true)
    (hbody : route.readsBody = true →
      r.rawBody ≠ .unreadable ∧ ∀ offset, r.rawBody ≠ .malformed offset) :
    Settles route r d (d.withSession h) := by
  cases hsession : d.session with
  | none =>
    refine .inl ⟨_, _, .uninitialized hroute hsession hbody, ?_⟩
    rw [Desk.withSession, hsession]
  | some s =>
    refine .inr ⟨?_, fun response hresponse => ?_⟩
    · rintro status why (⟨hreads, hraw⟩ | ⟨-, hnone, -⟩)
      · exact (hbody hreads).1 hraw
      · cases hsession.symm.trans hnone
    · simp only [Desk.withSession, hsession] at hresponse
      exact hh _ _ _ (Prod.ext hresponse rfl)

/-- A body is refused by itself, or it is read field by field. -/
theorem check_cases (read : Json → Checked α) (body : RawBody) :
    body = .unreadable ∧ body.check read = .unreadable ∨
    (∃ offset errors, body = .malformed offset ∧ body.check read = .malformed errors) ∨
    (body ≠ .unreadable ∧ ∀ offset, body ≠ .malformed offset) ∧
      ∃ fields, body.check read = .checked fields := by
  cases body with
  | unreadable => exact .inl ⟨rfl, rfl⟩
  | malformed offset => exact .inr (.inl ⟨offset, _, rfl, rfl⟩)
  | json v => exact .inr (.inr ⟨⟨nofun, nofun⟩, by cases v <;> exact ⟨_, rfl⟩⟩)
  | absent | opaqueBytes => exact .inr (.inr ⟨⟨nofun, nofun⟩, _, rfl⟩)

theorem withBody_settles {read : Json → Checked α} {h : α → Handler} (hh : ∀ v, Succeeds (h v))
    (hroute : route.isOfSession = true) (hreads : route.readsBody = true) :
    Settles route r d (d.withBody r read h) := by
  unfold Desk.withBody
  rcases check_cases read r.rawBody with
    ⟨hraw, hcheck⟩ | ⟨offset, errors, hraw, hcheck⟩ | ⟨hraw, fields, hcheck⟩ <;> rw [hcheck]
  · exact .inl ⟨_, _, .unreadable hreads hraw, rfl⟩
  · refine .inr ⟨?_, nofun⟩
    rintro status why (⟨-, hunreadable⟩ | ⟨-, -, hbody⟩)
    · cases hraw.symm.trans hunreadable
    · exact (hbody hreads).2 offset hraw
  · cases fields with
    | error errors => exact withSession_settles (fun _ _ _ h => nomatch h) hroute fun _ => hraw
    | ok v => exact withSession_settles (hh v) hroute fun _ => hraw

theorem plain_settles {out : Except Failure Response × Desk} (hroute : route.isOfSession = false)
    (hreads : route.readsBody = false)
    (hout : ∀ response, out.1 = .ok response → response.status = 200) :
    Settles route r d out := by
  refine .inr ⟨?_, hout⟩
  rintro status why (⟨h, -⟩ | ⟨h, -⟩)
  · cases hreads.symm.trans h
  · cases hroute.symm.trans h

/-- **A route refuses a request, or answers with success, or something goes wrong.** -/
theorem handle_settles (route : Route) (api : Api) (r : Request) (d : Desk) :
    Settles route r d (route.handle api r d) := by
  cases route with
  | health => exact plain_settles rfl rfl fun _ h => by cases h; rfl
  | patterns => exact plain_settles rfl rfl fun _ h => by cases h; rfl
  | pattern name =>
    refine plain_settles rfl rfl fun response h => ?_
    simp only [Route.handle] at h
    split at h
    · cases h
      rfl
    · cases h
  | session => exact withSession_settles showSession_succeeds rfl nofun
  | config => exact withBody_settles updateConfig_succeeds rfl rfl
  | selectPattern => exact withBody_settles (fun ref => operate_succeeds (.setPattern ref)) rfl rfl
  | start => exact withSession_settles (operate_succeeds .start) rfl nofun
  | stop => exact withSession_settles (operate_succeeds .stop) rfl nofun
  | reset => exact withSession_settles (operate_succeeds .reset) rfl nofun
  | step => exact withSession_settles (operate_succeeds .step) rfl nofun
  | play => exact withSession_settles (operate_succeeds .play) rfl nofun
  | prompt => exact withBody_settles applyPrompt_succeeds rfl rfl
  | code => exact withBody_settles writeCode_succeeds rfl rfl
  | download => exact withSession_settles sendCode_succeeds rfl nofun

/-! ## Answers -/

/-- **Every error has the common form, unless the request is refused.** Take a request to a route,
with any body, and a session in any state or none. An answer that is an error is in the common form
exactly if the request is not refused. One that is refused is answered with one sentence and changes
nothing: with 400 if its body cannot be read, and with 503 if there is no session. -/
theorem errors_enveloped_unless_refused (api : Api) (hroute : Route.ofPath? r.path = some route)
    (hmethod : r.method = route.method) (d : Desk) (herror : 400 ≤ (api.respond r d).1.status) :
    ((api.respond r d).1.content.IsEnvelope ↔ ∀ status why, ¬Refused route r d status why) ∧
    ∀ status why, Refused route r d status why →
      (api.respond r d).1.status = status ∧
      (api.respond r d).1.content = .json (.object [("detail", .text why)]) ∧
      (api.respond r d).2.session = d.session := by
  obtain ⟨hstatus, hcontent, log, hdesk⟩ := respond_handle hroute hmethod api d
  rw [hstatus] at herror
  rw [hcontent, hstatus, hdesk]
  rcases handle_settles route api r d with ⟨status, why, hrefused, hout⟩ | ⟨hnone, hok⟩
  · rw [hout]
    refine ⟨⟨fun h => absurd h (refusal_not_isEnvelope status why), fun h => ?_⟩, ?_⟩
    · exact absurd hrefused (h status why)
    · intro status' why' hrefused'
      obtain ⟨rfl, rfl⟩ := hrefused.unique hrefused'
      exact ⟨rfl, rfl, rfl⟩
  · refine ⟨⟨fun _ => hnone, fun _ => ?_⟩, fun status why h => absurd h (hnone status why)⟩
    cases hfailed : (route.handle api r d).1 with
    | ok response =>
      rw [hfailed] at herror
      exact absurd herror (by rw [Api.reply, hok response hfailed]; decide)
    | error failure => exact failure.response_isEnvelope api.stamp

/-- Asks for a pattern that there is none of. -/
def lookForLava : Request where
  method := "GET"
  path := "/api/v1/patterns/lava"

theorem errors_enveloped_unless_refused_lava :
    Route.ofPath? lookForLava.path = some (.pattern "lava") ∧ lookForLava.method = "GET" ∧
    let out := Api.respond { stamp := ⟨"today", "first"⟩ } lookForLava ⟨none, []⟩
    out.1.status = 404 ∧ out.1.content.IsEnvelope := by
  have hroute : Route.ofPath? lookForLava.path = some (.pattern "lava") := by decide +kernel
  have hstatus : (Api.respond { stamp := ⟨"today", "first"⟩ } lookForLava ⟨none, []⟩).1.status =
      404 := by
    decide +kernel
  obtain ⟨hform, -⟩ := errors_enveloped_unless_refused { stamp := ⟨"today", "first"⟩ } hroute rfl
    ⟨none, []⟩ (by rw [hstatus]; decide)
  refine ⟨hroute, rfl, hstatus, hform.mpr ?_⟩
  rintro status why (⟨h, -⟩ | ⟨h, -⟩) <;> cases h

/-- Asks for the session. -/
def look : Request where
  method := "GET"
  path := "/api/v1/session"

/-- A body in pairs of bytes that has a byte left over. -/
def oddBody : Request where
  method := "POST"
  path := "/api/v1/session/prompt"
  headers := [("content-type", "application/json")]
  body := some "\x00fire"

/-- A request that comes before there is a session, and one whose body cannot be read, are answered
with an error that has neither a code nor a number. -/
theorem early_request_is_not_enveloped :
    let api : Api := { stamp := ⟨"today", "first"⟩ }
    (∃ route, Route.ofPath? look.path = some route ∧ look.method = route.method) ∧
    (api.respond look ⟨none, []⟩).1.status = 503 ∧
    ¬(api.respond look ⟨none, []⟩).1.content.IsEnvelope ∧
    (∃ route, Route.ofPath? oddBody.path = some route ∧ oddBody.method = route.method) ∧
    ∀ d : Desk, (api.respond oddBody d).1.status = 400 ∧
      ¬(api.respond oddBody d).1.content.IsEnvelope := by
  intro api
  have hlook : Route.ofPath? look.path = some .session := by decide +kernel
  have hodd : Route.ofPath? oddBody.path = some .prompt := by decide +kernel
  have hraw : oddBody.rawBody = .unreadable := by decide +kernel
  obtain ⟨hstatus, hcontent, -⟩ := respond_handle hlook rfl api ⟨none, []⟩
  refine ⟨⟨_, hlook, rfl⟩, hstatus, ?_, ⟨_, hodd, rfl⟩, fun d => ?_⟩
  · rw [hcontent]
    exact refusal_not_isEnvelope _ _
  · obtain ⟨hstatus, hcontent, -⟩ := respond_handle hodd rfl api d
    have hhandle : Route.prompt.handle api oddBody d =
        (.ok (.refusal 400 "There was an error parsing the body"), d) := by
      simp only [Route.handle, Desk.withBody, hraw, RawBody.check]
    rw [hstatus, hcontent, hhandle]
    exact ⟨rfl, refusal_not_isEnvelope _ _⟩

end Http
end LedStudio
