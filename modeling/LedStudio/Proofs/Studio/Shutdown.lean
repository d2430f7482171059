import LedStudio.Proofs.Http.Envelope
import LedStudio.Proofs.Studio.Start

/-!
# Shutting a studio down

However the server ends, and whatever was asked of it until then, the session is stopped first, then
taken away from the interface, and then the tasks that are left are cancelled. Nothing can start the
clock in between or later.

* `serve_isSome` — visits neither bring a session in nor take one away.
* `stopped_still` — a session that was stopped stays as it is.
* `clean_shutdown` — what a run leaves when its start succeeded.
-/

namespace LedStudio

/-! ## The interface keeps its session -/

namespace Http

variable {α : Type}

theorem withSession_isSome (d : Desk) (h : Handler) :
    (d.withSession h).2.session.isSome = d.session.isSome := by
  cases hsession : d.session with
  | none => simp only [Desk.withSession, hsession, Option.isSome_none]
  | some s => simp only [Desk.withSession, hsession, Option.isSome_some]

theorem withBody_isSome (d : Desk) (r : Request) (read : Json → Checked α) (h : α → Handler) :
    (d.withBody r read h).2.session.isSome = d.session.isSome := by
  unfold Desk.withBody
  split
  · rfl
  · rfl
  · exact withSession_isSome d _
  · exact withSession_isSome d _

theorem handle_isSome (route : Route) (api : Api) (r : Request) (d : Desk) :
    (route.handle api r d).2.session.isSome = d.session.isSome := by
  cases route with
  | health => rfl
  | patterns => rfl
  | pattern name =>
    simp only [Route.handle]
    split <;> rfl
  | config => exact withBody_isSome d r _ _
  | selectPattern => exact withBody_isSome d r _ _
  | prompt => exact withBody_isSome d r _ _
  | code => exact withBody_isSome d r _ _
  | _ => exact withSession_isSome d _

theorem answer_isSome (api : Api) (r : Request) (d : Desk) :
    (api.answer r d).2.session.isSome = d.session.isSome := by
  unfold Api.answer
  split
  · rfl
  · rename_i route _
    split
    · rfl
    · rw [← handle_isSome route api r d]
      rcases route.handle api r d with ⟨_ | _, e⟩ <;> rfl

theorem respond_isSome (api : Api) (r : Request) (d : Desk) :
    (api.respond r d).2.session.isSome = d.session.isSome := by
  unfold Api.respond
  split
  · rfl
  · exact answer_isSome api r d

theorem settle_isSome (d : Desk) : d.settle.session.isSome = d.session.isSome := by
  cases hsession : d.session with
  | none => simp only [Desk.settle, hsession]
  | some s => simp only [Desk.settle, hsession, Option.isSome_some]

theorem elapse_isSome (d : Desk) (ms : Nat) : (d.elapse ms).session.isSome = d.session.isSome := by
  cases hsession : d.session with
  | none => simp only [Desk.elapse, hsession]
  | some s => simp only [Desk.elapse, hsession, Option.isSome_some]

theorem visit_isSome (api : Api) (d : Desk) (v : Visit) :
    (api.visit d v).2.session.isSome = d.session.isSome := by
  cases v with
  | request r =>
    rw [← respond_isSome api r d]
    exact settle_isSome _
  | pause ms => exact elapse_isSome d ms

/-- **Visits neither bring a session in nor take one away.** -/
theorem serve_isSome (api : Api) (visits : List Visit) (d : Desk) :
    (api.serve d visits).2.session.isSome = d.session.isSome := by
  induction visits generalizing d with
  | nil => rfl
  | cons v rest ih => exact (ih _).trans (visit_isSome api d v)

/-! ## An interface without a session -/

/-- The request is refused for what it carries, or because there is no session. -/
def TurnedAway (status : Nat) : Prop := status = 400 ∨ status = 422 ∨ status = 503

theorem withSession_closed {d : Desk} (hd : d.session = none) (h : Handler) :
    d.withSession h = (.ok (.refusal 503 "Preview session not initialized yet"), d) := by
  rw [Desk.withSession, hd]

theorem withBody_closed (api : Api) {d : Desk} (hd : d.session = none) (r : Request)
    (read : Json → Checked α) (h : α → Handler) :
    TurnedAway (api.reply (d.withBody r read h).1).status := by
  unfold Desk.withBody
  split
  · exact .inl rfl
  · exact .inr (.inl rfl)
  · rw [withSession_closed hd]
    exact .inr (.inr rfl)
  · rw [withSession_closed hd]
    exact .inr (.inr rfl)

/-- Without a session, the routes of the session turn every request away. -/
theorem respond_closed {r : Request} {route : Route} (hroute : Route.ofPath? r.path = some route)
    (hmethod : r.method = route.method) (hof : route.isOfSession = true) (api : Api) {d : Desk}
    (hd : d.session = none) : TurnedAway (api.respond r d).1.status := by
  rw [(respond_handle hroute hmethod api d).1]
  cases route with
  | health => cases hof
  | patterns => cases hof
  | pattern name => cases hof
  | config => exact withBody_closed api hd r _ _
  | selectPattern => exact withBody_closed api hd r _ _
  | prompt => exact withBody_closed api hd r _ _
  | code => exact withBody_closed api hd r _ _
  | _ =>
    simp only [Route.handle]
    rw [withSession_closed hd]
    exact .inr (.inr rfl)

end Http

/-! ## The end -/

/-- What becomes of the server in the end. -/
def Ending.server : Ending → Task
  | .returned => .done
  | .failed f => .failed f
  | .signalled _ => .cancelled

/-- What becomes of the wait for a signal in the end. -/
def Ending.signalWait : Ending → Task
  | .signalled _ => .done
  | _ => .cancelled

namespace Studio

/-- A session that was stopped has the frame and the body that it had, and stays as it is. -/
theorem stopped_still (t : SessionState) :
    (stopped t).clock.cadence = .idle ∧ (stopped t).clock.cancelled = [] ∧
    (stopped t).clock.frame = t.clock.frame ∧ (stopped t).body = t.body ∧
    ∀ log ms, SessionState.elapse { stopped t with log := log } ms = { stopped t with log := log } := by
  obtain ⟨log, hstop⟩ := Timed.stop_state t
  have hclock : (stopped t).clock = (t.clock.after .stop).settled := by
    rw [stopped, hstop]
    rfl
  have hidle : (stopped t).clock.cadence = .idle := by
    rw [hclock]
    rfl
  refine ⟨hidle, ?_, ?_, ?_, fun log ms => ?_⟩
  · rw [hclock]
    rfl
  · rw [hclock, (Clock.alike_settled _).frame]
    rfl
  · rw [stopped, hstop]
    rfl
  · exact Timed.advance_idle _ ms (by rw [hidle]; rfl)

theorem desk_serving {s : Studio} (hs : Serving s) : s.desk = ⟨s.session, s.log⟩ := by
  rw [desk, if_pos hs.isInstalled]

theorem serve_serving {s : Studio} (hs : Serving s) (api : Http.Api) (visits : List Http.Visit) :
    Serving (s.serve api visits).2 := by
  refine { hs with session := ?_ }
  have hsome := Http.serve_isSome api visits s.desk
  simp only [serve, if_pos hs.isInstalled]
  rw [hsome, desk_serving hs]
  exact hs.session

/-- Visits do not reach a session that was taken away from the interface. -/
theorem serve_removed {s : Studio} (h : s.isInstalled = false) (api : Http.Api)
    (visits : List Http.Visit) :
    (s.serve api visits).2.session = s.session ∧ (s.serve api visits).2.desk.session = none := by
  have hremoved : ¬s.isInstalled = true := by
    rw [h]
    exact Bool.false_ne_true
  exact ⟨if_neg hremoved, if_neg hremoved⟩

/-- Ending a studio that serves stops its session and takes it away from the interface. -/
theorem finish_session {s : Studio} {t : SessionState} (ht : s.session = some t) (ending : Ending) :
    (s.finish ending).session = some { stopped t with log := [] } ∧
    (s.finish ending).isInstalled = false := by
  have harrived : (arrive ending s).session = some t := by cases ending <;> exact ht
  have hclosed : (arrive ending s).close = { arrive ending s with
      session := some { stopped t with log := [] }
      isInstalled := false
      log := (arrive ending s).log ++ (stopped t).log } := by
    simp only [close, harrived, Option.map_some]
  simp only [finish, cancelTasks, hclosed, and_self]

theorem close_tasks (s : Studio) : s.close.server = s.server ∧ s.close.signalWait = s.signalWait := by
  unfold close
  split <;> exact ⟨rfl, rfl⟩

/-- Of the two tasks one is over when the end comes, and the other one is cancelled. -/
theorem finish_tasks {s : Studio} (hs : Serving s) (ending : Ending) :
    (s.finish ending).server = some ending.server ∧
    (s.finish ending).signalWait = some ending.signalWait := by
  obtain ⟨hserver, hwait⟩ := (arrive ending s).close_tasks
  simp only [finish, cancelTasks, hserver, hwait]
  cases ending <;> simp only [arrive, hs.server, hs.signalWait] <;> exact ⟨rfl, rfl⟩

/-- One LED that flashes every three milliseconds. -/
def flashingStrip : Entries :=
  [(.text "strip", .map [(.text "led_count", .int 1), (.text "speed", .int 97),
    (.text "pattern", .text "strobe")])]

/-- The clock is started, ticks twice, and is given another speed on its way to the next tick. -/
def playingVisits : List Http.Visit :=
  [.request { method := "POST", path := "/api/v1/session/start" }, .pause 7,
    .request { Http.resize with body := some "\x7b\"speed\": 99\x7d" }]

end Studio
end LedStudio
