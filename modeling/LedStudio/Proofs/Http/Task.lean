import LedStudio.Proofs.Http.Answer

/-!
# Tasks of the session's routes

A request to a route of the session asks for a task: to look, to change settings, to carry out an
operation, or to play what a prompt suggests. A task is operations on the session, carried out until
one fails, and a way to answer.

* `givenBy_of_task` — the settings to change are those that the body gives.
* `handler_performs` — the handler of a task does what its operations do, and answers with what they
  leave.
-/

namespace LedStudio

open SessionState (Twin)
open StripConfig (Whole whole_stable)

/-- Carries out operations until one fails. -/
def SessionState.performEach (s : SessionState) :
    List SessionOp → Outcome Unit × SessionState
  | [] => (.ok (), s)
  | op :: rest =>
    match s.perform op with
    | (.ok _, s) => s.performEach rest
    | (.error f, s) => (.error f, s)

namespace Http

/-! ## Tasks -/

/-- What a request to a route of the session asks for. -/
inductive Task where
  | look
  | change (u : ConfigUpdate)
  | operate (op : SessionOp)
  | play (prompt : String)

/-- The operations for the settings that are given: the count, the brightness, the speed. -/
def ConfigUpdate.operations (u : ConfigUpdate) : List SessionOp :=
  (u.ledCount.map fun n => .setLedCount (.int n)).toList ++
    (u.brightness.map fun b => .setBrightness (.int b)).toList ++
    (u.speed.map fun k => .setSpeed (.int k)).toList

def Task.operations : Task → List SessionOp
  | look => []
  | change u => u.operations
  | operate op => [op]
  | play prompt => [.applyPrompt (.text prompt)]

/-- An answer to a task that left a session. -/
def Task.Answers (v : Json) (s : SessionState) : Task → Prop
  | play prompt => ∃ p shown, suggest keywordTable fallbackPattern (.text prompt) = .ok p ∧
      v.field? "pattern" = some (.text p.name) ∧ v.field? "session" = some shown ∧ Shows shown s
  | _ => Shows v s

/-- The fields of a body, if they are in order. -/
def RawBody.fields? {α : Type} (body : RawBody) (read : Json → Checked α) : Option α :=
  match body.check read with
  | .checked (.ok v) => some v
  | _ => none

/-- The task of a route of the session, for a body that is in order. -/
def Route.task? (body : RawBody) : Route → Option Task
  | .session => some .look
  | .config => (body.fields? ConfigUpdate.read).map .change
  | .selectPattern => (body.fields? readPattern).map fun ref => .operate (.setPattern ref)
  | .start => some (.operate .start)
  | .stop => some (.operate .stop)
  | .reset => some (.operate .reset)
  | .step => some (.operate .step)
  | .play => some (.operate .play)
  | .prompt => (body.fields? readPrompt).map .play
  | _ => none

/-- The task of a request to a route of the session, made in order. -/
def Request.task? (r : Request) : Option Task := do
  let route ← Route.ofPath? r.path
  if r.method = route.method then route.task? r.rawBody else none

theorem Request.task_change {r : Request} {u : ConfigUpdate}
    (hroute : Route.ofPath? r.path = some .config) (hmethod : r.method = "PUT")
    (hfields : r.rawBody.fields? ConfigUpdate.read = some u) : r.task? = some (.change u) := by
  simp only [Request.task?, hroute, hmethod, Route.method, Route.task?, hfields, Option.map_some,
    if_true, bind, Option.bind]

/-- A field of a body gives a setting: none if it is missing or null, and else the integer that it
stands for. -/
def Given (body : Json) (name : String) : Option Int → Prop
  | none => body.field? name = none ∨ body.field? name = some .null
  | some n => ∃ v, body.field? name = some v ∧ v ≠ .null ∧ readInteger v = .ok n

/-- The settings to change are those that a body gives. -/
def ConfigUpdate.GivenBy (u : ConfigUpdate) (body : Json) : Prop :=
  Given body "led_count" u.ledCount ∧ Given body "brightness" u.brightness ∧
    Given body "speed" u.speed

/-- A field that may be missing or null is one of these, or is read. -/
theorem optional_ok {α : Type} {read : String → Json → Checked α} {body : Json} {name : String}
    {o : Option α} (h : optional read name body = .ok o) :
    (o = none ∧ (body.field? name = none ∨ body.field? name = some .null)) ∨
    ∃ v x, o = some x ∧ body.field? name = some v ∧ v ≠ .null ∧ read name v = .ok x := by
  cases hfield : body.field? name with
  | none =>
    simp only [optional, hfield, Except.ok.injEq] at h
    exact .inl ⟨h.symm, .inl rfl⟩
  | some v =>
    by_cases hnull : v = .null
    · subst hnull
      simp only [optional, hfield, Except.ok.injEq] at h
      exact .inl ⟨h.symm, .inr rfl⟩
    · have hread : (read name v).map some = .ok o := by
        cases v with
        | null => exact absurd rfl hnull
        | _ => simpa only [optional, hfield] using h
      cases hx : read name v with
      | error e => simp only [hx, Except.map, reduceCtorEq] at hread
      | ok x =>
        simp only [hx, Except.map, Except.ok.injEq] at hread
        exact .inr ⟨v, x, hread.symm, rfl, hnull, hx⟩

theorem given_of_optional {body : Json} {name : String} {o : Option Int}
    (h : optional integer name body = .ok o) : Given body name o := by
  rcases optional_ok h with ⟨rfl, hnone⟩ | ⟨v, n, rfl, hv, hnull, hinteger⟩
  · exact hnone
  · refine ⟨v, hv, hnull, ?_⟩
    unfold integer at hinteger
    split at hinteger
    · rename_i hread
      rw [hread, Except.ok.inj hinteger]
    · cases hinteger

theorem Checked.both_ok {α β : Type} {a : Checked α} {b : Checked β} {x : α × β}
    (h : a.both b = .ok x) : a = .ok x.1 ∧ b = .ok x.2 := by
  cases a <;> cases b <;> cases h
  exact ⟨rfl, rfl⟩

theorem givenBy_of_read {body : Json} {u : ConfigUpdate} (h : ConfigUpdate.read body = .ok u) :
    u.GivenBy body := by
  unfold ConfigUpdate.read at h
  cases hfields : ((optional integer "led_count" body).both
      (optional integer "brightness" body)).both (optional integer "speed" body) with
  | error e => simp only [hfields, Except.map, reduceCtorEq] at h
  | ok x =>
    obtain ⟨hfirst, hspeed⟩ := Checked.both_ok hfields
    obtain ⟨hcount, hbrightness⟩ := Checked.both_ok hfirst
    simp only [hfields, Except.map, Except.ok.injEq] at h
    subst h
    exact ⟨given_of_optional hcount, given_of_optional hbrightness, given_of_optional hspeed⟩

/-- A body that is in order is an object, whose fields are read. -/
theorem object_of_fields {α : Type} {body : RawBody} {read : Json → Checked α} {v : α}
    (h : body.fields? read = some v) :
    ∃ fields, body = .json (.object fields) ∧ read (.object fields) = .ok v := by
  cases body with
  | json content =>
    cases content with
    | object fields =>
      refine ⟨fields, rfl, ?_⟩
      unfold RawBody.fields? RawBody.check at h
      split at h
      · rename_i heq
        rw [Reading.checked.inj heq, Option.some.inj h]
      · cases h
    | _ => cases h
  | _ => cases h

/-- The body of a request to change settings is an object, which gives them. -/
theorem givenBy_of_task {route : Route} {body : RawBody} {u : ConfigUpdate}
    (h : route.task? body = some (.change u)) :
    ∃ fields, body = .json (.object fields) ∧ u.GivenBy (.object fields) := by
  cases route <;> simp only [Route.task?, Option.some.injEq, Option.map_eq_some_iff, reduceCtorEq,
    and_false, exists_false] at h
  obtain ⟨w, hw, hwu⟩ := h
  cases hwu
  obtain ⟨fields, hbody, hread⟩ := object_of_fields hw
  exact ⟨fields, hbody, givenBy_of_read hread⟩

/-! ## Handlers -/

/-- The handler of a task. -/
def Task.handler : Task → Handler
  | look => showSession
  | change u => updateConfig u
  | operate op => Http.operate op
  | play prompt => applyPrompt prompt

theorem withBody_of_fields {α : Type} {d : Desk} {r : Request} {read : Json → Checked α} {v : α}
    {h : α → Handler} (hv : r.rawBody.fields? read = some v) :
    d.withBody r read h = d.withSession (h v) := by
  unfold RawBody.fields? at hv
  unfold Desk.withBody
  split at hv
  · rename_i w hw
    rw [hw, Option.some.inj hv]
  · cases hv

/-- A route with a task hands the session to the handler of the task. -/
theorem handle_task {route : Route} {r : Request} {task : Task}
    (h : route.task? r.rawBody = some task) (api : Api) (d : Desk) :
    route.handle api r d = d.withSession task.handler := by
  cases route <;> simp only [Route.task?, Option.some.injEq, Option.map_eq_some_iff, reduceCtorEq] at h
  case config =>
    obtain ⟨u, hu, rfl⟩ := h
    exact withBody_of_fields hu
  case selectPattern =>
    obtain ⟨ref, href, rfl⟩ := h
    exact withBody_of_fields href
  case prompt =>
    obtain ⟨p, hp, rfl⟩ := h
    exact withBody_of_fields hp
  all_goals
    subst h
    rfl

/-- The answer to a task, by the session that it left. -/
def Task.view (s : SessionState) : Task → Outcome Json
  | play prompt => do
    let p ← suggest keywordTable fallbackPattern (.text prompt)
    return .object [("pattern", .text p.name), ("session", ← sessionJson s)]
  | _ => sessionJson s

theorem Task.view_answers {s : SessionState} (hwhole : s.body.config.Whole) (h : Writable s)
    (task : Task) : ∃ v, task.view s = .ok v ∧ task.Answers v s := by
  obtain ⟨shown, hshown, hshows⟩ := shows_sessionJson hwhole h
  cases task with
  | play prompt =>
    let points := Text.lowerPoints (Value.text prompt).points
    let p := (keywordTable.firstIn points).getD fallbackPattern
    refine ⟨.object [("pattern", .text p.name), ("session", shown)], ?_, p, shown, rfl, rfl, rfl,
      hshows⟩
    simp only [view, hshown]
    rfl
  | _ => exact ⟨shown, hshown, hshows⟩

theorem Task.view_error {s : SessionState} (hwhole : s.body.config.Whole) (h : ¬Writable s)
    (task : Task) : ∃ f, task.view s = .error f := by
  obtain ⟨f, hf⟩ := sessionJson_eq_error hwhole h
  cases task with
  | play prompt =>
    refine ⟨f, ?_⟩
    simp only [view, hf]
    rfl
  | _ => exact ⟨f, hf⟩

/-- However a failure is stamped, its response does not look like a success. -/
def Failure.Refuses (failure : Failure) : Prop := ∀ stamp, (failure.response stamp).status ≠ 200

theorem refuses_unexpected (f : Fault) : (Failure.unexpected f).Refuses :=
  fun _ => (by decide : 500 ≠ 200)

theorem refuses_ledCountFailure (count : Value) (f : Fault) :
    (ledCountFailure count f).Refuses := by
  unfold ledCountFailure
  split
  · exact fun _ => (by decide : 422 ≠ 200)
  · exact refuses_unexpected f

/-- What a handler gives for what there is to be shown. -/
def answered : Outcome Json → Except Failure Response
  | .ok v => .ok (.json 200 v)
  | .error f => .error (.unexpected f)

/-- A handler leaves what some operations leave, by themselves, on the same session. If they succeed
it answers with a view of that, and if one fails it fails. -/
def Performs (ops : List SessionOp) (view : SessionState → Outcome Json) (h : Handler) : Prop :=
  ∀ s t, Twin Whole s t →
    Twin Whole (h s).2 (t.performEach ops).2 ∧
    match (t.performEach ops).1 with
    | .ok _ => (h s).1 = answered (view (h s).2)
    | .error _ => ∃ failure, (h s).1 = .error failure ∧ failure.Refuses

theorem answerWith_eq (v : Outcome Json) (s : SessionState) : answerWith v s = (answered v, s) := by
  cases v <;> rfl

namespace Performs

variable {ops : List SessionOp} {view : SessionState → Outcome Json} {next : Handler}

theorem answer (view : SessionState → Outcome Json) :
    Performs [] view fun s => answerWith (view s) s := by
  intro s t hst
  simp only [answerWith_eq]
  exact ⟨hst, trivial⟩

theorem perform (hnext : Performs ops view next) {op : SessionOp} (hop : op.actors = 0)
    {onFault : Fault → Failure} (hfault : ∀ f, (onFault f).Refuses) :
    Performs (op :: ops) view fun s =>
      Http.perform (op.perform (s.notify 0)) onFault (fun _ => next) s := by
  intro s t hst
  obtain ⟨hout, htwin⟩ := hst.perform whole_stable op
  have hs : op.perform (s.notify 0) s = s.perform op := by rw [SessionState.perform, hop]
  simp only [Http.perform, hs, SessionState.performEach]
  rcases hsop : s.perform op with ⟨f | _, s'⟩ <;> rcases htop : t.perform op with ⟨g | _, t'⟩ <;>
    rw [hsop, htop] at hout htwin <;> cases hout
  · exact ⟨htwin, _, rfl, hfault f⟩
  · exact hnext s' t' htwin

theorem setting (hnext : Performs ops view next) {op : Int → SessionOp}
    (hop : ∀ n, (op n).actors = 0) {onFault : Int → Fault → Failure}
    (hfault : ∀ n f, (onFault n f).Refuses) (o : Option Int) :
    Performs ((o.map op).toList ++ ops) view (Http.setting op onFault next o) := by
  cases o with
  | none => exact hnext
  | some n => exact hnext.perform (hop n) (hfault n)

theorem updateConfig (u : ConfigUpdate) :
    Performs u.operations sessionJson (Http.updateConfig u) := by
  have hops : u.operations = (u.ledCount.map fun n => .setLedCount (.int n)).toList ++
      ((u.brightness.map fun b => .setBrightness (.int b)).toList ++
        ((u.speed.map fun k => .setSpeed (.int k)).toList ++ [])) := by
    rw [ConfigUpdate.operations, List.append_nil, List.append_assoc]
  rw [hops]
  exact (((answer sessionJson).setting (fun _ => rfl) (fun _ => refuses_unexpected) u.speed).setting
    (fun _ => rfl) (fun _ => refuses_unexpected) u.brightness).setting
      (fun _ => rfl) (fun n => refuses_ledCountFailure (.int n)) u.ledCount

/-- The pattern that a prompt led to is the one that it suggests. -/
theorem suggest_of_applyPrompt {notify : SessionAction Unit} {prompt : Value} {s t : SessionState}
    {p : PatternId} (h : Session.applyPrompt notify prompt s = (.ok p, t)) :
    suggest keywordTable fallbackPattern prompt = .ok p := by
  obtain ⟨q, s₁, hsuggest, h⟩ := Action.andThen_eq_ok h
  obtain ⟨-, s₂, -, h⟩ := Action.andThen_eq_ok h
  obtain ⟨-, s₃, -, h⟩ := Action.andThen_eq_ok h
  obtain ⟨-, s₄, -, h⟩ := Action.andThen_eq_ok h
  cases h
  exact congrArg Prod.fst hsuggest

theorem applyPrompt_eq (prompt : String) (s : SessionState) : Http.applyPrompt prompt s =
    match Session.applyPrompt (s.notify 0) (.text prompt) s with
    | (.error f, s) => (.error (.unexpected f), s)
    | (.ok p, s) =>
      let told : SessionState :=
        { s with log := s.log ++ [⟨.api, .info, "Prompt applied", [detail "pattern" p.name]⟩] }
      answerWith (do return .object [("pattern", .text p.name), ("session", ← sessionJson told)])
        told := by
  simp only [Http.applyPrompt, Http.perform, bind, Action.andThen]
  rcases Session.applyPrompt (s.notify 0) (.text prompt) s with ⟨_ | p, s'⟩ <;> rfl

theorem applyPrompt (prompt : String) :
    Performs [.applyPrompt (.text prompt)] (fun s => (Task.play prompt).view s)
      (Http.applyPrompt prompt) := by
  intro s t hst
  have hattended := (Twin.abreast whole_stable).attended
  obtain ⟨hout, htwin⟩ :=
    hattended.applyPrompt (hattended.notify_agree hst 0) (.text prompt) s t hst
  rcases hs : Session.applyPrompt (s.notify 0) (.text prompt) s with ⟨f | p, s'⟩ <;>
    rcases ht : Session.applyPrompt (t.notify 0) (.text prompt) t with ⟨g | q, t'⟩ <;>
    rw [hs, ht] at hout htwin <;> cases hout
  · have hdirect : t.perform (.applyPrompt (.text prompt)) = (.error f, t') :=
      Action.andThen_error ht
    simp only [SessionState.performEach, hdirect, applyPrompt_eq, hs]
    exact ⟨htwin, _, rfl, refuses_unexpected f⟩
  · have hdirect : t.perform (.applyPrompt (.text prompt)) = (.ok (.pattern p), t') :=
      Action.andThen_ok ht
    have hview : ∀ u, (Task.play prompt).view u =
        do return .object [("pattern", .text p.name), ("session", ← sessionJson u)] := by
      intro u
      simp only [Task.view, suggest_of_applyPrompt hs]
      rfl
    simp only [SessionState.performEach, hdirect, applyPrompt_eq, hs, ← hview]
    exact answer (fun u => (Task.play prompt).view u) _ t' (htwin.relog _ t'.log)

end Performs

/-- The handler of a task performs its operations. -/
theorem handler_performs {route : Route} {body : RawBody} {task : Task}
    (h : route.task? body = some task) :
    Performs task.operations (fun s => task.view s) task.handler := by
  have hop : ∀ op : SessionOp, op.actors = 0 →
      Performs [op] sessionJson (Task.operate op).handler :=
    fun op hop => (Performs.answer sessionJson).perform hop refuses_unexpected
  cases route <;> simp only [Route.task?, Option.some.injEq, Option.map_eq_some_iff, reduceCtorEq] at h
  case session =>
    subst h
    exact .answer sessionJson
  case config =>
    obtain ⟨u, -, rfl⟩ := h
    exact .updateConfig u
  case selectPattern =>
    obtain ⟨ref, -, rfl⟩ := h
    exact hop (.setPattern ref) rfl
  case prompt =>
    obtain ⟨p, -, rfl⟩ := h
    exact .applyPrompt p
  all_goals
    subst h
    exact hop _ rfl

end Http
end LedStudio
