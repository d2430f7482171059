import LedStudio.Proofs.Session.Tally

/-!
# Listeners of any kind

A listener is code from outside. Here it is any code that leaves the session alone but for its
subscriptions: whether it fails, and what it subscribes and unsubscribes, may hang on all that the
session holds, and so on all its calls so far.

* `serve_eq` — the listeners of a session are served as such listeners are.
* `render_delivers` — what a rendering leaves.
* `enterAll_delivers` — in any run, what is heard is what the renderings deliver.
* `steps_calm` — it would be the same if no listener failed, the log aside.
-/

namespace LedStudio

/-- What comes of the call of a listener: the subscriptions and the known listeners that it leaves,
and whether it failed. -/
structure Response where
  subscribers : List String
  listeners : List (String × Manner)
  result : Outcome Unit

/-- What each listener does when it is called: the session that it is called from has its call among
the others that were heard. -/
def Audience := Clock → Session → String → Response

namespace Session

/-- What is put into the log when a listener fails. -/
def failure (id : String) (f : Fault) : LogRecord :=
  ⟨.session, .error, "Frame listener failed: " ++ f.message, [detail "listener" id]⟩

/-- Calls listeners in order, each by `call`, and puts their failures into the log. -/
def serveBy (call : String → SessionAction Unit) : List String → SessionAction Unit
  | [] => pure ()
  | id :: rest => do
    match ← Action.attempt (call id) with
    | .ok _ => pure ()
    | .error f => Timed.note (failure id f)
    serveBy call rest

/-- The session once the call of a listener is over. -/
def afterCall (id : String) (done : Outcome Unit × SessionState) : SessionState :=
  match done.1 with
  | .ok _ => done.2
  | .error f => { done.2 with log := done.2.log ++ [failure id f] }

theorem serveBy_cons (call : String → SessionAction Unit) (id : String) (rest : List String)
    (s : SessionState) :
    serveBy call (id :: rest) s = serveBy call rest (afterCall id (call id s)) := by
  rcases h : call id s with ⟨f | u, t⟩
  · simp only [serveBy, bind, Action.andThen, Action.attempt, h, afterCall]
    rfl
  · simp only [serveBy, bind, Action.andThen, Action.attempt, h, afterCall]

/-- **The listeners of a session are served so**, whatever they do. -/
theorem serve_eq (notify : SessionAction Unit) (ids : List String) :
    serve notify ids = serveBy (call notify) ids := by
  induction ids with
  | nil => rfl
  | cons id rest ih =>
    funext s
    rw [serve_cons, serveBy_cons, ih]
    rfl

theorem afterCall_eq (id : String) (done : Outcome Unit × SessionState) : ∃ log,
    afterCall id done = { done.2 with log := done.2.log ++ log } ∧
    ∀ r ∈ log, ∃ f, r = failure id f := by
  unfold afterCall
  cases done.1 with
  | ok _ => exact ⟨[], by simp only [List.append_nil], List.forall_mem_nil _⟩
  | error f => exact ⟨[failure id f], rfl, List.forall_mem_singleton.2 ⟨f, rfl⟩⟩

end Session

namespace Audience

variable (a : Audience)

/-- Calls a listener. -/
def call (id : String) : SessionAction Unit := do
  Session.hear id
  let s ← Action.get
  let response := a s.clock s.body id
  Session.modify fun b =>
    { b with subscribers := response.subscribers, listeners := response.listeners }
  Action.lift response.result

/-- Tells the listeners of a picture: the ones that are subscribed now, whatever becomes of the
subscriptions. -/
def tell : SessionAction Unit := do Session.serveBy a.call (← Session.get).subscribers

/-! ## One rendering -/

/-- A listener leaves its call, and the subscriptions and listeners that it answers with. -/
theorem call_eq (id : String) (s : SessionState) : a.call id s =
    ((a s.clock (s.heardBy id).body id).result, { s.heardBy id with
      body := { (s.heardBy id).body with
        subscribers := (a s.clock (s.heardBy id).body id).subscribers
        listeners := (a s.clock (s.heardBy id).body id).listeners } }) := rfl

/-- Each listener is called once for each time that it stands in the list, in order, with the
colours that the session has by then. -/
theorem serveBy_delivers (ids : List String) (s : SessionState) : ∃ log subscribers listeners,
    Session.serveBy a.call ids s = (.ok (), { s with
      log := s.log ++ log
      body := { s.body with
        subscribers, listeners
        heard := s.body.heard ++ ids.map fun id => ⟨id, s.clock.frame, s.body.leds⟩ } }) ∧
    ∀ r ∈ log, ∃ id ∈ ids, ∃ f, r = Session.failure id f := by
  induction ids generalizing s with
  | nil =>
    refine ⟨[], s.body.subscribers, s.body.listeners, ?_, List.forall_mem_nil _⟩
    simp only [List.map_nil, List.append_nil]
    rfl
  | cons id rest ih =>
    obtain ⟨first, hfirst, hfailure⟩ := Session.afterCall_eq id (a.call id s)
    obtain ⟨log, subscribers, listeners, hrest, hfailures⟩ :=
      ih (Session.afterCall id (a.call id s))
    refine ⟨first ++ log, subscribers, listeners, ?_, ?_⟩
    · rw [Session.serveBy_cons, hrest, hfirst, call_eq]
      simp only [SessionState.heardBy, List.map_cons, List.append_assoc, List.singleton_append]
    · refine List.forall_mem_append.2 ⟨fun r hr => ?_, fun r hr => ?_⟩
      · exact ⟨id, List.mem_cons_self, hfailure r hr⟩
      · obtain ⟨other, hother, hr⟩ := hfailures r hr
        exact ⟨other, List.mem_cons_of_mem id hother, hr⟩

/-- **A rendering delivers.** Unless there is a colour that it cannot compute, it succeeds, sets the
colours and calls the listeners that were subscribed when it began; apart from what they do to the
subscriptions, it leaves a record for those that failed. -/
theorem render_delivers (s : SessionState) :
    match s.picture.leds with
    | .error f => Session.render a.tell s = (.error f, s.spent)
    | .ok leds => ∃ log subscribers listeners, Session.render a.tell s = (.ok (), { s.spent with
        log := s.spent.log ++ log
        body := { s.spent.body with
          leds, subscribers, listeners
          heard := s.body.heard ++ s.body.subscribers.map fun id => ⟨id, s.clock.frame, leds⟩ } }) ∧
        ∀ record ∈ log, ∃ id ∈ s.body.subscribers, ∃ f, record = Session.failure id f := by
  rw [Session.render_eq]
  cases s.picture.leds with
  | error f => rfl
  | ok leds => exact a.serveBy_delivers s.body.subscribers _

end Audience

/-- The calls that a rendering of the session is to make: one for each subscription, in order, with
the colours that it computes, and none if it cannot compute one. -/
def SessionState.delivered (s : SessionState) : List Heard :=
  match s.picture.leds with
  | .error _ => []
  | .ok leds => s.body.subscribers.map fun id => ⟨id, s.clock.frame, leds⟩

namespace Audience

variable (a : Audience)

theorem render_heard (s : SessionState) :
    (Session.render a.tell s).2.body.heard = s.body.heard ++ s.delivered := by
  have h := a.render_delivers s
  unfold SessionState.delivered
  cases hleds : s.picture.leds with
  | error f =>
    rw [hleds] at h
    rw [h, List.append_nil]
    rfl
  | ok leds =>
    rw [hleds] at h
    obtain ⟨log, subscribers, listeners, h, -⟩ := h
    rw [h]

/-! ## Steps -/

/-- An operation on a session with these listeners, after which the event loop runs. -/
def run (s : SessionState) (op : SessionOp) : Outcome SessionResult × SessionState :=
  ((op.perform a.tell s).1, (op.perform a.tell s).2.settle)

def step (s : SessionState) : SessionStep → Outcome SessionResult × SessionState
  | .op op => a.run s op
  | .elapse ms => (.ok .nothing, s.advance (Session.render a.tell) ms)

/-- Steps of a session with these listeners, whether they fail or not. -/
def steps (s : SessionState) (todo : List SessionStep) : SessionState :=
  todo.foldl (fun s todo => (a.step s todo).2) s

/-! ### With a ledger -/

/-- A step of a session with these listeners and a ledger. -/
def enter (l : Timed Ledger) : SessionStep → Timed Ledger
  | .op op => (Ledger.operation op (Ledger.perform (Ledger.plain a.tell) op) l).2.settle
  | .elapse ms => Ledger.advance (Ledger.render (Ledger.plain a.tell)) ms l

def enterAll (l : Timed Ledger) (todo : List SessionStep) : Timed Ledger := todo.foldl a.enter l

end Audience

/-- The tally that is all that the listeners have heard, if each rendering delivers. -/
def heardTally : Tally (List Heard) where
  of _ heard := heard
  add heard
    | .rendering s _ => heard ++ s.delivered
    | _ => heard
  operation _ _ _ _ _ _ := rfl
  tick _ _ _ := rfl

open Deed (renderings)

theorem heardTally_sum (heard : List Heard) (deeds : List Deed) :
    heardTally.sum heard deeds =
      heard ++ (renderings deeds).flatMap SessionState.delivered := by
  unfold Tally.sum renderings
  induction Deed.allOf deeds generalizing heard with
  | nil => simp
  | cons d rest ih =>
    rw [List.foldl_cons, ih]
    cases d with
    | operation op running returned parts => rfl
    | tick parts => rfl
    | rendering s told =>
      simp only [heardTally, List.filterMap_cons, Deed.rendered?, List.flatMap_cons,
        List.append_assoc]

namespace Audience

open Ledger (forget Tallies)
open LedStudio.Action (Agree)

variable (a : Audience)

theorem draw_deeds (b : SessionAction Unit) (l : Timed Ledger) :
    (Ledger.draw (Ledger.plain b) l).2.body.deeds = l.body.deeds := by
  let drawn : Ledger.Move Unit := Ledger.plain (Session.render (pure ()))
  show (Action.andThen drawn (fun _ => Ledger.plain b) l).2.body.deeds = _
  rcases h : drawn l with ⟨f | u, m⟩
  · rw [Action.andThen_error h]
    exact congrArg (·.2.body.deeds) h.symm
  · rw [Action.andThen_ok h]
    exact congrArg (·.2.body.deeds) h.symm

theorem render_tallies : Tallies heardTally id (Ledger.render (Ledger.plain a.tell)) := by
  intro l
  refine ⟨[.rendering (forget l) []], ?_, ?_⟩
  · show l.body.deeds ++ [Deed.rendering (forget l) _] = _
    rw [draw_deeds]
  · have hforget := (Ledger.render_agree (Ledger.plain_agree a.tell) l (forget l) rfl).2
    have hone : renderings [.rendering (forget l) []] = [forget l] :=
      Deed.renderings_singleton _
    rw [heardTally_sum, hone, List.flatMap_singleton]
    show (forget (Ledger.render (Ledger.plain a.tell) l).2).body.heard = _
    rw [← hforget, render_heard]
    rfl

theorem enter_forget (l : Timed Ledger) (todo : SessionStep) :
    (a.step (forget l) todo).2 = forget (a.enter l todo) := by
  have htell := Ledger.plain_agree a.tell
  cases todo with
  | op op =>
    have hperform : Agree Ledger.Mirrors
        (Ledger.operation op (Ledger.perform (Ledger.plain a.tell) op)) (op.perform a.tell) :=
      Ledger.operation_agree (Ledger.perform_agree htell op)
    exact Ledger.parallel.abreast.settle (hperform l (forget l) rfl).2
  | elapse ms => exact Ledger.advance_forget (Ledger.render_agree htell) ms l

/-- The ledger changes nothing. -/
theorem enterAll_forget (l : Timed Ledger) (todo : List SessionStep) :
    a.steps (forget l) todo = forget (a.enterAll l todo) := by
  induction todo generalizing l with
  | nil => rfl
  | cons first rest ih =>
    show a.steps (a.step (forget l) first).2 rest = forget (a.enterAll (a.enter l first) rest)
    rw [enter_forget, ih]

theorem enter_delivers (l : Timed Ledger) (todo : SessionStep) : ∃ made,
    (a.enter l todo).body.deeds = l.body.deeds ++ made ∧
    (a.enter l todo).body.session.heard =
      l.body.session.heard ++ (renderings made).flatMap SessionState.delivered := by
  cases todo with
  | op op =>
    obtain ⟨parts, hdeeds, hheard⟩ := Ledger.run_tallies a.render_tallies op l
    exact ⟨_, hdeeds, hheard.trans (heardTally_sum _ _)⟩
  | elapse ms =>
    obtain ⟨made, hdeeds, -, hheard⟩ := Ledger.advance_tallies a.render_tallies ms l
    exact ⟨made, hdeeds, hheard.trans (heardTally_sum _ _)⟩

/-- **What is heard in a run is what its renderings deliver**, one after the other. -/
theorem enterAll_delivers (l : Timed Ledger) (todo : List SessionStep) : ∃ made,
    (a.enterAll l todo).body.deeds = l.body.deeds ++ made ∧
    (a.enterAll l todo).body.session.heard =
      l.body.session.heard ++ (renderings made).flatMap SessionState.delivered := by
  induction todo generalizing l with
  | nil => exact ⟨[], (List.append_nil _).symm, (List.append_nil _).symm⟩
  | cons first rest ih =>
    obtain ⟨made, hmade, hfirst⟩ := a.enter_delivers l first
    obtain ⟨more, hmore, hrest⟩ := ih (a.enter l first)
    refine ⟨made ++ more, ?_, ?_⟩
    · rw [← List.append_assoc, ← hmade]
      exact hmore
    · rw [Deed.renderings_append, List.flatMap_append, ← List.append_assoc, ← hfirst]
      exact hrest

/-! ## Listeners that do not fail -/

/-- The same listeners, except that they do not fail. -/
def calm : Audience := fun c b id => { a c b id with result := .ok () }

open SessionState (Beside)

/-- The two sessions are the same but for their logs. -/
abbrev Same : SessionState → SessionState → Prop := Beside fun _ => True

theorem same_attended : SessionState.Attended Same :=
  Beside.attended (fun _ _ => trivial) (fun _ _ => trivial) fun _ _ => trivial

/-- A listener that fails leaves what it would have left without failing, but for the log. -/
theorem afterCall_calm (id : String) {s t : SessionState} (h : Same s t) :
    Same (Session.afterCall id (a.call id s)) (Session.afterCall id (a.calm.call id t)) := by
  obtain ⟨-, log, rfl⟩ := h
  obtain ⟨front, hs, -⟩ := Session.afterCall_eq id (a.call id s)
  obtain ⟨back, ht, -⟩ := Session.afterCall_eq id (a.calm.call id { s with log := log })
  rw [hs, ht]
  exact ⟨trivial, _, rfl⟩

theorem tell_calm : Agree Same a.tell a.calm.tell := by
  have hserve (ids : List String) :
      Agree Same (Session.serveBy a.call ids) (Session.serveBy a.calm.call ids) := by
    induction ids with
    | nil => exact .pure ()
    | cons id rest ih =>
      intro s t h
      rw [Session.serveBy_cons, Session.serveBy_cons]
      exact ih _ _ (a.afterCall_calm id h)
  intro s t h
  show (Session.serveBy a.call s.body.subscribers s).1 =
      (Session.serveBy a.calm.call t.body.subscribers t).1 ∧
    Same (Session.serveBy a.call s.body.subscribers s).2
      (Session.serveBy a.calm.call t.body.subscribers t).2
  rw [h.body_eq]
  exact hserve _ s t h

theorem step_calm {s t : SessionState} (h : Same s t) (todo : SessionStep) :
    (a.step s todo).1 = (a.calm.step t todo).1 ∧ Same (a.step s todo).2 (a.calm.step t todo).2 := by
  cases todo with
  | op op =>
    obtain ⟨hout, hstate⟩ := same_attended.perform_agree a.tell_calm op s t h
    exact ⟨hout, same_attended.timed.settle hstate⟩
  | elapse ms =>
    exact ⟨rfl, same_attended.timed.advance_agree (same_attended.render a.tell_calm) ms h⟩

/-- **Failing changes nothing but the log.** -/
theorem steps_calm {s t : SessionState} (h : Same s t) (todo : List SessionStep) :
    Same (a.steps s todo) (a.calm.steps t todo) := by
  induction todo generalizing s t with
  | nil => exact h
  | cons first rest ih => exact ih (a.step_calm h first).2

end Audience
end LedStudio
