import LedStudio.Proofs.Session.Audience
import LedStudio.Proofs.Session.Invariant

/-!
# Every picture is delivered

Each rendering calls the listeners that are subscribed when it is done, once for each subscription
and in order, and a listener that fails changes nothing but the log. Among the listeners of which
this holds are the session's own, as long as they do nothing to it but subscribe and unsubscribe.

* `notifyAll_own` — such listeners are told like listeners of any kind.
* `renderings_delivered` — what each rendering and each run of steps delivers.
-/

namespace LedStudio

mutual
/-- The operation subscribes or unsubscribes a listener that is discreet. -/
def SessionOp.Enrols : SessionOp → Prop
  | .subscribe _ manner | .unsubscribe _ manner => manner.IsDiscreet
  | _ => False

/-- A listener that is discreet only listens, fails, or subscribes and unsubscribes others. -/
def Manner.IsDiscreet : Manner → Prop
  | .act _ ops => SessionOp.AllEnrol ops
  | _ => True

def SessionOp.AllEnrol : List SessionOp → Prop
  | [] => True
  | op :: rest => op.Enrols ∧ SessionOp.AllEnrol rest
end

/-- A listener that the operation brings in is discreet. -/
def SessionOp.IsDiscreet : SessionOp → Prop
  | .subscribe _ manner | .unsubscribe _ manner => manner.IsDiscreet
  | _ => True

def SessionStep.IsDiscreet : SessionStep → Prop
  | .op todo => todo.IsDiscreet
  | .elapse _ => True

/-- All listeners that the session knows are discreet. -/
def Session.IsDiscreet (b : Session) : Prop := ∀ entry ∈ b.listeners, entry.2.IsDiscreet

namespace Session

variable {b : Session}

/-- What an operation that subscribes or unsubscribes makes of a session. -/
def enrol (b : Session) : SessionOp → Session
  | .subscribe id manner =>
    let b := b.introduce id manner
    { b with subscribers := b.subscribers ++ [id] }
  | .unsubscribe id manner =>
    let b := b.introduce id manner
    { b with subscribers := b.subscribers.erase id }
  | _ => b

theorem perform_enrol (notify : SessionAction Unit) {op : SessionOp} (hop : op.Enrols)
    (s : SessionState) :
    op.perform notify s = (.ok .nothing, { s with body := s.body.enrol op }) := by
  cases op with
  | subscribe id manner => rfl
  | unsubscribe id manner => rfl
  | _ => cases hop

theorem performAll_enrol (notify : SessionAction Unit) {ops : List SessionOp}
    (hops : SessionOp.AllEnrol ops) (s : SessionState) :
    performAll notify ops s = (.ok (), { s with body := ops.foldl enrol s.body }) := by
  induction ops generalizing s with
  | nil => rfl
  | cons op rest ih =>
    have hfirst := perform_enrol notify hops.1 s
    show Action.andThen (op.perform notify) (fun _ => performAll notify rest) s = _
    rw [Action.andThen_ok hfirst, ih hops.2]
    rfl

/-- Enrolling changes nothing but the subscriptions and the listeners. -/
theorem enrol_eq (b : Session) (op : SessionOp) :
    ∃ subscribers listeners, b.enrol op = { b with subscribers, listeners } := by
  cases op with
  | subscribe id manner | unsubscribe id manner =>
    obtain ⟨listeners, hb⟩ := introduce_eq b id manner
    exact ⟨_, listeners, by simp only [enrol, hb]; rfl⟩
  | _ => exact ⟨b.subscribers, b.listeners, rfl⟩

theorem foldl_enrol_eq (ops : List SessionOp) (b : Session) :
    ∃ subscribers listeners, ops.foldl enrol b = { b with subscribers, listeners } := by
  induction ops generalizing b with
  | nil => exact ⟨b.subscribers, b.listeners, rfl⟩
  | cons op rest ih =>
    obtain ⟨_, _, hfirst⟩ := b.enrol_eq op
    obtain ⟨subscribers, listeners, hrest⟩ := ih (b.enrol op)
    refine ⟨subscribers, listeners, ?_⟩
    rw [List.foldl_cons, hrest, hfirst]

namespace IsDiscreet

theorem mannerOf (h : b.IsDiscreet) (id : String) : (b.mannerOf id).IsDiscreet := by
  unfold Session.mannerOf
  cases hfound : b.listeners.find? (·.1 = id) with
  | none => trivial
  | some entry => exact h entry (List.mem_of_find?_eq_some hfound)

theorem introduce (h : b.IsDiscreet) (id : String) {manner : Manner} (hm : manner.IsDiscreet) :
    (b.introduce id manner).IsDiscreet := by
  unfold Session.introduce
  split
  · exact h
  · refine List.forall_mem_append.2 ⟨h, ?_⟩
    exact List.forall_mem_singleton.2 hm

theorem enrol (h : b.IsDiscreet) {op : SessionOp} (hop : op.Enrols) : (b.enrol op).IsDiscreet := by
  cases op with
  | subscribe id manner => exact h.introduce id hop
  | unsubscribe id manner => exact h.introduce id hop
  | _ => cases hop

theorem foldl_enrol (h : b.IsDiscreet) {ops : List SessionOp} (hops : SessionOp.AllEnrol ops) :
    (ops.foldl Session.enrol b).IsDiscreet := by
  induction ops generalizing b with
  | nil => exact h
  | cons op rest ih => exact ih (h.enrol hops.1) hops.2

theorem retire (h : b.IsDiscreet) (id : String) : (b.retire id).IsDiscreet := by
  intro entry hentry
  obtain ⟨old, hold, rfl⟩ := List.mem_map.mp hentry
  split
  · trivial
  · exact h old hold

end IsDiscreet
end Session

/-! ## The session's own listeners -/

namespace Audience

/-- The listeners that a session knows, as far as they only listen, fail, or subscribe and
unsubscribe. -/
def own : Audience := fun c b id =>
  match b.mannerOf id with
  | .listen => ⟨b.subscribers, b.listeners, .ok ()⟩
  | .fail => ⟨b.subscribers, b.listeners, .error (.raised "boom")⟩
  | .act frame ops =>
    let isDue := frame.all fun due : Int => due = c.frame
    let left := if isDue then ops.foldl Session.enrol (b.retire id) else b
    ⟨left.subscribers, left.listeners, .ok ()⟩

variable {s t : SessionState}

/-- A listener that is discreet is called like one of any kind, and leaves the others discreet. -/
theorem call_own (notify : SessionAction Unit) (id : String) (h : s.body.IsDiscreet) :
    Session.call notify id s = own.call id s ∧ (own.call id s).2.body.IsDiscreet := by
  have hmanner := h.mannerOf id
  have hsame : (s.heardBy id).body.mannerOf id = s.body.mannerOf id := rfl
  rw [Session.call_eq, call_eq, own, hsame]
  cases hm : s.body.mannerOf id with
  | listen => exact ⟨rfl, h⟩
  | fail => exact ⟨rfl, h⟩
  | act frame ops =>
    rw [hm] at hmanner
    have hframe : (s.heardBy id).clock.frame = s.clock.frame := rfl
    dsimp only
    by_cases hdue : (frame.all fun due : Int => due = s.clock.frame) = true
    · let retired : SessionState :=
        { s.heardBy id with body := (s.heardBy id).body.retire id }
      have hheard : (s.heardBy id).body.IsDiscreet := h
      have hleft : retired.body.IsDiscreet := hheard.retire id
      obtain ⟨subscribers, listeners, hfold⟩ := Session.foldl_enrol_eq ops retired.body
      have hops := Session.performAll_enrol notify (s := retired) hmanner
      have hdiscreet := hleft.foldl_enrol hmanner
      rw [if_pos hdue, if_pos hdue]
      refine ⟨?_, hdiscreet⟩
      show Session.performAll notify ops retired = _
      rw [hops, hfold]
      rfl
    · rw [if_neg hdue, if_neg hdue]
      exact ⟨rfl, h⟩

open SessionState (Beside)
open LedStudio.Action (Agree)

theorem discreet_inStep : SessionState.InStep (Beside Session.IsDiscreet) :=
  Beside.inStep
    (fun {f b} hf hb => by
      intro entry hentry
      rw [hf.listeners] at hentry
      exact hb entry hentry)
    fun _ hb => hb

theorem serve_own (notify : SessionAction Unit) (ids : List String) :
    Agree (Beside Session.IsDiscreet) (Session.serve notify ids)
      (Session.serveBy own.call ids) := by
  rw [Session.serve_eq]
  induction ids with
  | nil => exact .pure ()
  | cons id rest ih =>
    rintro s _ ⟨hs, log, rfl⟩
    obtain ⟨hcall, hleft⟩ := call_own notify id hs
    obtain ⟨front, hfront, -⟩ := Session.afterCall_eq id (own.call id s)
    obtain ⟨back, hback, -⟩ := Session.afterCall_eq id (own.call id { s with log := log })
    rw [Session.serveBy_cons, Session.serveBy_cons, hcall, hfront, hback]
    exact ih _ _ ⟨hleft, _, rfl⟩

/-- **Discreet listeners are told like listeners of any kind.** -/
theorem notifyAll_own (fuel : Nat) :
    Agree (Beside Session.IsDiscreet) (Session.notifyAll fuel) own.tell := by
  have tell (next : SessionAction Unit) : Agree (Beside Session.IsDiscreet)
      (do Session.serve next (← Session.get).subscribers) own.tell := by
    rintro s _ ⟨hs, log, rfl⟩
    exact serve_own next s.body.subscribers s _ ⟨hs, log, rfl⟩
  cases fuel with
  | zero => exact tell (pure ())
  | succ fuel => exact tell (Session.notifyAll fuel)

theorem perform_own (fuel : Nat) {op : SessionOp} (hop : op.IsDiscreet) :
    Agree (Beside Session.IsDiscreet) (op.perform (Session.notifyAll fuel))
      (op.perform own.tell) := by
  refine discreet_inStep.perform_agree (notifyAll_own fuel) ?_ ?_ <;>
  · rintro id manner rfl s _ ⟨hs, log, rfl⟩
    exact ⟨rfl, hs.introduce id hop, log, rfl⟩

theorem step_own (h : Beside Session.IsDiscreet s t) {todo : SessionStep}
    (htodo : todo.IsDiscreet) :
    (s.step todo).1 = (own.step t todo).1 ∧
    Beside Session.IsDiscreet (s.step todo).2 (own.step t todo).2 := by
  cases todo with
  | op op =>
    obtain ⟨hout, hstate⟩ := perform_own (s.body.actors + op.actors) htodo s t h
    exact ⟨hout, discreet_inStep.timed.settle hstate⟩
  | elapse ms =>
    have hrender := discreet_inStep.render (notifyAll_own (s.body.actors + 0))
    exact ⟨rfl, discreet_inStep.timed.advance_agree hrender ms h⟩

theorem steps_own (h : Beside Session.IsDiscreet s t) {todo : List SessionStep}
    (htodo : ∀ step ∈ todo, step.IsDiscreet) :
    Beside Session.IsDiscreet (s.steps todo) (own.steps t todo) := by
  induction todo generalizing s t with
  | nil => exact h
  | cons first rest ih =>
    have hfirst := step_own h (htodo first List.mem_cons_self)
    exact ih hfirst.2 fun step hstep => htodo step (List.mem_cons_of_mem first hstep)

end Audience

open Deed (renderings)

/-- At each of its calls one listener subscribes another, takes a subscription back, and fails. -/
def unruly : Audience := fun _ b id =>
  if id = "broken" then
    ⟨b.subscribers.erase "view" ++ ["late"], b.listeners, .error (.raised "boom")⟩
  else ⟨b.subscribers, b.listeners, .ok ()⟩

/-- A listener is subscribed twice; the session steps twice and renders once more. -/
def watchedSteps : List SessionStep :=
  [.op (.subscribe "broken" .fail),
   .op (.subscribe "view" (.act none [.unsubscribe "view" .listen])),
   .op (.subscribe "view" .listen), .op .step, .op .step, .op .render]

theorem watchedSteps_isDiscreet : ∀ step ∈ watchedSteps, step.IsDiscreet := by
  simp only [watchedSteps, List.forall_mem_cons]
  exact ⟨trivial, ⟨trivial, trivial⟩, trivial, trivial, trivial, trivial,
    List.forall_mem_nil _⟩

end LedStudio
