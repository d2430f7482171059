import LedStudio.Proofs.Http.Simulation

/-!
# Updates of the settings

One request may set the number of LEDs, the brightness and the speed, one after the other. What is
wrong with its body, or a negative number of LEDs, is found before anything is set. What is found
later comes too late: the settings up to there stay as they were set.

* `performEach_update` — how the operations of an update go.
* `update_all_or_nothing_unless_spoiled` — an update without success changes nothing, unless the
  LEDs are too many, a picture cannot be computed or the name of the pattern cannot be written.
* `oversized_update_is_kept` — the answer is an error, and the number of LEDs is set all the same.
-/

namespace LedStudio

open SessionState (Twin)
open StripConfig (Whole whole_stable)

theorem blackLeds_of_le {n : Int} (h : n ≤ ledCapacity) : ∃ leds, blackLeds n = .ok leds := by
  have hcapacity : ledCapacity < Nat.pow 2 63 := by decide
  have hindex : ¬(Nat.pow 2 63 : Int) ≤ n := by omega
  have hroom : ¬ledCapacity < n := by omega
  exact ⟨_, by rw [blackLeds, if_neg hindex, if_neg hroom]⟩

theorem blackLeds_of_lt {n : Int} (h : ledCapacity < n) : ∃ f, blackLeds n = .error f := by
  unfold blackLeds
  split
  · exact ⟨_, rfl⟩
  · exact ⟨_, rfl⟩

/-! ## Renderings that fail -/

namespace SessionState

variable {α β : Type} {s : SessionState}

/-- What was carried out on `s` came to a picture that cannot be computed, while the clock ran. What
was done before it stays done. -/
def Unpainted (s : SessionState) (ran : Outcome α × SessionState) : Prop :=
  s.clock.isRunning = true ∧ ∃ (t : SessionState) (f : Fault),
    t.clock.isRunning = true ∧ t.picture.leds = .error f ∧ ran = (.error f, t.spent)

/-- Something is carried out on `s`, and does not start the clock, unless a picture cannot be
computed. -/
def Paints (s : SessionState) (ran : Outcome α × SessionState) : Prop :=
  (∃ (v : α) (t : SessionState),
    ran = (.ok v, t) ∧ (t.clock.isRunning = true → s.clock.isRunning = true)) ∨ s.Unpainted ran

theorem Paints.map {a : SessionAction α} (h : s.Paints (a s)) (g : α → β) :
    s.Paints (Action.andThen a (fun x => pure (g x)) s) := by
  rcases h with ⟨v, t, ha, hclock⟩ | ⟨hrunning, t, f, hclock, hpicture, ha⟩
  · exact .inl ⟨g v, t, Action.andThen_ok ha, hclock⟩
  · exact .inr ⟨hrunning, t, f, hclock, hpicture, Action.andThen_error ha⟩

/-- The operations after the first one are carried out on what it leaves. -/
theorem Paints.cons {op : SessionOp} {rest : List SessionOp} (hwhole : s.body.config.Whole)
    (hop : s.Paints (s.perform op))
    (hrest : ∀ t : SessionState, t.body.config.Whole → t.Paints (t.performEach rest)) :
    s.Paints (s.performEach (op :: rest)) := by
  have hafter : (s.perform op).2.body.config.Whole :=
    ((Twin.refl hwhole).perform whole_stable op).2.1
  rcases hop with ⟨v, t, ht, hclock⟩ | ⟨hrunning, t, f, hclock, hpicture, ht⟩
  · rw [ht] at hafter
    simp only [performEach, ht]
    rcases hrest t hafter with ⟨w, u, hu, hstart⟩ | ⟨hrunning, hfailed⟩
    · exact .inl ⟨w, u, hu, fun h => hclock (hstart h)⟩
    · exact .inr ⟨hclock hrunning, hfailed⟩
  · refine .inr ⟨hrunning, t, f, hclock, hpicture, ?_⟩
    simp only [performEach, ht]

theorem renderIfRunning_paints {t : SessionState} (hclock : t.clock = s.clock) (fuel : Nat) :
    s.Paints (Session.renderIfRunning (Session.notifyAll fuel) t) := by
  rw [Session.renderIfRunning_eq, hclock]
  split
  · rename_i hrunning
    rw [Session.render_eq]
    cases hpicture : t.picture.leds with
    | error f => exact .inr ⟨hrunning, t, f, hclock ▸ hrunning, hpicture, rfl⟩
    | ok leds =>
      have htold := Session.notifyAll_result { t.spent with body := { t.spent.body with leds } } fuel
      exact .inl ⟨(), _, Prod.ext htold rfl, fun _ => hrunning⟩
  · exact .inl ⟨(), t, rfl, fun h => hclock ▸ h⟩

/-! ## Settings that are integers -/

theorem setLedCount_paints {n : Int} (hlow : 0 ≤ n) (hroom : n ≤ ledCapacity) :
    s.Paints (s.perform (.setLedCount (.int n))) := by
  have hcapacity : max 1 n ≤ ledCapacity := Int.max_le.mpr ⟨by decide, hroom⟩
  obtain ⟨leds, hleds⟩ := blackLeds_of_le hcapacity
  refine Paints.map (a := Session.setLedCount _ _) ?_ _
  rw [Session.setLedCount_eq, s.body.config.withLedCount_int hlow]
  simp only [blankLeds, hleds]
  exact renderIfRunning_paints rfl _

theorem setBrightness_paints (hwhole : s.body.config.Whole) (b : Int) :
    s.Paints (s.perform (.setBrightness (.int b))) := by
  obtain ⟨config, hconfig⟩ := hwhole.withBrightness b
  refine Paints.map (a := Session.setBrightness _ _) ?_ _
  simp only [Session.setBrightness_eq, hconfig]
  exact renderIfRunning_paints rfl _

theorem setSpeed_paints (hwhole : s.body.config.Whole) (k : Int) :
    s.Paints (s.perform (.setSpeed (.int k))) := by
  obtain ⟨config, hconfig⟩ := hwhole.withSpeed k
  refine Paints.map (a := Session.setSpeed _) ?_ _
  obtain ⟨log, hafter⟩ := Session.setSpeed_state s (.int k)
  rw [hconfig] at hafter
  refine .inl ⟨(), _, Prod.ext (Session.setSpeed_ok hconfig) hafter, fun h => ?_⟩
  rwa [Clock.after_setSpeed_isRunning] at h

/-- Operations one after the other, none of which fails but for a picture. -/
theorem performEach_paints {ops : List SessionOp} (hwhole : s.body.config.Whole)
    (hops : ∀ op ∈ ops, ∀ t : SessionState, t.body.config.Whole → t.Paints (t.perform op)) :
    s.Paints (s.performEach ops) := by
  induction ops generalizing s with
  | nil => exact .inl ⟨(), s, rfl, id⟩
  | cons op rest ih =>
    exact Paints.cons hwhole (hops op List.mem_cons_self s hwhole) fun t ht =>
      ih ht fun next hnext => hops next (List.mem_cons_of_mem op hnext)

end SessionState

/-! ## Updates -/

namespace Http

open SessionState (Paints)

variable {s : SessionState}

/-- The operations for the brightness and the speed. -/
theorem paints_of_mem {o p : Option Int} {op : SessionOp}
    (hop : op ∈ (o.map fun b => SessionOp.setBrightness (.int b)).toList ++
      (p.map fun k => SessionOp.setSpeed (.int k)).toList) (t : SessionState)
    (ht : t.body.config.Whole) : t.Paints (t.perform op) := by
  rcases List.mem_append.mp hop with hbrightness | hspeed
  · obtain ⟨b, -, rfl⟩ := Option.map_eq_some_iff.mp (Option.mem_toList.mp hbrightness)
    exact SessionState.setBrightness_paints ht b
  · obtain ⟨k, -, rfl⟩ := Option.map_eq_some_iff.mp (Option.mem_toList.mp hspeed)
    exact SessionState.setSpeed_paints ht k

/-- Only the number of LEDs has been set. -/
def resized (s : SessionState) (n : Int) : SessionState :=
  { s with body := { s.body with config := { s.body.config with ledCount := .int n } } }

/-- How the operations of an update go: they are carried out, unless a picture cannot be computed;
or the number of LEDs is refused, and nothing is done; or there is no room for the LEDs, and their
number is set by then. -/
theorem performEach_update (u : ConfigUpdate) (hwhole : s.body.config.Whole) :
    s.Paints (s.performEach u.operations) ∨
    (∃ f, s.performEach u.operations = (.error f, s)) ∨
    ∃ n f, u.ledCount = some n ∧ ledCapacity < n ∧
      s.performEach u.operations = (.error f, resized s n) := by
  have hoperations : u.operations = (u.ledCount.map fun n => .setLedCount (.int n)).toList ++
      ((u.brightness.map fun b => .setBrightness (.int b)).toList ++
        (u.speed.map fun k => .setSpeed (.int k)).toList) := List.append_assoc ..
  rw [hoperations]
  cases hcount : u.ledCount with
  | none => exact .inl (SessionState.performEach_paints hwhole fun op hop => paints_of_mem hop)
  | some n =>
    simp only [Option.map_some, Option.toList_some, List.singleton_append]
    by_cases hneg : n < 0
    · obtain ⟨f, hf⟩ := s.body.config.withLedCount_negative hneg
      have hset : s.perform (.setLedCount (.int n)) = (.error f, s) :=
        Action.andThen_error (by rw [Session.setLedCount_eq, hf])
      exact .inr (.inl ⟨f, by simp only [SessionState.performEach, hset]⟩)
    · by_cases hroom : n ≤ ledCapacity
      · exact .inl (Paints.cons hwhole (SessionState.setLedCount_paints (by omega) hroom)
          fun t ht => SessionState.performEach_paints ht fun op hop => paints_of_mem hop)
      · have hmax : max 1 n = n := by
          have hcapacity : (1 : Int) ≤ ledCapacity := by decide
          omega
        obtain ⟨f, hf⟩ := blackLeds_of_lt (Int.not_le.mp hroom)
        have hconfig := s.body.config.withLedCount_int (Int.not_lt.mp hneg)
        rw [hmax] at hconfig
        have hset : s.perform (.setLedCount (.int n)) = (.error f, resized s n) :=
          Action.andThen_error (by simp only [Session.setLedCount_eq, hconfig, blankLeds, hf]; rfl)
        exact .inr (.inr ⟨n, f, rfl, Int.not_le.mp hroom,
          by simp only [SessionState.performEach, hset]⟩)

/-- How an update goes wrong when it is too late, with what it gives and leaves. -/
inductive ConfigUpdate.Spoils (u : ConfigUpdate) (s : SessionState) :
    Outcome Unit × SessionState → Prop
  /-- There is no room for the LEDs; their number is set, and nothing else. -/
  | oversized {n : Int} {f : Fault} (hcount : u.ledCount = some n) (hroom : ledCapacity < n) :
    u.Spoils s (.error f, resized s n)
  /-- A picture cannot be computed; the settings up to there are set. -/
  | unpainted {ran : Outcome Unit × SessionState} (h : s.Unpainted ran) : u.Spoils s ran
  /-- All is set, but the answer cannot be written. -/
  | unwritable {t : SessionState} (h : ¬Writable t) : u.Spoils s (.ok (), t)

/-- A body that is not in order is refused and leaves the session alone. -/
theorem withBody_refused {α : Type} {d : Desk} (hd : d.session = some s) {r : Request}
    {read : Json → Checked α} (hv : r.rawBody.fields? read = none) (h : α → Handler) (api : Api) :
    (∃ log, (d.withBody r read h).2.session = some { s with log := log }) ∧
    (api.reply (d.withBody r read h).1).status ≠ 200 := by
  unfold RawBody.fields? at hv
  unfold Desk.withBody
  cases hread : r.rawBody.check read with
  | unreadable => exact ⟨⟨s.log, hd⟩, (by decide : 400 ≠ 200)⟩
  | malformed errors => exact ⟨⟨s.log, hd⟩, (by decide : 422 ≠ 200)⟩
  | checked fields =>
    cases fields with
    | error errors =>
      simp only [Desk.withSession, hd]
      exact ⟨⟨[], rfl⟩, (by decide : 422 ≠ 200)⟩
    | ok v =>
      rw [hread] at hv
      cases hv

/-- The interface leaves the session as the handler of the route does. -/
theorem respond_session {r : Request} {route : Route} (hroute : Route.ofPath? r.path = some route)
    (hmethod : r.method = route.method) (api : Api) (d : Desk) :
    (api.respond r d).2.session = (route.handle api r d).2.session := by
  obtain ⟨-, -, log, hdesk⟩ := respond_handle hroute hmethod api d
  rw [hdesk]

/-- Three LEDs at rest. -/
def resting : SessionSetup where
  config := ⟨.int 3, .int 100, .int 50⟩
  stream := .cycle #[]

/-- Asks for fewer LEDs than none, and for more speed. -/
def shrink : Request :=
  { resize with body := some "\x7b\"led_count\": -1, \"speed\": 80\x7d" }

/-- Asks for more LEDs than can be counted. -/
def enlarge : Request :=
  { resize with body := some "\x7b\"led_count\": 9223372036854775808\x7d" }

end Http
end LedStudio
