import LedStudio.Proofs.Clock.Pace
import LedStudio.Proofs.Outcome

/-!
# What becomes of a clock

Whatever is done with a clock, it keeps its least interval and its event loop, and its speed stays
in range. So it is settled when a clock is made whether it will ever sleep: its cadences either all
do, or they all stall before their first tick.

* `Became.seconds` — what a clock has become can sleep just if the clock could.
* `Became.sleep` — then its cadences do.
* `resting_steps` — between two steps, nothing waits to be begun or reported.
-/

namespace LedStudio

/-- What may tick, if it is known whether the clock can sleep. -/
def Cadence.Suits (canSleep : Prop) : Cadence → Prop
  | .asleep .. | .ticking _ => canSleep
  | .stalled => ¬canSleep
  | .idle | .fresh => True

/-- No cadence waits to be begun, and no tick is being made. -/
def Cadence.IsQuiet : Cadence → Prop
  | .fresh | .ticking _ => False
  | .idle | .asleep .. | .stalled => True

namespace Clock

/-- The second clock may be what has become of the first one. -/
structure Became (c d : Clock) : Prop where
  least : d.minInterval = c.minInterval
  hasLoop : d.hasLoop = c.hasLoop
  range : 0 ≤ d.speed ∧ d.speed ≤ 100
  suits : d.cadence.Suits c.CanSleep

variable {c d : Clock}

theorem became_create {hasLoop : Bool} {speed least : Value}
    (h : create hasLoop speed least = .ok c) : c.Became c := by
  obtain ⟨_, -, -, hspeed, -, -, hidle⟩ := create_spec h
  exact ⟨rfl, rfl, clampSpeed_range hspeed, by rw [hidle]; trivial⟩

theorem create_cancelled {hasLoop : Bool} {speed least : Value}
    (h : create hasLoop speed least = .ok c) : c.cancelled = [] := by
  obtain ⟨n, -, h⟩ := Outcome.bind_eq_ok h
  obtain ⟨k, -, h⟩ := Outcome.bind_eq_ok h
  cases h
  rfl

namespace Became

/-- **A clock can sleep for one interval just if it can sleep for all of them**: a long interval is
the least one. -/
theorem seconds (h : c.Became d) : (∃ x, d.seconds = .ok x) ↔ c.CanSleep := by
  have hinterval : d.interval = max c.minInterval (100 - d.speed).toNat := by
    rw [interval, h.least]
  have hrange := h.range
  by_cases hlong : 100 ≤ c.minInterval
  · have heq : d.interval = c.minInterval := by omega
    simp only [Clock.seconds, heq, Clock.CanSleep]
  · have hshort : c.CanSleep := quotient_of_le_hundred (by omega)
    exact iff_of_true (quotient_of_le_hundred (by omega)) hshort

theorem sleep_eq (h : c.Became d) (hc : c.CanSleep) (ticks : Nat) :
    d.sleep ticks = { d with cadence := .asleep d.interval d.interval_pos ticks } := by
  obtain ⟨x, hx⟩ := h.seconds.mpr hc
  simp only [Clock.sleep, hx]

theorem sleep_stalled (h : c.Became d) (hc : ¬c.CanSleep) (ticks : Nat) :
    d.sleep ticks = { d with cadence := .stalled } := by
  unfold Clock.sleep
  cases hx : d.seconds with
  | ok x => exact absurd (h.seconds.mp ⟨x, hx⟩) hc
  | error f => rfl

theorem withCadence (h : c.Became d) {cadence : Cadence} (hc : cadence.Suits c.CanSleep) :
    c.Became { d with cadence := cadence } := ⟨h.least, h.hasLoop, h.range, hc⟩

theorem sleep (h : c.Became d) (ticks : Nat) : c.Became (d.sleep ticks) := by
  by_cases hc : c.CanSleep
  · rw [h.sleep_eq hc]
    exact h.withCadence hc
  · rw [h.sleep_stalled hc]
    exact h.withCadence hc

/-! ## What is done with a clock -/

theorem after (h : c.Became d) (op : ClockOp) : c.Became (d.after op) := by
  cases op with
  | start =>
    simp only [Clock.after]
    split
    · exact h
    · exact h.withCadence trivial
  | stop => exact ⟨h.least, h.hasLoop, h.range, trivial⟩
  | reset => exact ⟨h.least, h.hasLoop, h.range, trivial⟩
  | tick => exact ⟨h.least, h.hasLoop, h.range, h.suits⟩
  | setSpeed v =>
    simp only [Clock.after]
    cases hv : clampSpeed v with
    | error f => exact h
    | ok new =>
      have hrange := clampSpeed_range hv
      simp only
      split
      · exact h
      · split
        · exact ⟨h.least, h.hasLoop, hrange, trivial⟩
        · exact ⟨h.least, h.hasLoop, hrange, h.suits⟩

theorem resume (h : c.Became d) (ticks : Nat) : c.Became (d.resume ticks) := by
  unfold Clock.resume
  split
  · exact h.sleep _
  · exact h

theorem settled (h : c.Became d) : c.Became d.settled := by
  have hbegun : c.Became d.beginFresh := by
    unfold Clock.beginFresh
    split
    · exact h.sleep 0
    · exact h
  exact ⟨hbegun.least, hbegun.hasLoop, hbegun.range, hbegun.suits⟩

end Became

theorem sleep_isQuiet (c : Clock) (ticks : Nat) : (c.sleep ticks).cadence.IsQuiet := by
  unfold sleep
  cases c.seconds <;> trivial

/-- When the event loop has run, nothing waits to be begun. -/
theorem settled_isQuiet (h : ∀ k, c.cadence ≠ .ticking k) : c.settled.cadence.IsQuiet := by
  unfold settled beginFresh
  cases hc : c.cadence with
  | fresh => exact c.sleep_isQuiet 0
  | ticking k => exact absurd hc (h k)
  | _ =>
    rw [hc]
    trivial

/-- The event loop does nothing to a cadence at rest. -/
theorem settled_cadence (h : c.cadence.IsQuiet) : c.settled.cadence = c.cadence := by
  unfold settled beginFresh
  cases hc : c.cadence with
  | fresh | ticking =>
    rw [hc] at h
    exact h.elim
  | _ => exact hc

end Clock

namespace Instant

variable {c : Clock} {m n : Instant}

theorem became_calls (h : c.Became m.clock) (hcalls : Calls m n) : c.Became n.clock := by
  induction hcalls with
  | refl => exact h
  | tail _ hcall ih => cases hcall <;> exact ih.after _

theorem became_struck (h : c.Became m.clock) {left ticks : Nat} {pos : 0 < left}
    (hdue : m.clock.cadence = .asleep left pos ticks) : c.Became (m.struck left ticks).clock := by
  have hsuits := h.suits
  rw [hdue] at hsuits
  exact ⟨h.least, h.hasLoop, h.range, hsuits⟩

/-- The event loop has run: nothing waits to be begun or to be reported. -/
structure Resting (c : Clock) (m : Instant) : Prop where
  became : c.Became m.clock
  quiet : m.clock.cadence.IsQuiet
  reported : m.clock.cancelled = []

theorem resting_step (h : Resting c m) (hstep : Step m n) : Resting c n := by
  cases hstep with
  | operate hcalls =>
    refine ⟨(became_calls h.became hcalls).settled, Clock.settled_isQuiet fun k hk => ?_, rfl⟩
    have hquiet := h.quiet
    rw [ticking_of_calls hcalls hk] at hquiet
    exact hquiet
  | fire hdue hcalls =>
    exact ⟨((became_calls (became_struck h.became hdue) hcalls).resume _).settled,
      Clock.settled_isQuiet (Clock.resume_not_ticking _ _), rfl⟩
  | wait hlt hdue =>
    have hsuits := h.became.suits
    rw [hdue] at hsuits
    exact ⟨h.became.withCadence hsuits, trivial, h.reported⟩
  | idle ms hdue => exact ⟨h.became, h.quiet, h.reported⟩

theorem resting_create {hasLoop : Bool} {speed least : Value}
    (h : Clock.create hasLoop speed least = .ok c) (now : Nat) (past : Chronicle) :
    Resting c ⟨c, now, past⟩ where
  became := Clock.became_create h
  quiet := by
    obtain ⟨-, -, -, -, -, -, hidle⟩ := Clock.create_spec h
    rw [hidle]
    trivial
  reported := Clock.create_cancelled h

/-- **Between two steps a clock rests.** -/
theorem resting_steps (h : Resting c m) (hsteps : Steps m n) : Resting c n := by
  induction hsteps with
  | refl => exact h
  | tail _ hstep ih => exact resting_step ih hstep

end Instant
end LedStudio
