import LedStudio.Proofs.Clock.Ending
import LedStudio.Proofs.Clock.Report

/-!
# Whose ticks they are

A clock keeps the ticks of the cadence that it has, and of those cancelled since the event loop last
ran. A `Roster` keeps them all, as a reader of a run would: a start and a change of speed create a
tick task, a stop, a rewinding and a change of speed cancel the one there is, and a tick that falls
due is made by the one there is then. From these the log can be told: it has one report for each
task that was cancelled once it slept, and in it the ticks that were made by the task.

* `calls_stand`, `Stands.settled` — what the clock has is what the roster says.
* `Roster.along_quiet` — in the course of a round, one task at most is cancelled that has slept.
* `ticks_are_accounted` — the reports, the task that is not cancelled and the ticks that fell due.
-/

namespace LedStudio

/-- What sleeps and ticks from a start, or from a change of speed, until it is cancelled. -/
structure TickTask where
  /-- It went to sleep at least once. -/
  slept : Bool := false
  ticks : Nat := 0
  deriving DecidableEq, Repr

/-- What is to be reported of cancelled tasks: the ticks of each one that slept. -/
def TickTask.reports (tasks : List TickTask) : List Nat := (tasks.filter (·.slept)).map (·.ticks)

theorem TickTask.reports_append (first rest : List TickTask) :
    reports (first ++ rest) = reports first ++ reports rest := by
  rw [reports, List.filter_append, List.map_append]
  rfl

/-- The task of a cadence; the tick in progress is one that it has made. -/
def Cadence.task? : Cadence → Option TickTask
  | .idle => none
  | .fresh | .stalled => some {}
  | .asleep _ _ ticks => some { slept := true, ticks }
  | .ticking ticks => some { slept := true, ticks := ticks + 1 }

namespace Cadence

variable (cadence : Cadence)

theorem report_eq : cadence.report = TickTask.reports cadence.task?.toList := by
  cases cadence <;> rfl

/-- A task that has not slept has not ticked either. -/
theorem sum_report : cadence.report.sum = cadence.task?.elim 0 (·.ticks) := by
  cases cadence <;> simp [report, task?]

theorem task?_isSome : cadence.task?.isSome = (cadence != .idle) := by
  cases cadence <;> rfl

end Cadence

/-- The tick tasks of a run: the one that is not cancelled, if any, and the others in order. -/
structure Roster where
  speed : Int
  current : Option TickTask := none
  cancelled : List TickTask := []
  deriving DecidableEq, Repr

namespace Roster

def engage (b : Roster) : Roster := { b with current := some {} }

def dismiss (b : Roster) : Roster :=
  { b with current := none, cancelled := b.cancelled ++ b.current.toList }

/-- What an event makes of the tasks, with or without an event loop to run them. -/
def on (hasLoop : Bool) (b : Roster) : ClockEvent → Roster
  | .called .start => if b.current.isSome || !hasLoop then b else b.engage
  | .called .stop | .called .reset => b.dismiss
  | .called (.setSpeed v) =>
    match clampSpeed v with
    | .error _ => b
    | .ok new =>
      if new = b.speed then b
      else if b.current.isSome then { b.dismiss.engage with speed := new }
      else { b with speed := new }
  | .called .tick | .shown _ => b
  | .fired => { b with current := b.current.map fun t => { t with ticks := t.ticks + 1 } }

/-- What some entries make of the tasks, the latest being first. -/
def along (hasLoop : Bool) (b : Roster) (entries : Chronicle) : Roster :=
  entries.foldr (fun entry b => b.on hasLoop entry.2) b

/-- The event loop runs: the task goes to sleep, if the interval can be slept for. -/
def rest (canSleep : Bool) (b : Roster) : Roster :=
  { b with current := b.current.map fun t => { t with slept := t.slept || canSleep } }

/-- What a round of a clock makes of the tasks. Whether an interval can be slept for is the same for
all intervals of the clock (`Clock.Became.seconds`). -/
def after {α : Type} (c : Clock) (b : Roster) (round : Round α) : Roster :=
  (b.along c.hasLoop round.entries).rest (Double.quotient c.minInterval 1000).isOk

/-- The tasks of a clock after some rounds. -/
def of {α : Type} (c : Clock) (rounds : List (Round α)) : Roster :=
  rounds.foldl (after c) { speed := c.speed }

/-- The ticks that cancelled tasks are to be reported with. -/
def reports (b : Roster) : List Nat := TickTask.reports b.cancelled

/-- The ticks made by the task that is not cancelled. -/
def pending (b : Roster) : Nat := b.current.elim 0 (·.ticks)

theorem reports_dismiss (b : Roster) :
    b.dismiss.reports = b.reports ++ TickTask.reports b.current.toList :=
  TickTask.reports_append _ _

theorem of_concat {α : Type} (c : Clock) (rounds : List (Round α)) (last : Round α) :
    of c (rounds ++ [last]) = (of c rounds).after c last := by
  rw [of, of, List.foldl_concat]

/-! ## In the course of a round -/

/-- From one roster to another, the task there was is still there, or it has been cancelled and no
task has slept since. -/
def Quiet (b d : Roster) : Prop :=
  d.current = b.current ∧ d.reports = b.reports ∨
  d.reports = b.reports ++ TickTask.reports b.current.toList ∧
    TickTask.reports d.current.toList = []

theorem Quiet.dismiss {b d : Roster} (h : b.Quiet d) :
    d.dismiss.reports = b.reports ++ TickTask.reports b.current.toList := by
  rw [reports_dismiss]
  rcases h with ⟨hcurrent, hreports⟩ | ⟨hreports, hnew⟩
  · rw [hcurrent, hreports]
  · rw [hnew, hreports, List.append_nil]

theorem Quiet.engage {b d : Roster} (h : b.Quiet d) (hnone : d.current = none) :
    b.Quiet d.engage := by
  refine .inr ⟨?_, rfl⟩
  have hdismissed := h.dismiss
  rw [reports_dismiss, hnone] at hdismissed
  exact (List.append_nil _).symm.trans hdismissed

theorem Quiet.on {b d : Roster} (h : b.Quiet d) (hasLoop : Bool) {e : ClockEvent}
    (he : e ≠ .fired) : b.Quiet (d.on hasLoop e) := by
  cases e with
  | fired => exact absurd rfl he
  | shown frame => exact h
  | called op =>
    cases op with
    | tick => exact h
    | stop => exact .inr ⟨h.dismiss, rfl⟩
    | reset => exact .inr ⟨h.dismiss, rfl⟩
    | start =>
      simp only [Roster.on]
      split
      · exact h
      · rename_i hstart
        refine h.engage ?_
        simp only [Bool.or_eq_true, not_or, Bool.not_eq_true, Option.isSome_eq_false_iff,
          Option.isNone_iff_eq_none] at hstart
        exact hstart.1
    | setSpeed v =>
      simp only [Roster.on]
      split
      · exact h
      · split
        · exact h
        · split
          · exact .inr ⟨h.dismiss, rfl⟩
          · exact h

/-- **In the course of a round**, one task at most is cancelled that has slept. -/
theorem along_quiet (hasLoop : Bool) (b : Roster) {entries : Chronicle}
    (h : Chronicle.fires entries = []) : b.Quiet (b.along hasLoop entries) := by
  induction entries with
  | nil => exact .inl ⟨rfl, rfl⟩
  | cons entry entries ih =>
    obtain ⟨hentry, hentries⟩ := Chronicle.fires_cons_eq_nil h
    exact (ih hentries).on hasLoop hentry

/-- If a tick falls due in the round, it is made by the task there is, which slept. It counts for that
task: the task is still there with one more tick, or one more tick is reported of it. -/
def Counts {α : Type} (c : Clock) (b : Roster) (round : Round α) : Prop :=
  Chronicle.fires round.entries ≠ [] → ∃ ticks, b.current = some ⟨true, ticks⟩ ∧
    ((b.after c round).current = some ⟨true, ticks + 1⟩ ∧
        (b.after c round).reports = b.reports ∨
      (b.after c round).reports = b.reports ++ [ticks + 1])

theorem counts_quiet {α : Type} (c : Clock) (b : Roster) {round : Round α}
    (h : Chronicle.fires round.entries = []) : b.Counts c round := fun hfires => absurd h hfires

/-- **A tick counts for the task that makes it**, whatever is cancelled and created in the course of
it. -/
theorem counts_fired {α : Type} (c : Clock) (b : Roster) {ticks : Nat}
    (hcurrent : b.current = some ⟨true, ticks⟩) {round : Round α} {new : Chronicle}
    {time frame : Nat} (hentries : round.entries = new ++ [(time, .shown frame), (time, .fired)])
    (hnew : Chronicle.fires new = []) : b.Counts c round := by
  intro _
  refine ⟨ticks, hcurrent, ?_⟩
  have halong : b.along c.hasLoop round.entries = (b.on c.hasLoop .fired).along c.hasLoop new := by
    rw [hentries, along, List.foldr_append]
    rfl
  have hfired : (b.on c.hasLoop .fired).current = some ⟨true, ticks + 1⟩ := by
    simp only [on, hcurrent]
    rfl
  rcases along_quiet c.hasLoop (b.on c.hasLoop .fired) hnew with ⟨hkept, hreports⟩ | ⟨hreports, -⟩
  · refine .inl ⟨?_, ?_⟩
    · simp only [after, rest, halong, hkept, hfired]
      rfl
    · rw [after, halong]
      exact hreports
  · refine .inr ?_
    rw [hfired] at hreports
    rw [after, halong]
    exact hreports

end Roster

/-! ## The clock has what the roster says -/

theorem Clock.isOk_eq_false {c : Clock} (h : ¬c.CanSleep) :
    (Double.quotient c.minInterval 1000).isOk = false := by
  cases hx : Double.quotient c.minInterval 1000 with
  | ok x => exact absurd ⟨x, hx⟩ h
  | error f => rfl

/-- When the event loop has run, the task has gone to sleep, if it can. -/
theorem Clock.Became.settled_task? {c d : Clock} (h : c.Became d) :
    d.settled.cadence.task? = d.cadence.task?.map fun t =>
      { t with slept := t.slept || (Double.quotient c.minInterval 1000).isOk } := by
  have hsuits := h.suits
  simp only [Clock.settled, Clock.beginFresh]
  cases hd : d.cadence with
  | idle | asleep | ticking =>
    simp only [hd]
    rfl
  | fresh =>
    by_cases hsleep : c.CanSleep
    · obtain ⟨x, hx⟩ := hsleep
      simp only [h.sleep_eq ⟨x, hx⟩, hx]
      rfl
    · simp only [h.sleep_stalled hsleep, Clock.isOk_eq_false hsleep]
      rfl
  | stalled =>
    rw [hd] at hsuits
    simp only [hd, Clock.isOk_eq_false hsuits]
    rfl

/-- A clock that has what the roster says, where the ticks in `said` are already reported and some
ticks have fallen due. -/
structure Clock.Stands (said : List Nat) (fired : Nat) (b : Roster) (c : Clock) : Prop where
  speed : b.speed = c.speed
  current : b.current = c.cadence.task?
  reports : b.reports = said ++ c.cancelled
  total : b.reports.sum + b.pending = fired

namespace Clock.Stands

variable {said : List Nat} {fired : Nat} {b : Roster} {c d : Clock}

theorem isSome (h : d.Stands said fired b) : b.current.isSome = d.isRunning := by
  rw [h.current, Cadence.task?_isSome]
  rfl

theorem cancel (h : d.Stands said fired b) : d.cancel.Stands said fired b.dismiss where
  speed := h.speed
  current := rfl
  reports := by
    rw [b.reports_dismiss, h.reports, h.current, ← Cadence.report_eq, List.append_assoc]
    rfl
  total := by
    have htotal := h.total
    rw [Roster.pending, h.current, ← Cadence.sum_report] at htotal
    rw [b.reports_dismiss, h.current, ← Cadence.report_eq, List.sum_append]
    exact htotal

/-- Where the cadence counts as many ticks as the task has made, which cadence it is does not
matter. -/
theorem withCadence (h : d.Stands said fired b) {cadence : Cadence}
    (htask : cadence.task? = d.cadence.task?) :
    ({ d with cadence := cadence } : Clock).Stands said fired b where
  speed := h.speed
  current := h.current.trans htask.symm
  reports := h.reports
  total := h.total

theorem engage (h : d.Stands said fired b) (hnone : b.current = none) :
    ({ d with cadence := .fresh } : Clock).Stands said fired b.engage where
  speed := h.speed
  current := rfl
  reports := h.reports
  total := by
    have htotal := h.total
    rw [Roster.pending, hnone] at htotal
    exact htotal

theorem withSpeed (h : d.Stands said fired b) (new : Int) :
    ({ d with speed := new } : Clock).Stands said fired { b with speed := new } where
  speed := rfl
  current := h.current
  reports := h.reports
  total := h.total

/-- **What an operation does to the clock, its call does to the roster.** -/
theorem after (h : d.Stands said fired b) (op : ClockOp) :
    (d.after op).Stands said fired (b.on d.hasLoop (.called op)) := by
  cases op with
  | start =>
    simp only [Clock.after, Roster.on, h.isSome]
    split
    · exact h
    · rename_i hstart
      refine h.engage ?_
      rw [← Option.isNone_iff_eq_none, ← Option.isSome_eq_false_iff, h.isSome]
      simp only [Bool.or_eq_true, not_or, Bool.not_eq_true] at hstart
      exact hstart.1
  | stop => exact h.cancel
  | reset => exact ⟨h.cancel.speed, h.cancel.current, h.cancel.reports, h.cancel.total⟩
  | tick => exact ⟨h.speed, h.current, h.reports, h.total⟩
  | setSpeed v =>
    simp only [Clock.after, Roster.on, h.isSome, h.speed]
    cases clampSpeed v with
    | error f => exact h
    | ok new =>
      simp only
      split
      · exact h
      · split
        · exact (h.cancel.engage rfl).withSpeed new
        · exact h.withSpeed new

theorem resume (h : d.Stands said fired b) (hc : c.Became d) {ticks : Nat}
    (hticks : ∀ k, d.cadence = .ticking k → k = ticks) :
    (d.resume ticks).Stands said fired b := by
  unfold Clock.resume
  split
  · rename_i k hk
    have hsuits := hc.suits
    rw [hk] at hsuits
    rw [hc.sleep_eq hsuits]
    refine h.withCadence ?_
    rw [hk, hticks k hk]
    rfl
  · exact h

/-- **What the event loop does to the clock, its rest does to the roster.** -/
theorem settled (h : d.Stands said fired b) (hc : c.Became d) :
    d.settled.Stands (said ++ d.cancelled) fired
      (b.rest (Double.quotient c.minInterval 1000).isOk) where
  speed := h.speed.trans d.alike_settled.speed.symm
  current := by
    rw [hc.settled_task?, ← h.current]
    rfl
  reports := h.reports.trans (List.append_nil _).symm
  total := by
    have hpending : (b.rest (Double.quotient c.minInterval 1000).isOk).pending = b.pending := by
      simp only [Roster.rest, Roster.pending]
      cases b.current <;> rfl
    rw [hpending]
    exact h.total

end Clock.Stands

namespace Instant

variable {said : List Nat} {b : Roster} {c : Clock} {m n : Instant}

/-- A tick that falls due is made by the task there is. -/
theorem struck_stands (h : m.clock.Stands said (Chronicle.fires m.past).length b)
    {left : Nat} {pos : 0 < left} {ticks : Nat} (hdue : m.clock.cadence = .asleep left pos ticks) :
    (m.struck left ticks).clock.Stands said (Chronicle.fires (m.struck left ticks).past).length
      (b.on c.hasLoop .fired) := by
  have hcurrent : b.current = some ⟨true, ticks⟩ := by
    rw [h.current, hdue]
    rfl
  have htotal := h.total
  rw [Roster.pending, hcurrent] at htotal
  refine ⟨h.speed, ?_, h.reports, ?_⟩
  · simp only [Roster.on, hcurrent]
    rfl
  · simp only [Roster.on, Roster.pending, hcurrent, struck, Chronicle.fires, List.length_append,
      List.length_singleton, ← htotal]
    rfl

/-- **What happens in the course of a round happens to the roster.** -/
theorem calls_stand (hc : c.Became m.clock)
    (h : m.clock.Stands said (Chronicle.fires m.past).length b) (hcalls : Calls m n) :
    ∃ new : Chronicle, n.past = new ++ m.past ∧ Chronicle.fires new = [] ∧
      n.clock.Stands said (Chronicle.fires n.past).length (b.along c.hasLoop new) := by
  induction hcalls with
  | refl => exact ⟨[], rfl, rfl, h⟩
  | tail hcalls hcall ih =>
    obtain ⟨new, hpast, hfires, hn⟩ := ih
    have hloop := (became_calls hc hcalls).hasLoop
    cases hcall with
    | quiet op _ =>
      refine ⟨(_, .called op) :: new, by rw [hpast]; rfl, hfires, ?_⟩
      have hafter := hn.after op
      rw [hloop] at hafter
      exact hafter
    | shows op _ =>
      refine ⟨(_, .shown _) :: (_, .called op) :: new, by rw [hpast]; rfl, hfires, ?_⟩
      have hafter := hn.after op
      rw [hloop] at hafter
      exact hafter

end Instant

/-! ## Of a run -/

namespace Chronicle

/-- The frames that were shown for ticks that fell due, in order. -/
def timed : Chronicle → List Nat
  | [] => []
  | (_, .shown frame) :: (_, .fired) :: past => timed past ++ [frame]
  | _ :: past => timed past

/-- Each tick that falls due shows one frame. -/
theorem Regular.length_timed {past : Chronicle} (h : Regular past) :
    (timed past).length = (fires past).length := by
  induction h with
  | nil => rfl
  | quiet _ _ _ ih => simpa only [timed, fires] using ih
  | tick _ _ ih => simpa only [timed, fires] using ih
  | fired _ _ ih => rw [timed, fires, fires, List.length_append, List.length_append, ih]; rfl
  | reset _ _ ih => simpa only [timed, fires] using ih

end Chronicle

namespace Diary

open Scripted (course)

variable {α : Type} {c : Clock}

/-- The log and the clock tell what becomes of the tasks in some rounds. -/
structure Accounted (c : Clock) (done : List (Round α)) (s : Timed (Diary α)) : Prop where
  resting : (instant s).Resting c
  stands : s.clock.Stands (Log.tickReports s.log) (Chronicle.fires s.body.past).length
    (Roster.of c done)
  counted : ∀ before round, before ++ [round] <+: done → (Roster.of c before).Counts c round

theorem Accounted.concat {done : List (Round α)} {s : Timed (Diary α)} (h : Accounted c done s)
    {last : Round α} (hlast : (Roster.of c done).Counts c last) (before : List (Round α))
    (round : Round α) (hinitial : before ++ [round] <+: done ++ [last]) :
    (Roster.of c before).Counts c round := by
  rcases List.prefix_concat_iff.mp hinitial with heq | hearlier
  · obtain ⟨rfl, hround⟩ := List.append_inj' heq rfl
    cases hround
    exact hlast
  · exact h.counted before round hearlier

theorem accounted_operation {r : Reaction α} (hr : r.LeavesReports) {done : List (Round α)}
    {s : Timed (Diary α)} (op : ClockOp) (h : Accounted c done s) :
    Accounted c (done ++ [since s (step r s (.op op))]) (step r s (.op op)) := by
  have hcalls := perform_calls (callback_calling r) op s
  obtain ⟨new, hpast, hfires, hstands⟩ := Instant.calls_stand h.resting.became h.stands hcalls
  have hentries : (since s (step r s (.op op))).entries = new := since_entries hpast
  refine ⟨Instant.resting_step h.resting (.operate hcalls), ?_, h.concat ?_⟩
  · rw [operation_reports hr, Roster.of_concat, Roster.after, hentries]
    exact hstands.settled (Instant.became_calls h.resting.became hcalls)
  · rw [← hentries] at hfires
    exact Roster.counts_quiet _ _ hfires

theorem accounted_tick {r : Reaction α} (hr : r.LeavesReports) {done : List (Round α)}
    {s : Timed (Diary α)} {left : Nat} {pos : 0 < left} {ticks : Nat}
    (hdue : s.clock.cadence = .asleep left pos ticks) (h : Accounted c done s) :
    Accounted c (done ++ [since s (ticked r left ticks s)]) (ticked r left ticks s) := by
  have hcalls := returned_calls r left ticks s
  have hstruck := Instant.struck_stands (c := c) (m := instant s) h.stands hdue
  have hbecame := Instant.became_struck (m := instant s) h.resting.became hdue
  obtain ⟨new, hpast, hfires, hstands⟩ := Instant.calls_stand hbecame hstruck hcalls
  have hentries : (since s (ticked r left ticks s)).entries =
      new ++ [(s.body.now + left, .shown (s.clock.frame + 1)), (s.body.now + left, .fired)] := by
    refine since_entries ?_
    rw [ticked_eq, List.append_assoc]
    exact hpast
  have hreturned := Instant.became_calls hbecame hcalls
  have hresumed := hstands.resume hreturned fun k hk => by
    have hticking := ticking_of_calls hcalls hk
    cases hticking
    rfl
  have hcurrent : (Roster.of c done).current = some ⟨true, ticks⟩ := by
    rw [h.stands.current, hdue]
    rfl
  refine ⟨?_, ?_, h.concat (Roster.counts_fired c _ hcurrent hentries hfires)⟩
  · rw [ticked_eq]
    exact Instant.resting_step h.resting (.fire hdue hcalls)
  · rw [ticked_reports hr, Roster.of_concat, Roster.after, hentries, Roster.along,
      List.foldr_append, ticked_eq]
    exact hresumed.settled (hreturned.resume ticks)

theorem accounted_lasting {r : Reaction α} (hr : r.LeavesReports) (c : Clock) :
    Lasting r (Accounted c) where
  operation op h := accounted_operation hr op h
  tick hdue h := accounted_tick hr hdue h
  wait hlt hdue h := by
    refine ⟨Instant.resting_step h.resting (.wait hlt hdue), h.stands.withCadence ?_, h.counted⟩
    rw [hdue]
    rfl
  idle ms hdue h := ⟨Instant.resting_step h.resting (.idle ms hdue), h.stands, h.counted⟩

theorem accounted_start {hasLoop : Bool} {speed least : Value}
    (hc : Clock.create hasLoop speed least = .ok c) (body : α) :
    Accounted c ([] : List (Round α)) (start c body) := by
  obtain ⟨-, -, -, -, -, -, hidle⟩ := Clock.create_spec hc
  refine ⟨Instant.resting_create hc 0 [], ⟨rfl, ?_, (Clock.create_cancelled hc).symm, rfl⟩, ?_⟩
  · show none = c.cadence.task?
    rw [hidle]
    rfl
  · intro before round hinitial
    exact absurd (List.prefix_nil.mp hinitial) (List.append_ne_nil_of_right_ne_nil _ nofun)

/-- **Each tick is accounted for.** Take any clock, with or without an event loop, any callback that
leaves the reports in the log alone, whatever it does with the clock, and any steps; let everything be
printed from the level of debugging up. There is one report for each task that was cancelled once it
slept, with the ticks that the task has made, and none for the others. The task that the roster has
left is the one of the clock. Its ticks and the reported ones are, taken together, as many as the
frames that were shown for ticks that fell due: each such tick counts for the one task that makes it,
even if this is cancelled in the course of the tick. -/
theorem ticks_are_accounted {r : Reaction α} (hr : r.LeavesReports) (body : α) {hasLoop : Bool}
    {speed least : Value} {c : Clock} (hc : Clock.create hasLoop speed least = .ok c)
    (todo : List Scripted.Step) (colors : Bool) :
    let s := steps r (start c body) todo
    let done := rounds r (start c body) todo
    let tasks := Roster.of c done
    let reports := Log.tickReports (Logger.shown ⟨.debug, colors⟩ s.log)
    forget s = Timed.steps r.run ⟨c, [], body⟩ todo ∧
    s.body.past = Chronicle.through done [] ∧
    reports = (tasks.cancelled.filter (·.slept)).map (·.ticks) ∧
    tasks.current = s.clock.cadence.task? ∧
    reports.sum + tasks.pending = (Chronicle.timed s.body.past).length ∧
    ∀ before round, before ++ [round] <+: done → (Roster.of c before).Counts c round := by
  intro s done tasks reports
  obtain ⟨-, hregular, -⟩ := frames_in_order r body hc todo
  have h : Accounted c done s := (accounted_lasting hr c).steps todo (accounted_start hc body)
  have hreports : reports = tasks.reports := by
    have hreported : s.clock.cancelled = [] := h.resting.reported
    show Log.tickReports (Logger.shown ⟨.debug, colors⟩ s.log) = _
    rw [Logger.shown_debug, h.stands.reports, hreported, List.append_nil]
  refine ⟨(forget_steps r todo _).symm, steps_rounds r todo _, hreports, h.stands.current, ?_,
    h.counted⟩
  rw [hreports, h.stands.total, hregular.length_timed]

theorem course_leavesReports : course.LeavesReports :=
  Scripted.hear_leavesReports fun _ => Scripted.reaction_leavesReports _ _

/-- Makes the clock faster from inside the second tick, and from inside the third one stops it,
starts it and makes it slower. -/
def restless : Scripted :=
  ⟨.acts [⟨2, .setSpeed (.int 98)⟩, ⟨3, .stop⟩, ⟨3, .start⟩, ⟨3, .setSpeed (.int 97)⟩], []⟩

/-- Two tasks are reported, with two ticks and with one; the third task was cancelled before it went
to sleep, and the fourth one has ticked once. -/
theorem ticks_are_accounted_restless :
    let c : Clock := ⟨95, 1, Nat.one_pos, 0, .idle, [], true⟩
    let todo : List Scripted.Step := [.op .start, .advance 16]
    let s := steps course (start c restless) todo
    let reports := Log.tickReports (Logger.shown ⟨.debug, false⟩ s.log)
    Clock.create true (.int 95) (.int 1) = .ok c ∧ course.LeavesReports ∧
    Roster.of c (rounds course (start c restless) todo) =
      ⟨97, some ⟨true, 1⟩, [⟨true, 2⟩, ⟨true, 1⟩, ⟨false, 0⟩]⟩ ∧
    reports = [2, 1] ∧ reports.sum + 1 = (Chronicle.timed s.body.past).length := by
  intro c todo s reports
  have hc : Clock.create true (.int 95) (.int 1) = .ok c := rfl
  obtain ⟨-, -, hreports, -, htotal, -⟩ :=
    ticks_are_accounted course_leavesReports restless hc todo false
  have htasks : Roster.of c (rounds course (start c restless) todo) =
      ⟨97, some ⟨true, 1⟩, [⟨true, 2⟩, ⟨true, 1⟩, ⟨false, 0⟩]⟩ := by decide +kernel
  rw [htasks] at hreports htotal
  exact ⟨hc, course_leavesReports, htasks, hreports, htotal⟩

end Diary
end LedStudio
