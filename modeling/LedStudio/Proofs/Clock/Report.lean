import LedStudio.Proofs.Clock.Round

/-!
# What the log says of cancelled cadences

When a cadence is cancelled that has slept, the event loop says in the log how often it ticked. Such
a record can be told from every other one, and the number can be read off it. The event loop is the
only one to add such records, and it adds one for each cadence that was cancelled since it last ran.

* `ticks?_eq_some` — reading a record back.
* `perform_reports`, `settle_reports` — an operation adds no report; the event loop adds those due.
* `reaction_leavesReports` — nor does a script add any.
-/

namespace LedStudio

/-- The record of a cadence that was cancelled after some ticks. -/
def tickReport (ticks : Nat) : LogRecord :=
  ⟨.clock, .debug, "Tick task cancelled after " ++ toString ticks ++ " ticks", []⟩

namespace LogRecord

/-- The digits in the message of a report. -/
def reportedDigits (r : LogRecord) : List Char :=
  let behind := r.message.toList.drop "Tick task cancelled after ".length
  behind.take (behind.length - " ticks".length)

/-- The ticks that a record reports, if it is a report at all. -/
def ticks? (r : LogRecord) : Option Nat :=
  let ticks := Nat.ofDigitChars 10 r.reportedDigits 0
  if r = tickReport ticks then some ticks else none

theorem reportedDigits_tickReport (ticks : Nat) :
    (tickReport ticks).reportedDigits = Nat.toDigits 10 ticks := by
  have hmessage : (tickReport ticks).message.toList =
      "Tick task cancelled after ".toList ++ (Nat.toDigits 10 ticks ++ " ticks".toList) := by
    show ("Tick task cancelled after " ++ ticks.repr ++ " ticks").toList = _
    rw [String.toList_append, String.toList_append, Nat.toList_repr, List.append_assoc]
  simp only [reportedDigits, hmessage, ← String.length_toList, List.drop_left,
    List.length_append, Nat.add_sub_cancel, List.take_left]

/-- **A report can be read back**, and nothing else reads as one. -/
theorem ticks?_eq_some {r : LogRecord} {ticks : Nat} :
    r.ticks? = some ticks ↔ r = tickReport ticks := by
  simp only [ticks?]
  constructor
  · intro h
    split at h
    · rename_i hr
      cases h
      exact hr
    · cases h
  · rintro rfl
    rw [reportedDigits_tickReport, Nat.ofDigitChars_toDigits (by decide) (by decide), if_pos rfl]

theorem ticks?_of_level {r : LogRecord} (h : r.level ≠ .debug) : r.ticks? = none := by
  rw [Option.eq_none_iff_forall_ne_some]
  intro ticks hticks
  rw [ticks?_eq_some.mp hticks] at h
  exact h rfl

theorem ticks?_of_details {r : LogRecord} (h : r.details ≠ []) : r.ticks? = none := by
  rw [Option.eq_none_iff_forall_ne_some]
  intro ticks hticks
  rw [ticks?_eq_some.mp hticks] at h
  exact h rfl

end LogRecord

/-- The ticks that the log reports, in order. -/
def Log.tickReports (log : Log) : List Nat := log.filterMap LogRecord.ticks?

namespace Log

variable {log : Log}

theorem tickReports_append (log new : Log) :
    tickReports (log ++ new) = tickReports log ++ tickReports new := List.filterMap_append

theorem tickReports_add {r : LogRecord} (h : r.ticks? = none) :
    tickReports (log ++ [r]) = tickReports log := by
  rw [tickReports_append, tickReports, tickReports, List.filterMap_cons_none h,
    List.filterMap_nil, List.append_nil]

theorem tickReports_map (ticks : List Nat) : tickReports (ticks.map tickReport) = ticks := by
  have hread : LogRecord.ticks? ∘ tickReport = some :=
    funext fun _ => LogRecord.ticks?_eq_some.mpr rfl
  rw [tickReports, List.filterMap_map, hread, List.filterMap_some]

end Log

/-! ## Loggers -/

namespace Logger

/-- The records of a log that are printed. -/
def shown (logger : Logger) (log : Log) : Log := log.filter fun r => logger.isEnabled r.level

theorem printed_eq_shown (logger : Logger) (time : String) (log : Log) :
    logger.printed time log = (logger.shown log).flatMap (logger.format time) := by
  induction log with
  | nil => rfl
  | cons r log ih =>
    simp only [printed, List.flatMap_cons, lines, shown, List.filter_cons] at ih ⊢
    rw [ih]
    split <;> rfl

/-- At the level of debugging, all of the log is printed. -/
theorem shown_debug (colors : Bool) (log : Log) : shown ⟨.debug, colors⟩ log = log := by
  rw [shown, List.filter_eq_self]
  intro r _
  exact decide_eq_true (Nat.zero_le _)

end Logger

/-! ## Who adds reports -/

/-- The reaction adds no report of its own to the log and removes none. -/
def Reaction.LeavesReports {α : Type} : Reaction α → Prop
  | done | fail _ => True
  | look next => ∀ s, (next s).LeavesReports
  | work change next =>
    (∀ s, Log.tickReports (change s).1 = Log.tickReports s.log) ∧ next.LeavesReports
  | operate _ inner next => inner.LeavesReports ∧ ∀ out, (next out).LeavesReports

namespace Timed

variable {α : Type} {reports : List Nat}

/-- The log reports just these ticks. -/
def Reports (reports : List Nat) (s : Timed α) : Prop := Log.tickReports s.log = reports

open LedStudio.Action (Keeps)

theorem note_reports {r : LogRecord} (h : r.ticks? = none) :
    Keeps (Reports reports) (note r : Action (Timed α) Unit) :=
  fun _ hs => (Log.tickReports_add h).trans hs

theorem emit_reports {callback : Callback α} (h : Keeps (Reports reports) callback) :
    Keeps (Reports reports) (emit callback) := by
  intro s hs
  have hcalled := h s hs
  unfold emit
  rcases hrun : callback s with ⟨_ | _, t⟩
  · rw [hrun] at hcalled
    exact note_reports (LogRecord.ticks?_of_level (by nofun)) t hcalled
  · rwa [hrun] at hcalled

theorem poised_reports {op : ClockOp} {s : Timed α} (h : s.Reports reports) :
    (poised op s).Reports reports := by
  cases op with
  | reset => exact (Log.tickReports_add (LogRecord.ticks?_of_level (by nofun))).trans h
  | _ => exact h

/-- **An operation adds no report**, if the callback does not. -/
theorem perform_reports {callback : Callback α} (h : Keeps (Reports reports) callback)
    (op : ClockOp) : Keeps (Reports reports) (op.perform callback) := by
  have hset (c : Clock) : Keeps (Reports reports) (setClock c : Action (Timed α) Unit) :=
    fun _ hs => hs
  have hget : Keeps (Reports reports) (getClock : Action (Timed α) Clock) := fun _ hs => hs
  cases hshows : op.shows with
  | true =>
    intro s hs
    obtain ⟨result, hop⟩ := perform_shows callback hshows s
    rw [hop]
    exact emit_reports h _ (poised_reports hs)
  | false =>
    cases op with
    | start =>
      refine Keeps.bind (hget.bind fun c => ?_) fun _ => .pure none
      split
      · exact .pure ()
      · split
        · exact fun _ hs => hs
        · exact (hset _).bind fun _ => note_reports (LogRecord.ticks?_of_level (by nofun))
    | stop =>
      refine Keeps.bind (hget.bind fun c => (hset _).bind fun _ => ?_) fun _ => .pure none
      split
      · exact note_reports (LogRecord.ticks?_of_level (by nofun))
      · exact .pure ()
    | setSpeed v =>
      refine Keeps.bind (Keeps.bind (.lift _) fun new => hget.bind fun c => ?_) fun _ => .pure none
      split
      · exact .pure ()
      · exact (hset _).bind fun _ => note_reports (LogRecord.ticks?_of_details (List.cons_ne_nil _ _))
    | _ => cases hshows

/-- **The event loop reports the cadences that were cancelled**, each one once. -/
theorem settle_reports (s : Timed α) :
    Log.tickReports s.settle.log = Log.tickReports s.log ++ s.clock.cancelled := by
  show Log.tickReports (s.log ++ s.clock.cancelled.map tickReport) = _
  rw [Log.tickReports_append, Log.tickReports_map]

end Timed

namespace Diary

open LedStudio.Action (Keeps)

variable {α : Type} {reports : List Nat}

theorem record_reports {r : Reaction α} (hr : r.LeavesReports) :
    Keeps (Timed.Reports reports) (record r) := by
  induction r with
  | done => exact fun _ hs => hs
  | fail f => exact fun _ hs => hs
  | look next ih => exact fun s hs => ih (forget s) (hr (forget s)) s hs
  | work change next ih => exact fun s hs => ih hr.2 _ ((hr.1 (forget s)).trans hs)
  | operate op inner next ihInner ihNext =>
    have hinner : Keeps (Timed.Reports reports)
        fun t => record inner (enter (.shown t.clock.frame) t) := fun t ht => ihInner hr.1 _ ht
    exact fun s hs => ihNext _ (hr.2 _) _ (Timed.perform_reports hinner op _ hs)

theorem callback_reports {r : Reaction α} (hr : r.LeavesReports) :
    Keeps (Timed.Reports reports) (callback r) := fun _ hs => record_reports hr _ hs

/-- After an operation, the event loop reports what was cancelled in the course of it. -/
theorem operation_reports {r : Reaction α} (hr : r.LeavesReports) (op : ClockOp)
    (s : Timed (Diary α)) :
    Log.tickReports (step r s (.op op)).log = Log.tickReports s.log ++
      (op.perform (callback r) (enter (.called op) s)).2.clock.cancelled := by
  have hsame := Timed.perform_reports (callback_reports hr) op (enter (.called op) s) rfl
  rw [step, Timed.settle_reports, hsame]
  rfl

/-- After a tick, the event loop reports what was cancelled in the course of it. -/
theorem ticked_reports {r : Reaction α} (hr : r.LeavesReports) (left ticks : Nat)
    (s : Timed (Diary α)) :
    Log.tickReports (ticked r left ticks s).log = Log.tickReports s.log ++
      ((returned r left ticks s).clock.resume ticks).cancelled := by
  have hsame := Timed.emit_reports (callback_reports hr)
    (Timed.struck ticks (enter .fired (later left s))) rfl
  rw [ticked_eq, Timed.settle_reports]
  exact congrArg (· ++ _) hsame

end Diary

/-! ## Scripts -/

namespace Scripted

theorem hear_leavesReports {next : Reaction Scripted} (h : next.LeavesReports) :
    (hear next).LeavesReports := by
  intro s
  simp only
  split
  · exact h
  · exact ⟨fun _ => rfl, trivial⟩
  · exact ⟨fun _ => rfl, h⟩

theorem reaction_leavesReports (fuel frame : Nat) : (reaction fuel frame).LeavesReports := by
  induction fuel generalizing frame with
  | zero => trivial
  | succ fuel ih =>
    intro s
    simp only
    split
    · trivial
    · refine ⟨fun _ => rfl, hear_leavesReports fun t => ih t.clock.frame, ?_⟩
      rintro (f | result)
      · trivial
      · exact ih frame

end Scripted
end LedStudio
