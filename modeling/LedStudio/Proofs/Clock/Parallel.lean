import LedStudio.Proofs.Clock.Basic

/-!
# Two clocks side by side

Clocks that drive different things, or the same thing in different states, go the same way as long
as their callbacks agree: nothing but a callback looks at what a clock drives, and nothing at all
looks at the log. Which cancelled cadences are still to be reported is no matter either, since only
the log will tell of them.

* `perform_agree`, `advance_agree` — an operation, and any time that passes, keeps two related
  states related.
-/

namespace LedStudio

namespace Clock

/-- The second clock differs from the first one only in the cancelled cadences that are still to be
reported. -/
def Peer (c d : Clock) : Prop := ∃ cancelled, d = { c with cancelled := cancelled }

namespace Peer

variable {c d : Clock}

theorem refl (c : Clock) : c.Peer c := ⟨c.cancelled, rfl⟩

theorem frame (h : c.Peer d) : d.frame = c.frame := by
  obtain ⟨_, rfl⟩ := h
  rfl

theorem cadence (h : c.Peer d) : d.cadence = c.cadence := by
  obtain ⟨_, rfl⟩ := h
  rfl

theorem isRunning (h : c.Peer d) : d.isRunning = c.isRunning := by
  obtain ⟨_, rfl⟩ := h
  rfl

theorem hasLoop (h : c.Peer d) : d.hasLoop = c.hasLoop := by
  obtain ⟨_, rfl⟩ := h
  rfl

end Peer

/-- A change of clocks that does not hang on what is still to be reported. -/
def Even (f : Clock → Clock) : Prop := ∀ {c d : Clock}, c.Peer d → (f c).Peer (f d)

theorem even_after (op : ClockOp) : Even (·.after op) := by
  rintro ⟨speed, least, pos, frame, cadence, reported, hasLoop⟩ _ ⟨cancelled, rfl⟩
  cases op with
  | start => cases cadence <;> cases hasLoop <;> exact ⟨_, rfl⟩
  | stop => exact ⟨_, rfl⟩
  | reset => exact ⟨_, rfl⟩
  | tick => exact ⟨_, rfl⟩
  | setSpeed v =>
    simp only [after]
    split
    · exact ⟨_, rfl⟩
    · split
      · exact ⟨_, rfl⟩
      · cases cadence <;> exact ⟨_, rfl⟩

theorem even_settled : Even settled := by
  rintro ⟨speed, least, pos, frame, cadence, reported, hasLoop⟩ _ ⟨cancelled, rfl⟩
  cases cadence <;> exact ⟨_, rfl⟩

theorem even_resume (ticks : Nat) : Even (·.resume ticks) := by
  rintro ⟨speed, least, pos, frame, cadence, reported, hasLoop⟩ _ ⟨cancelled, rfl⟩
  cases cadence <;> exact ⟨_, rfl⟩

end Clock

namespace Timed

open LedStudio.Action (Agree)

variable {α β : Type}

/-- The clocks of related states are the same but for what is still to be reported. The states stay
related when both clocks go on in the same way at the same speed, whatever is logged of it. -/
structure Abreast (R : Timed α → Timed β → Prop) : Prop where
  clock : ∀ {s t}, R s t → s.clock.Peer t.clock
  turn : ∀ {s t}, R s t → ∀ {f : Clock → Clock}, Clock.Even f → (∀ c, (f c).speed = c.speed) →
    ∀ log : Clock → Log, R { s with clock := f s.clock, log := s.log ++ log s.clock }
      { t with clock := f t.clock, log := t.log ++ log t.clock }

namespace Abreast

variable {R : Timed α → Timed β → Prop} {s : Timed α} {t : Timed β}

theorem addLog (hR : Abreast R) (h : R s t) (log : Log) :
    R { s with log := s.log ++ log } { t with log := t.log ++ log } :=
  hR.turn h (f := id) id (fun _ => rfl) fun _ => log

theorem setClock (hR : Abreast R) (h : R s t) {f : Clock → Clock} (hf : Clock.Even f)
    (hspeed : ∀ c, (f c).speed = c.speed) :
    R { s with clock := f s.clock } { t with clock := f t.clock } := by
  have hclock := hR.turn h hf hspeed fun _ => []
  simpa only [List.append_nil] using hclock

theorem note (hR : Abreast R) (r : LogRecord) : Agree R (Timed.note r) (Timed.note r) :=
  .modify fun _ _ h => hR.addLog h [r]

/-! ## Operations -/

theorem start (hR : Abreast R) : Agree R Timed.start Timed.start := by
  intro s t h
  have hpeer := hR.clock h
  have hstarted := hR.turn h (Clock.even_after .start) (fun c => c.alike_start.speed) fun c =>
    [⟨.clock, .info, "Clock started",
      [detail "frame" (toString c.frame), detail "interval_ms" (toString c.interval)]⟩]
  simp only [Clock.after, hpeer.isRunning, hpeer.hasLoop] at hstarted
  simp only [Timed.start, bind, Action.andThen, getClock, hpeer.isRunning, hpeer.hasLoop]
  by_cases hrunning : s.clock.isRunning = true
  · simp only [if_pos hrunning]
    exact ⟨rfl, h⟩
  · by_cases hloop : s.clock.hasLoop = true
    · simp only [hrunning, hloop] at hstarted ⊢
      exact ⟨rfl, hstarted⟩
    · simp only [hrunning, hloop]
      exact ⟨rfl, h⟩

theorem stop (hR : Abreast R) : Agree R Timed.stop Timed.stop := by
  intro s t h
  have hpeer := hR.clock h
  have hstopped := hR.turn h (Clock.even_after .stop) (fun c => c.alike_stop.speed) fun c =>
    if c.isRunning then [⟨.clock, .info, "Clock stopped", [detail "frame" (toString c.frame)]⟩]
    else []
  simp only [Clock.after, hpeer.isRunning] at hstopped
  simp only [Timed.stop, bind, Action.andThen, getClock, Timed.setClock, Action.modify,
    hpeer.isRunning]
  by_cases hrunning : s.clock.isRunning = true
  · simp only [if_pos hrunning] at hstopped ⊢
    exact ⟨rfl, hstopped⟩
  · simp only [if_neg hrunning, List.append_nil] at hstopped ⊢
    exact ⟨rfl, hstopped⟩

theorem settle (hR : Abreast R) (h : R s t) : R s.settle t.settle :=
  hR.turn h Clock.even_settled (fun c => c.alike_settled.speed) fun c =>
    c.cancelled.map fun ticks =>
      ⟨.clock, .debug, "Tick task cancelled after " ++ toString ticks ++ " ticks", []⟩

variable {callback : Callback α} {other : Callback β}

theorem emit (hR : Abreast R) (hcallback : Agree R callback other) :
    Agree R (Timed.emit callback) (Timed.emit other) := by
  intro s t h
  obtain ⟨hout, hstate⟩ := hcallback s t h
  unfold Timed.emit
  rcases hs : callback s with ⟨f | _, s'⟩ <;> rcases ht : other t with ⟨g | _, t'⟩ <;>
    rw [hs, ht] at hout hstate <;> cases hout
  · have hframe : t'.clock.frame = s'.clock.frame := (hR.clock hstate).frame
    simp only [hframe]
    exact ⟨rfl, hR.addLog hstate _⟩
  · exact ⟨rfl, hstate⟩

theorem reset (hR : Abreast R) (hcallback : Agree R callback other) :
    Agree R (Timed.reset callback) (Timed.reset other) := by
  intro s t h
  have hpoised := hR.turn h (Clock.even_after .reset) (fun _ => rfl) fun _ =>
    [⟨.clock, .info, "Clock reset", []⟩]
  exact hR.emit hcallback _ _ hpoised

theorem tick (hR : Abreast R) (hcallback : Agree R callback other) :
    Agree R (Timed.tick callback) (Timed.tick other) := by
  intro s t h
  have hpoised := hR.setClock h (Clock.even_after .tick) fun _ => rfl
  obtain ⟨-, hstate⟩ := hR.emit hcallback _ _ hpoised
  rw [tick_eq, tick_eq]
  exact ⟨congrArg Except.ok (hR.clock hstate).frame.symm, hstate⟩

/-! ## Time -/

theorem fire (hR : Abreast R) (hcallback : Agree R callback other) (ticks : Nat) (h : R s t) :
    R (Timed.fire callback ticks s) (Timed.fire other ticks t) := by
  have hstruck : R (struck ticks s) (struck ticks t) :=
    hR.setClock h (f := fun c => { c with cadence := .ticking ticks, frame := c.frame + 1 })
      (by rintro c _ ⟨cancelled, rfl⟩; exact ⟨cancelled, rfl⟩) fun _ => rfl
  obtain ⟨-, hshown⟩ := hR.emit hcallback _ _ hstruck
  rw [fire_eq, fire_eq]
  exact hR.settle (hR.setClock hshown (Clock.even_resume ticks) fun c =>
    (c.alike_resume ticks).speed)

theorem advance_agree (hR : Abreast R) (hcallback : Agree R callback other) (ms : Nat)
    (h : R s t) : R (s.advance callback ms) (t.advance other ms) := by
  fun_induction Timed.advance callback ms s generalizing t with
  | case1 ms s left pos ticks hc hle ih =>
    rw [advance_due other ((hR.clock h).cadence.trans hc) hle]
    exact ih (hR.fire hcallback ticks h)
  | case2 ms s left pos ticks hc hlt =>
    rw [advance_early other ((hR.clock h).cadence.trans hc) hlt]
    exact hR.setClock h
      (f := fun c => { c with cadence := .asleep (left - ms) (rest_pos hlt) ticks })
      (by rintro c _ ⟨cancelled, rfl⟩; exact ⟨cancelled, rfl⟩) fun _ => rfl
  | case3 ms s hc =>
    rw [advance_idle other ms ((hR.clock h).cadence ▸ Cadence.due?_eq_none hc)]
    exact h

end Abreast

/-! ## The same clock -/

/-- Related states have the same clock, and they stay related when the clock changes and when
records are added to the log, the same on both sides. -/
structure Parallel (R : Timed α → Timed β → Prop) : Prop where
  clock : ∀ {s t}, R s t → s.clock = t.clock
  turn : ∀ {s t}, R s t → ∀ (c : Clock) (log : Log),
    R { s with clock := c, log := s.log ++ log } { t with clock := c, log := t.log ++ log }

namespace Parallel

variable {R : Timed α → Timed β → Prop} {s : Timed α} {t : Timed β} {callback : Callback α}
  {other : Callback β}

theorem abreast (hR : Parallel R) : Abreast R where
  clock h := hR.clock h ▸ .refl _
  turn h f _ _ log := by
    rw [← hR.clock h]
    exact hR.turn h (f _) (log _)

theorem perform_agree (hR : Parallel R) (hcallback : Agree R callback other) (op : ClockOp) :
    Agree R (op.perform callback) (op.perform other) := by
  cases hshows : op.shows with
  | false =>
    intro s t h
    obtain ⟨answer, said, hop⟩ := perform_quiet hshows
    rw [hop, hop, ← hR.clock h]
    exact ⟨rfl, hR.turn h _ _⟩
  | true =>
    cases op with
    | reset => exact (hR.abreast.reset hcallback).bind fun _ => .pure none
    | tick => exact (hR.abreast.tick hcallback).bind fun n => .pure (some n)
    | _ => cases hshows

theorem fire (hR : Parallel R) (hcallback : Agree R callback other) (ticks : Nat) (h : R s t) :
    R (Timed.fire callback ticks s) (Timed.fire other ticks t) :=
  hR.abreast.fire hcallback ticks h

theorem advance_agree (hR : Parallel R) (hcallback : Agree R callback other) (ms : Nat)
    (h : R s t) : R (s.advance callback ms) (t.advance other ms) :=
  hR.abreast.advance_agree hcallback ms h

end Parallel
end Timed
end LedStudio
