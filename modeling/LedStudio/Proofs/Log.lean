import LedStudio.Log.Console

/-!
# What loggers print

A record takes a line for its header and one for each of its details. With colours the lines are the
ones without, and sequences between their parts that set a colour and take it back; these can be told
from the rest as long as no text has an escape character in it. The level of a logger decides for whole
records whether they are printed and has no part in how, and it is the level at the time of the call,
also where the logger was bound to a category before.

* `format_eq_mapIdx`, `branch_ne_branch` — the lines of a record.
* `format_withoutColours` — colours add nothing else.
* `printed_answerAll` — what the answers to calls print.
* `printed_eq` — calls print the records that they log, as far as these are enabled.
* `printed_atLevel` — one level throughout leaves out the records below it.
* `records_printed_whole` — all of these together.
-/

namespace LedStudio

/-! ## Colour sequences -/

namespace Paint

/-- Colours are given by numbers, with semicolons between them. -/
def isParameter (c : Char) : Bool := c.isDigit || c = ';'

/-- What is behind the colour sequence that a text begins with, if it begins with one. -/
def behind? : List Char → Option (List Char)
  | '\x1b' :: '[' :: cs =>
    match cs.dropWhile isParameter with
    | 'm' :: cs => some cs
    | _ => none
  | _ => none

theorem length_behind?_lt {cs behind : List Char} (h : behind? cs = some behind) :
    behind.length < cs.length := by
  unfold behind? at h
  split at h
  · rename_i cs
    split at h
    · rename_i rest hdrop
      cases h
      have hsuffix := (List.dropWhile_suffix (l := cs) isParameter).length_le
      simp only [hdrop, List.length_cons] at hsuffix ⊢
      omega
    · cases h
  · cases h

/-- A text from which every colour sequence is deleted. -/
def erase : List Char → List Char
  | [] => []
  | c :: cs =>
    match _h : behind? (c :: cs) with
    | some behind => erase behind
    | none => c :: erase cs
termination_by cs => cs.length
decreasing_by
  · exact length_behind?_lt ‹_›
  · simp

theorem erase_cons_eq (c : Char) (cs : List Char) : erase (c :: cs) =
    match behind? (c :: cs) with
    | some behind => erase behind
    | none => c :: erase cs := by
  rw [erase]
  split <;> rename_i h <;> rw [h]

theorem erase_of_behind? {cs behind : List Char} (h : behind? cs = some behind) :
    erase cs = erase behind := by
  cases cs with
  | nil => cases h
  | cons c cs => rw [erase_cons_eq, h]

theorem erase_cons {c : Char} (h : c ≠ '\x1b') (cs : List Char) :
    erase (c :: cs) = c :: erase cs := by
  have hbehind : behind? (c :: cs) = none := by
    unfold behind?
    split
    · rename_i heq
      exact absurd (List.cons.inj heq).1 h
    · rfl
  rw [erase_cons_eq, hbehind]

/-- The code is one that a colour sequence may have. -/
def IsColour (p : Paint) : Prop := ∀ c ∈ p.code.toList, isParameter c

instance (p : Paint) : Decidable p.IsColour :=
  decidable_of_iff (p.code.toList.all isParameter = true) List.all_eq_true

theorem isColour_reset : reset.IsColour := by decide

theorem isColour_dim : dim.IsColour := by decide

theorem isColour_level (l : LogLevel) : l.paint.IsColour := by
  cases l <;> decide

theorem isColour_category (c : LogCategory) : c.paint.IsColour := by
  cases c <;> decide

theorem erase_start {p : Paint} (h : p.IsColour) (back : List Char) :
    erase (p.start.toList ++ back) = erase back := by
  have hstart : p.start.toList ++ back = '\x1b' :: '[' :: (p.code.toList ++ 'm' :: back) := by
    simp [start]
  have hdrop : (p.code.toList ++ 'm' :: back).dropWhile isParameter = 'm' :: back := by
    rw [List.dropWhile_append_of_pos h, List.dropWhile_cons_of_neg (by decide)]
  apply erase_of_behind?
  simp only [hstart, behind?, hdrop]

end Paint

/-- The text without the colour sequences in it. -/
def withoutColours (s : String) : String := .ofList (Paint.erase s.toList)

/-- No sequence for the terminal begins anywhere in the text. -/
def Escapeless (s : String) : Prop := '\x1b' ∉ s.toList

instance (s : String) : Decidable (Escapeless s) :=
  inferInstanceAs (Decidable ('\x1b' ∉ s.toList))

/-- A text is another one with colours, whatever stands behind it. -/
def Colours (coloured plain : String) : Prop :=
  ∀ back, Paint.erase (coloured.toList ++ back) = plain.toList ++ Paint.erase back

namespace Colours

variable {a b a' b' s : String}

theorem withoutColours_eq (h : Colours a b) : withoutColours a = b := by
  have hnil : Paint.erase [] = [] := by rw [Paint.erase]
  simpa [withoutColours, hnil] using congrArg String.ofList (h [])

theorem append (h : Colours a b) (h' : Colours a' b') : Colours (a ++ a') (b ++ b') := by
  intro back
  rw [String.toList_append, String.toList_append, List.append_assoc, h, h', List.append_assoc]

theorem of_escapeless (h : Escapeless s) : Colours s s := by
  intro back
  unfold Escapeless at h
  generalize s.toList = cs at h ⊢
  induction cs with
  | nil => rfl
  | cons c cs ih =>
    simp only [List.mem_cons, not_or] at h
    rw [List.cons_append, Paint.erase_cons (Ne.symm h.1), ih h.2, List.cons_append]

/-- What sets a colour is nothing without it. -/
theorem of_start {p : Paint} (h : p.IsColour) : Colours p.start "" := by
  intro back
  simp [Paint.erase_start h]

end Colours

/-! ## The lines of a record -/

namespace Logger

variable {p : Paint} {time text : String}

/-- The logger with colours. -/
def coloured (logger : Logger) : Logger := { logger with colors := true }

/-- The logger without colours. -/
def plain (logger : Logger) : Logger := { logger with colors := false }

theorem painted_colours (logger : Logger) (hp : p.IsColour) (htext : Escapeless text) :
    Colours (logger.coloured.painted p text) (logger.plain.painted p text) := by
  have h := ((Colours.of_start hp).append (.of_escapeless htext)).append
    (Colours.of_start Paint.isColour_reset)
  simpa [painted, coloured, plain] using h

theorem escapeless_symbol (l : LogLevel) : Escapeless l.symbol := by
  cases l <;> decide

theorem escapeless_category (c : LogCategory) : Escapeless (padRight categoryWidth c.name) := by
  cases c <;> decide +kernel

theorem header_colours (logger : Logger) {r : LogRecord} (htime : Escapeless time)
    (hmessage : Escapeless r.message) :
    Colours (logger.coloured.header time r) (logger.plain.header time r) := by
  have hopen : Colours "[" "[" := .of_escapeless (by decide)
  have hclose : Colours "] " "] " := .of_escapeless (by decide)
  have hblank : Colours " " " " := .of_escapeless (by decide)
  have hcategory := logger.painted_colours (Paint.isColour_category r.category)
    (escapeless_category r.category)
  have hsymbol := logger.painted_colours (Paint.isColour_level r.level)
    (escapeless_symbol r.level)
  have htext := logger.painted_colours (Paint.isColour_level r.level) hmessage
  have hstamp := ((hopen.append (.of_escapeless htime)).append hclose).append hcategory
  exact (((hstamp.append hblank).append hsymbol).append hblank).append htext

theorem branch_colours (logger : Logger) {mark : String} (hmark : Escapeless mark)
    (htext : Escapeless text) :
    Colours (logger.coloured.branch mark text) (logger.plain.branch mark text) := by
  have hindent : Colours "           " "           " := .of_escapeless (by decide)
  have hblank : Colours " " " " := .of_escapeless (by decide)
  exact ((hindent.append (logger.painted_colours Paint.isColour_dim hmark)).append hblank).append
    (.of_escapeless htext)

theorem branches_withoutColours (logger : Logger) {texts : List String}
    (h : ∀ text ∈ texts, Escapeless text) :
    (logger.coloured.branches texts).map withoutColours = logger.plain.branches texts := by
  fun_induction branches logger.plain texts with
  | case1 => rfl
  | case2 last =>
    have hmark : Escapeless "└─" := by decide
    have hlast := logger.branch_colours hmark (h last (by simp))
    simp [branches, hlast.withoutColours_eq]
  | case3 text rest hrest ih =>
    have hmark : Escapeless "├─" := by decide
    have htext := logger.branch_colours hmark (h text (by simp))
    simp [branches, htext.withoutColours_eq, ih fun text ht => h text (by simp [ht])]

/-- **Colours add nothing** but sequences that can be deleted again. -/
theorem format_withoutColours (logger : Logger) {r : LogRecord} (htime : Escapeless time)
    (hmessage : Escapeless r.message) (hdetails : ∀ text ∈ r.details, Escapeless text) :
    (logger.coloured.format time r).map withoutColours = logger.plain.format time r := by
  rw [format, List.map_cons, (logger.header_colours htime hmessage).withoutColours_eq,
    logger.branches_withoutColours hdetails, format]

/-- The branch that leads to the detail at an index of so many. -/
def mark (count i : Nat) : String := if i + 1 = count then "└─" else "├─"

theorem branches_eq_mapIdx (logger : Logger) (texts : List String) :
    logger.branches texts = texts.mapIdx fun i text => logger.branch (mark texts.length i) text := by
  fun_induction branches logger texts with
  | case1 => rfl
  | case2 last => simp [mark]
  | case3 text rest hrest ih =>
    have hmore : 0 ≠ rest.length := by
      cases rest with
      | nil => exact absurd rfl hrest
      | cons => simp
    simp [List.mapIdx_cons, mark, ih, hmore]

/-- A record has one line for its header and one for each detail. -/
theorem format_eq_mapIdx (logger : Logger) (time : String) (r : LogRecord) :
    logger.format time r = logger.header time r ::
      r.details.mapIdx fun i text => logger.branch (mark r.details.length i) text := by
  rw [format, branches_eq_mapIdx]

/-- The line that closes the tree is none of those that go on. -/
theorem branch_ne_branch (logger : Logger) (last text : String) :
    logger.branch "└─" last ≠ logger.branch "├─" text := by
  intro h
  have hlist := congrArg String.toList h
  cases hcolors : logger.colors <;>
    simp [branch, painted, hcolors, String.toList_append] at hlist

/-- The logger with another level. -/
def atLevel (logger : Logger) (level : LogLevel) : Logger := { logger with level }

/-- A level has no part in how a record is printed. -/
theorem format_atLevel (logger : Logger) (level : LogLevel) (time : String) (r : LogRecord) :
    (logger.atLevel level).format time r = logger.format time r := by
  simp only [format_eq_mapIdx]
  rfl

end Logger

/-! ## Calls of a console -/

namespace Console

/-- A record that is logged: at a time of day, through a logger as it is set up at the time. -/
structure Entry where
  time : String
  logger : Logger
  record : LogRecord

namespace Entry

/-- The lines of the record, all of them together. -/
def lines (e : Entry) : List String := e.logger.format e.time e.record

/-- Whether the logger prints the record. -/
def isPrinted (e : Entry) : Bool := e.logger.isEnabled e.record.level

/-- The entry where the logger has another level. -/
def atLevel (level : LogLevel) (e : Entry) : Entry := { e with logger := e.logger.atLevel level }

theorem lines_atLevel (level : LogLevel) (e : Entry) : (e.atLevel level).lines = e.lines :=
  e.logger.format_atLevel level e.time e.record

end Entry

/-- The lines that are printed with an answer. -/
def Answer.printedLines : Answer → List String
  | printed lines => lines
  | nothing | enabled _ | formatted _ => []

/-- The logger and the record of a call that logs one; a bound logger stands for the one that it was
made from. -/
def Call.logged? : Call → Option (LoggerRef × LogRecord)
  | log ref r => some (ref, r)
  | logBound b level message details => some (b.logger, b.record level message details)
  | configure _ | isEnabled _ _ | format _ _ => none

/-- The call, with the same level wherever one is set up. -/
def Call.atLevel (level : LogLevel) : Call → Call
  | configure logger => configure (logger.atLevel level)
  | call => call

/-- The console with the same level for all of its loggers. -/
def atLevel (c : Console) (level : LogLevel) : Console :=
  ⟨c.shared.atLevel level, c.own.atLevel level⟩

/-- What is printed by calls, each at its time of day. -/
def printed (c : Console) : List (String × Call) → List String
  | [] => []
  | (time, call) :: rest =>
    (c.answer time call).1.printedLines ++ printed (c.answer time call).2 rest

/-- What calls log, printed or not. -/
def logged (c : Console) : List (String × Call) → List Entry
  | [] => []
  | (time, call) :: rest =>
    call.logged?.toList.map (fun (ref, r) => ⟨time, c.logger ref, r⟩) ++
      logged (c.answer time call).2 rest

theorem printed_answerAll (c : Console) (time : String) (calls : List Call) :
    (c.answerAll time calls).flatMap Answer.printedLines = c.printed (calls.map (time, ·)) := by
  induction calls generalizing c with
  | nil => rfl
  | cons call rest ih => simp only [answerAll, List.flatMap_cons, List.map_cons, printed, ih]

/-- One call prints the record that it logs, or nothing. -/
theorem answer_printedLines (c : Console) (time : String) (call : Call) :
    (c.answer time call).1.printedLines =
      ((call.logged?.toList.map fun (ref, r) => Entry.mk time (c.logger ref) r).filter
        Entry.isPrinted).flatMap Entry.lines := by
  cases call with
  | configure | isEnabled | format => rfl
  | log ref r =>
    cases h : (c.logger ref).isEnabled r.level <;>
      simp [answer, Answer.printedLines, Call.logged?, Entry.isPrinted, Entry.lines, Logger.lines, h]
  | logBound b level message details =>
    cases h : (c.logger b.logger).isEnabled (b.record level message details).level <;>
      simp [answer, Answer.printedLines, Call.logged?, Entry.isPrinted, Entry.lines, Logger.lines, h]

/-- **Calls print the records that they log**, as far as the logger has them enabled at the time. -/
theorem printed_eq (c : Console) (calls : List (String × Call)) :
    c.printed calls = ((c.logged calls).filter Entry.isPrinted).flatMap Entry.lines := by
  induction calls generalizing c with
  | nil => rfl
  | cons call rest ih =>
    obtain ⟨time, call⟩ := call
    rw [printed, logged, answer_printedLines, ih, List.filter_append, List.flatMap_append]

theorem logger_atLevel (c : Console) (level : LogLevel) (ref : LoggerRef) :
    (c.atLevel level).logger ref = (c.logger ref).atLevel level := by
  cases ref <;> rfl

theorem answer_atLevel (c : Console) (level : LogLevel) (time : String) (call : Call) :
    ((c.atLevel level).answer time (call.atLevel level)).2 =
      (c.answer time call).2.atLevel level := by
  cases call <;> rfl

theorem logged?_atLevel (level : LogLevel) (call : Call) :
    (call.atLevel level).logged? = call.logged? := by
  cases call <;> rfl

/-- With another level everywhere, the same records are logged, each as before. -/
theorem logged_atLevel (c : Console) (level : LogLevel) (calls : List (String × Call)) :
    (c.atLevel level).logged (calls.map fun (time, call) => (time, call.atLevel level)) =
      (c.logged calls).map (Entry.atLevel level) := by
  induction calls generalizing c with
  | nil => rfl
  | cons call rest ih =>
    obtain ⟨time, call⟩ := call
    simp only [List.map_cons, logged, logged?_atLevel, logger_atLevel, answer_atLevel, ih,
      List.map_append, List.map_map]
    rfl

/-- At one level everywhere, the records below it are left out, and only these. -/
theorem printed_atLevel (c : Console) (level : LogLevel) (calls : List (String × Call)) :
    (c.atLevel level).printed (calls.map fun (time, call) => (time, call.atLevel level)) =
      ((c.logged calls).filter fun e => level.priority ≤ e.record.level.priority).flatMap
        Entry.lines := by
  rw [printed_eq, logged_atLevel, List.filter_map, List.flatMap_map]
  simp only [Entry.lines_atLevel]
  rfl

/-- At the level of debugging, all that is logged is printed. -/
theorem printed_atLevel_debug (c : Console) (calls : List (String × Call)) :
    (c.atLevel .debug).printed (calls.map fun (time, call) => (time, call.atLevel .debug)) =
      (c.logged calls).flatMap Entry.lines := by
  rw [printed_atLevel, List.filter_eq_self.mpr]
  intro e _
  exact decide_eq_true (Nat.zero_le _)

/-- **What is printed is made of whole records.** A record has one line for its header and one for each
detail, in order, and it is the last of these that closes the tree; the lines with colours are the ones
without, once the colour sequences are deleted. Calls, through whatever logger and however it is set up
in between, print the records that are enabled where they are made, whether they are made at one time
or at many. With one and the same level throughout these are the records that are not below it, and with
the lowest level all of them. -/
theorem records_printed_whole (logger : Logger) (time : String) (r : LogRecord) (c : Console)
    (calls : List (String × Call)) :
    (logger.format time r = logger.header time r ::
      r.details.mapIdx fun i text => logger.branch (Logger.mark r.details.length i) text) ∧
    (∀ last text, logger.branch "└─" last ≠ logger.branch "├─" text) ∧
    (Escapeless time → Escapeless r.message → (∀ text ∈ r.details, Escapeless text) →
      (logger.coloured.format time r).map withoutColours = logger.plain.format time r) ∧
    (∀ asked, (c.answerAll time asked).flatMap Answer.printedLines =
      c.printed (asked.map (time, ·))) ∧
    c.printed calls = ((c.logged calls).filter Entry.isPrinted).flatMap Entry.lines ∧
    (c.atLevel .debug).printed (calls.map fun (time, call) => (time, call.atLevel .debug)) =
      (c.logged calls).flatMap Entry.lines ∧
    ∀ level, (c.atLevel level).printed (calls.map fun (time, call) => (time, call.atLevel level)) =
      ((c.logged calls).filter fun e => level.priority ≤ e.record.level.priority).flatMap
        Entry.lines := by
  refine ⟨logger.format_eq_mapIdx time r, logger.branch_ne_branch, ?_, c.printed_answerAll time,
    c.printed_eq calls, c.printed_atLevel_debug calls, ?_⟩
  · intro htime hmessage hdetails
    exact logger.format_withoutColours htime hmessage hdetails
  · intro level
    exact c.printed_atLevel level calls

/-- Of two messages through a bound logger, the first is below the level that its logger has been given
since, and all of its lines are missing. -/
theorem records_printed_whole_reconfigured :
    let r : LogRecord := ⟨.clock, .info, "Interval changed", ["speed: 80", "interval_ms: 20"]⟩
    let bound : BoundLogger := ⟨.shared, .pattern⟩
    let calls : List (String × Call) := [("14:23:45", .log .shared r),
      ("14:23:46", .configure ⟨.error, false⟩), ("14:23:47", .logBound bound .warn "hidden" ["a: 1"]),
      ("14:23:48", .logBound bound .error "shown" ["b: 2"])]
    Escapeless "14:23:45" ∧ Escapeless r.message ∧ (∀ text ∈ r.details, Escapeless text) ∧
    ((Logger.coloured {}).format "14:23:45" r).map withoutColours =
      ["[14:23:45] CLOCK     ✓ Interval changed", "           ├─ speed: 80",
        "           └─ interval_ms: 20"] ∧
    printed ⟨⟨.info, false⟩, {}⟩ calls =
      ["[14:23:45] CLOCK     ✓ Interval changed", "           ├─ speed: 80",
        "           └─ interval_ms: 20", "[14:23:48] PATTERN   ✗ shown", "           └─ b: 2"] := by
  intro r bound calls
  have htime : Escapeless "14:23:45" := by decide
  have hmessage : Escapeless r.message := by decide
  have hdetails : ∀ text ∈ r.details, Escapeless text := by decide
  obtain ⟨-, -, hcolours, -, hprinted, -⟩ :=
    records_printed_whole {} "14:23:45" r ⟨⟨.info, false⟩, {}⟩ calls
  refine ⟨htime, hmessage, hdetails, ?_, ?_⟩
  · rw [hcolours htime hmessage hdetails]
    decide +kernel
  · rw [hprinted]
    decide +kernel

end Console
end LedStudio
