import LedStudio.Choice

/-!
# The log

Operations leave records behind; a logger decides which of them are printed and how. A record is
printed as a header line and a tree of details, one line for each.
-/

namespace LedStudio

inductive LogLevel where
  | debug | info | warn | error
  deriving DecidableEq, Repr

inductive LogCategory where
  | config | pattern | clock | codegen | session | api | system | general
  deriving DecidableEq, Repr

namespace LogLevel

def all : List LogLevel := [debug, info, warn, error]

def name : LogLevel → String
  | debug => "DEBUG"
  | info => "INFO"
  | warn => "WARN"
  | error => "ERROR"

/-- The order of severity. -/
def priority : LogLevel → Nat
  | debug => 0
  | info => 1
  | warn => 2
  | error => 3

def symbol : LogLevel → String
  | debug => "·"
  | info => "✓"
  | warn => "⚠"
  | error => "✗"

def choice : Choice LogLevel :=
  ⟨"LogLevel", all.map fun l => ⟨l.name, .int (l.priority + 1), l⟩⟩

end LogLevel

namespace LogCategory

def all : List LogCategory := [config, pattern, clock, codegen, session, api, system, general]

def name : LogCategory → String
  | config => "CONFIG"
  | pattern => "PATTERN"
  | clock => "CLOCK"
  | codegen => "CODEGEN"
  | session => "SESSION"
  | api => "API"
  | system => "SYSTEM"
  | general => "GENERAL"

def choice : Choice LogCategory :=
  ⟨"LogCategory", all.mapIdx fun i c => ⟨c.name, .int (i + 1), c⟩⟩

end LogCategory

/-- One thing that happened. -/
structure LogRecord where
  category : LogCategory
  level : LogLevel
  message : String
  details : List String := []
  deriving DecidableEq, Repr

/-- What happened, in order. -/
abbrev Log := List LogRecord

/-- A detail with a name. -/
def detail (name value : String) : String := name ++ ": " ++ value

/-- A detail that tells what changed into what. -/
def change (name old new : String) : String := detail name (old ++ " → " ++ new)

/-! ## Colours -/

/-- A terminal sequence that sets a colour. -/
structure Paint where
  code : String

def Paint.start (p : Paint) : String := "\x1b[" ++ p.code ++ "m"

def Paint.reset : Paint := ⟨"0"⟩

def Paint.dim : Paint := ⟨"2"⟩

def LogLevel.paint : LogLevel → Paint
  | debug => .dim
  | info => ⟨"32"⟩
  | warn => ⟨"33"⟩
  | error => ⟨"31"⟩

def LogCategory.paint : LogCategory → Paint
  | config => ⟨"36"⟩
  | pattern => ⟨"93"⟩
  | clock => ⟨"96"⟩
  | codegen => ⟨"95"⟩
  | session => ⟨"92"⟩
  | api => ⟨"94"⟩
  | system => ⟨"97"⟩
  | general => ⟨"37"⟩

/-! ## Loggers -/

/-- The least level that is printed, and whether lines are coloured. -/
structure Logger where
  level : LogLevel := .info
  colors : Bool := true
  deriving DecidableEq, Repr

namespace Logger

def isEnabled (logger : Logger) (level : LogLevel) : Bool :=
  logger.level.priority ≤ level.priority

def painted (logger : Logger) (p : Paint) (text : String) : String :=
  if logger.colors then p.start ++ text ++ Paint.reset.start else text

/-- The width of the category's column. -/
def categoryWidth : Nat := 9

/-- The text with blanks behind it up to a width. -/
def padRight (width : Nat) (s : String) : String :=
  s ++ .ofList (List.replicate (width - s.length) ' ')

/-- The line that a record begins with, printed at a time of day. -/
def header (logger : Logger) (time : String) (r : LogRecord) : String :=
  "[" ++ time ++ "] " ++ logger.painted r.category.paint (padRight categoryWidth r.category.name)
    ++ " " ++ logger.painted r.level.paint r.level.symbol
    ++ " " ++ logger.painted r.level.paint r.message

/-- The line of one detail. -/
def branch (logger : Logger) (mark text : String) : String :=
  "           " ++ logger.painted .dim mark ++ " " ++ text

/-- The lines of the details; the last of them closes the tree. -/
def branches (logger : Logger) : List String → List String
  | [] => []
  | [last] => [logger.branch "└─" last]
  | text :: rest => logger.branch "├─" text :: branches logger rest

/-- The lines of a record, whatever its level. -/
def format (logger : Logger) (time : String) (r : LogRecord) : List String :=
  logger.header time r :: logger.branches r.details

/-- What is printed for a record: its lines, or nothing if its level is too low. -/
def lines (logger : Logger) (time : String) (r : LogRecord) : List String :=
  if logger.isEnabled r.level then logger.format time r else []

/-- What is printed for a log. -/
def printed (logger : Logger) (time : String) (log : Log) : List String :=
  log.flatMap (logger.lines time)

end Logger
end LedStudio
