import LedStudio.Log

/-!
# Consoles

A console has a logger that everyone shares and may have one more that stands by itself. A caller
keeps hold of one of the two, or binds it to a category; setting the shared logger up anew holds for
everyone who has it in hand already.
-/

namespace LedStudio

/-- One of the loggers of a console. -/
inductive LoggerRef where
  | shared | own
  deriving DecidableEq, Repr

structure Console where
  shared : Logger := {}
  own : Logger := {}
  deriving DecidableEq, Repr

/-- A logger in hand, bound to a category. -/
structure BoundLogger where
  logger : LoggerRef
  category : LogCategory
  deriving DecidableEq, Repr

/-- The same logger for another category. -/
def BoundLogger.withCategory (b : BoundLogger) (category : LogCategory) : BoundLogger :=
  { b with category }

/-- The record that a bound logger makes of a message. -/
def BoundLogger.record (b : BoundLogger) (level : LogLevel) (message : String)
    (details : List String) : LogRecord :=
  ⟨b.category, level, message, details⟩

namespace Console

/-- What a caller may ask of a console. -/
inductive Call where
  /-- Sets the shared logger up anew. -/
  | configure (logger : Logger)
  | isEnabled (logger : LoggerRef) (level : LogLevel)
  /-- The lines of a record, whatever its level. -/
  | format (logger : LoggerRef) (r : LogRecord)
  | log (logger : LoggerRef) (r : LogRecord)
  | logBound (b : BoundLogger) (level : LogLevel) (message : String) (details : List String)

/-- What a caller gets: an answer, or lines that are printed. -/
inductive Answer where
  | nothing
  | enabled (yes : Bool)
  | formatted (lines : List String)
  | printed (lines : List String)
  deriving DecidableEq, Repr

def logger (c : Console) : LoggerRef → Logger
  | .shared => c.shared
  | .own => c.own

/-- Answers a call at a time of day. -/
def answer (c : Console) (time : String) : Call → Answer × Console
  | .configure logger => (.nothing, { c with shared := logger })
  | .isEnabled ref level => (.enabled ((c.logger ref).isEnabled level), c)
  | .format ref r => (.formatted ((c.logger ref).format time r), c)
  | .log ref r => (.printed ((c.logger ref).lines time r), c)
  | .logBound b level message details =>
    (.printed ((c.logger b.logger).lines time (b.record level message details)), c)

/-- Answers calls in order. -/
def answerAll (c : Console) (time : String) : List Call → List Answer
  | [] => []
  | call :: rest =>
    let (a, c) := c.answer time call
    a :: answerAll c time rest

end Console
end LedStudio
