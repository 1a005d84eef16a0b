/-!
# Log records

What the recorder reports about its own work, for whoever follows a session. Each record belongs
to a part of the recorder and has a level: listings of code are informative, all else is detail.
-/

namespace FieldKernel

/-- The part of the recorder that a record comes from. -/
inductive LogSource where
  | builder
  | layout
  | program
  | lowering
  deriving DecidableEq, Repr

/-- How much a record matters. -/
inductive LogLevel where
  | debug
  | info
  deriving DecidableEq, Repr

/-- One report. -/
structure LogRecord where
  source : LogSource
  level : LogLevel
  message : String
  deriving DecidableEq, Repr

namespace LogRecord

/-- A detail that a part of the recorder reports. -/
def detail (source : LogSource) (message : String) : LogRecord :=
  ⟨source, .debug, message⟩

/-- A log with a detail more, if there is a message. -/
def note {ε : Type} (source : LogSource) (message : Except ε String) (log : Array LogRecord) :
    Array LogRecord :=
  match message with
  | .ok message => log.push (.detail source message)
  | .error _ => log

end LogRecord

end FieldKernel
