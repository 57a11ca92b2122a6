/-!
# Log entries
-/

namespace ShapeQuery

/-- How important a log entry is. -/
inductive LogLevel where
  | debug
  | warn
  deriving DecidableEq, Repr

def LogLevel.name : LogLevel → String
  | .debug => "DEBUG"
  | .warn => "WARN"

structure LogEntry where
  level : LogLevel
  message : String
  deriving DecidableEq, Repr

namespace LogEntry

def debug (message : String) : LogEntry := ⟨.debug, message⟩

def warn (message : String) : LogEntry := ⟨.warn, message⟩

def render (entry : LogEntry) : String :=
  entry.level.name ++ " " ++ entry.message

end LogEntry

end ShapeQuery
