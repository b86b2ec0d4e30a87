import CommandShell.Text.CodePoint

/-!
The levels of log messages, from `trace` to `critical`.
-/

namespace CommandShell

/-- How much a log message matters. -/
inductive Level where
  | trace
  | debug
  | info
  | success
  | warning
  | error
  | critical
deriving DecidableEq, Repr

namespace Level

/-- The levels in order of severity. -/
def all : List Level := [.trace, .debug, .info, .success, .warning, .error, .critical]

def name : Level → Text
  | .trace => "TRACE"
  | .debug => "DEBUG"
  | .info => "INFO"
  | .success => "SUCCESS"
  | .warning => "WARNING"
  | .error => "ERROR"
  | .critical => "CRITICAL"

/-- Severity as a number. -/
def severity : Level → Nat
  | .trace => 0
  | .debug => 1
  | .info => 2
  | .success => 3
  | .warning => 4
  | .error => 5
  | .critical => 6

/-- The level of exactly this name. -/
def ofName? (t : Text) : Option Level := all.find? fun l => l.name == t

theorem ofName?_name (l : Level) : ofName? l.name = some l := by
  cases l <;> decide

end Level

end CommandShell
