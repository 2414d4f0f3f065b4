/-!
# Logging

Which log records reach the console. A logger is named by words between points and has the level of
the nearest logger above it, in name, that has one: here the logger of this library's own records
and the root. `Logging.configure` sets both levels and installs a console handler in place of an
earlier one; other handlers stay.
-/

namespace AccessPolicy

/-- The levels of log records. -/
inductive Level where
  /-- Details of the work. -/
  | debug
  /-- What the user may want to know. -/
  | info
  /-- What should not happen. -/
  | warning
  /-- What must not happen. -/
  | error
deriving DecidableEq, Repr

namespace Level

/-- The name of a level. -/
def name : Level → String
  | debug => "DEBUG"
  | info => "INFO"
  | warning => "WARNING"
  | .error => "ERROR"

/-- The rank of a level. -/
def rank : Level → Nat
  | debug => 10
  | info => 20
  | warning => 30
  | .error => 40

end Level

/-- What log records are handed to. -/
inductive Handler where
  /-- The console. -/
  | console (showPath detailedTraces : Bool)
  /-- Something else. -/
  | other
deriving DecidableEq, Repr

namespace Handler

/-- Whether a handler is the console. -/
def isConsole : Handler → Bool
  | console _ _ => true
  | other => false

end Handler

/-- The levels and handlers of a program. -/
structure Logging where
  /-- The name that the program's own loggers start with. -/
  own : String
  /-- The level of the root logger. -/
  root : Level := .warning
  /-- The level of the program's own loggers, if it is set. -/
  project : Option Level := none
  /-- The handlers of the root logger. -/
  handlers : List Handler := []
deriving DecidableEq, Repr

namespace Logging

/-- The level that a logger has. -/
def levelOf (l : Logging) (logger : String) : Level :=
  if logger == l.own || (l.own ++ ".").toList.isPrefixOf logger.toList then l.project.getD l.root
  else l.root

/-- Whether a record of a logger is handed on. -/
def shows (l : Logging) (logger : String) (level : Level) : Bool :=
  (l.levelOf logger).rank ≤ level.rank

/-- The console handler that is installed. -/
def consoleHandler (verbose : Bool) : Handler := .console verbose verbose

/-- Sets the levels, and puts a console handler in place of an earlier one. -/
def configure (l : Logging) (verbose : Bool) : Logging :=
  { l with
    root := if verbose then .debug else .warning
    project := some (if verbose then .debug else .info)
    handlers := l.handlers.filter (!·.isConsole) ++ [consoleHandler verbose] }

end Logging

end AccessPolicy
