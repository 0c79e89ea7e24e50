import Turnstile.Fault

namespace Turnstile

/-!
# The log

* `Level` — how much an entry matters, in order;
* `Source` — the part of the library that writes an entry;
* `LogEntry` — one entry.
-/

/-- How much a log entry matters. -/
inductive Level
  | debug
  | info
  | warning
  | error
  deriving DecidableEq, Repr

/-- The place of a level in their order. -/
def Level.rank : Level → Nat
  | .debug => 0
  | .info => 1
  | .warning => 2
  | .error => 3

/-- The name of a level. -/
def Level.name : Level → Text
  | .debug => "DEBUG"
  | .info => "INFO"
  | .warning => "WARNING"
  | .error => "ERROR"

/-- The parts of the library that write to the log. -/
inductive Source
  /-- Reading credentials from a header. -/
  | credentials
  /-- The decision of a gate. -/
  | gate
  /-- The store of accounts. -/
  | store
  /-- A gate's place in a stack of layers. -/
  | layer
  /-- The challenge of a rejected request. -/
  | challenge
  /-- The server. -/
  | server
  /-- The command line. -/
  | commandLine
  deriving DecidableEq, Repr

/-- One entry of the log, with the fault that made it necessary, if there is one. -/
structure LogEntry where
  level : Level
  source : Source
  message : Text
  fault : Option Fault := none
  deriving DecidableEq, Repr

/-- The entries of a log that matter at least as much as a level. -/
def atLeast (level : Level) (log : List LogEntry) : List LogEntry :=
  log.filter fun e => level.rank ≤ e.level.rank

end Turnstile
