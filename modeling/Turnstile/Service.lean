import Turnstile.Journal

namespace Turnstile

/-!
# Serving

* `Service` — where a server listens and how much it logs;
* `Parties` — the callbacks around the server and the server itself;
* `Service.run` — starting, serving and shutting down.
-/

/-- Where a server is to listen, and the name of its log level. -/
structure Service where
  host : Text := "127.0.0.1"
  port : Option Int := some 8000
  logLevel : Option Text := some "info"

/-- How the parties to a run end: the callback at startup and the one at shutdown, if there are any,
    and the server. -/
structure Parties where
  startup : Option (Except Fault Unit) := none
  server : Except Fault Unit := .ok ()
  shutdown : Option (Except Fault Unit) := none

/-- What happens in a run; `α` are the applications that can be served. -/
inductive ServiceEvent (α : Type)
  /-- A server is set up for an application. -/
  | configured (app : α) (host : Text) (port : Int) (logLevel : Text)
  | startup
  /-- The server runs the application. -/
  | served (app : α)
  | shutdown
  deriving DecidableEq, Repr

/-- A run: what happened, what was logged, and how it ended. -/
structure ServiceRun (α : Type) where
  events : List (ServiceEvent α) := []
  log : List LogEntry := []
  outcome : Except Fault Unit := .ok ()

namespace Service

variable {α : Type}

/-- The port and the log level of a service that can be run: there must be a host, a port in range,
    and a log level. -/
def settled (s : Service) : Except Fault (Int × Text) :=
  if s.host = "" then .error .emptyHost
  else match s.port, s.logLevel with
    | none, _ => .error (.noPort .null)
    | some port, level =>
      if port < 1 ∨ 65535 < port then .error (.portOutOfRange port)
      else match level with
        | none => .error .noServerLevel
        | some level => .ok (port, level)

/-- The events of a callback. -/
def callbackEvents (event : ServiceEvent α) : Option (Except Fault Unit) → List (ServiceEvent α)
  | some _ => [event]
  | none => []

/-- How a callback ends. -/
def callbackEnd (callback : Option (Except Fault Unit)) : Except Fault Unit :=
  callback.getD (.ok ())

/-- Serving and shutting down: the callback at shutdown runs however the server ended, and its own
    fault comes before that of the server. -/
def serving (app : α) (p : Parties) : List (ServiceEvent α) × Except Fault Unit :=
  (.served app :: callbackEvents .shutdown p.shutdown,
    match callbackEnd p.shutdown with
    | .error fault => .error fault
    | .ok () => p.server)

/-- What is written to the log before a server starts. -/
def note (host : Text) (port : Int) : LogEntry :=
  ⟨.info, .server,
    "Starting Basic-authenticated server on " ++ host ++ ":" ++ Text.ofInt port, none⟩

/-- A run of a server for an application. -/
def run (s : Service) (app : α) (p : Parties) : ServiceRun α :=
  match s.settled with
  | .error fault => { outcome := .error fault }
  | .ok (port, level) =>
    let start := .configured app s.host port (Text.ofList (Text.lower level.toList)) ::
      callbackEvents .startup p.startup
    let log := [note s.host port]
    match callbackEnd p.startup with
    | .error fault => { events := start, log := log, outcome := .error fault }
    | .ok () =>
      let rest := serving app p
      { events := start ++ rest.1, log := log, outcome := rest.2 }

end Service

end Turnstile
