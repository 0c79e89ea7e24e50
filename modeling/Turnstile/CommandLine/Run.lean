import Turnstile.CommandLine.Options
import Turnstile.CommandLine.Path
import Turnstile.Service
import Turnstile.Site

namespace Turnstile.CommandLine

/-!
# Serving from the command line

* `Surroundings` — the environment, the files and the codecs;
* `configure` — what is to be served, or why nothing is;
* `run` — configuring and serving, with the exit status.
-/

/-! ### Surroundings and refusals -/

/-- What the command line finds around it: two variables of the environment, what paths lead to, how
    the files of the place are read, and what labels name. -/
structure Surroundings where
  usersFile : Option Text := none
  realm : Option Text := none
  find : Path → Found := fun _ => .nothing
  decode : List UInt8 → Except Fault (List CodePoint)
  registry : Registry

/-- Why nothing is served. -/
inductive Refusal
  | stopped (stop : Stop)
  /-- No users file is named. -/
  | noUsersFile
  /-- The users file does not exist. -/
  | missingUsersFile (path : Path)
  /-- The users file holds no user map. -/
  | badUsersFile (path : Path) (level : Level) (fault : Fault)
  /-- A fault came out of the preparations, once the log had been set to a level or before. -/
  | failed (level : Option Level) (fault : Fault)

/-- The exit status of a refusal; a fault that comes out leaves none. -/
def Refusal.status? : Refusal → Option Nat
  | .stopped .help => some 0
  | .stopped (.usage _) => some 2
  | .failed _ _ => none
  | _ => some 1

/-- The fault that comes out of a refusal. -/
def Refusal.fault? : Refusal → Option Fault
  | .failed _ fault => some fault
  | _ => none

/-- What a refusal writes to the error stream, where the program goes by the given name. -/
def Refusal.text (program : Text) : Refusal → Text
  | .stopped .help | .failed _ _ => ""
  | .stopped (.usage e) => program ++ ": error: " ++ e.message ++ "\n"
  | .noUsersFile => "Error: --users-file or BASICAUTH_USERS_FILE is required.\n"
  | .missingUsersFile path => "Error: --users-file '" ++ path.text ++ "' does not exist.\n"
  | .badUsersFile path _ fault =>
    "Error: invalid users file '" ++ path.text ++ "': " ++ fault.message ++ "\n"

/-! ### Configuring -/

/-- What is to be served: the options that are settled, the path of the users file and its accounts,
    the realm, and what labels name. -/
structure Configuration where
  host : Text
  port : Int
  level : Level
  ignoreFailure : Bool
  path : Path
  store : Store
  realm : Text
  registry : Registry

/-- A text that is given and not empty. -/
def given? (s : Option Text) : Option Text :=
  s.filter fun t => t != ""

/-- The port, which must be in range. -/
def portOf (settings : Settings) : Except Refusal Int :=
  match settings.port with
  | .nothing => .error (.failed none (.noPort .empty))
  | .value n =>
    if n < 1 ∨ 65535 < n then .error (.stopped (.usage (.portOutOfRange n))) else .ok n

/-- The path of the users file: that of the option, or else that of the variable unless it is
    empty. -/
def usersPath (settings : Settings) (around : Surroundings) : Except Refusal Path :=
  match settings.usersFile, given? around.usersFile with
  | some (.value text), _ => .ok (Path.ofText text)
  | some .nothing, _ => .error (.failed none .noUsersFile)
  | none, some text => .ok (Path.ofText text)
  | none, none => .error .noUsersFile

/-- What is in the users file, which must exist. -/
def usersContent (around : Surroundings) (path : Path) :
    Except Refusal (Except Fault (List UInt8)) :=
  match around.find path with
  | .file content => .ok content
  | .nothing => .error (.missingUsersFile path)
  | .failed fault => .error (.failed none fault)

/-- The level of the log. -/
def levelOf (settings : Settings) : Except Refusal Level :=
  match settings.logLevel with
  | .value level => .ok level
  | .nothing => .error (.failed none .noLogLevel)

/-- The accounts in the content of a users file. -/
def readUsers (around : Surroundings) (content : Except Fault (List UInt8)) :
    Except Fault Store := do
  let bytes ← content
  let text ← around.decode bytes
  Store.ofUserMap true (Text.ofList (Text.unifyLineEnds text))

/-- The refusal of a users file: its content is at fault if that is a bad value. -/
def refusedUsers (path : Path) (level : Level) (fault : Fault) : Refusal :=
  if fault.kind.isA .value then .badUsersFile path level fault else .failed (some level) fault

/-- The realm: that of the option, or else that of the variable, or else the usual one; an empty
    realm counts as missing. -/
def realmOf (settings : Settings) (around : Surroundings) : Text :=
  ((given? settings.realm).or (given? around.realm)).getD defaultRealm

/-- What is to be served by settings. -/
def Settings.configure (settings : Settings) (around : Surroundings) :
    Except Refusal Configuration := do
  let port ← portOf settings
  let path ← usersPath settings around
  let content ← usersContent around path
  let level ← levelOf settings
  match readUsers around content with
  | .error fault => .error (refusedUsers path level fault)
  | .ok store =>
    return ⟨settings.host, port, level, settings.ignoreFailure, path, store,
      realmOf settings around, around.registry⟩

/-- What is to be served.  An option comes before a variable of the environment. -/
def configure (arguments : List Text) (around : Surroundings) : Except Refusal Configuration :=
  match Settings.ofArguments arguments with
  | .error stop => .error (.stopped stop)
  | .ok settings => settings.configure around

namespace Configuration

/-- The site that is to be served. -/
def site (c : Configuration) : Except Fault Site :=
  Site.make c.registry (some c.store.authenticator) none c.realm c.ignoreFailure []

/-- Where the site is to be served. -/
def service (c : Configuration) : Service where
  host := c.host
  port := some c.port
  logLevel := some c.level.name

/-- What is written to the log about the accounts. -/
def note (c : Configuration) : LogEntry :=
  if c.store.size = 0 then
    ⟨.warning, .commandLine, "No users loaded from '" ++ c.path.text ++ "'.", none⟩
  else
    ⟨.info, .commandLine,
      "Loaded " ++ Text.ofNat c.store.size ++ " user(s) from '" ++ c.path.text ++ "'.", none⟩

/-- Serving the site by a server that ends in the given way. -/
def serve (c : Configuration) (server : Except Fault Unit) : ServiceRun Site :=
  match c.site with
  | .error fault => { outcome := .error fault }
  | .ok site => c.service.run site { server := server }

end Configuration

/-! ### Running -/

/-- A run of the command line: the exit status unless it ended normally, a fault that came out, the
    text on the error stream, whether help was asked for, the level of the log once it is set, what
    happened in serving, and the log. -/
structure Report where
  status : Option Nat := none
  fault : Option Fault := none
  errors : Text := ""
  helped : Bool := false
  level : Option Level := none
  events : List (ServiceEvent Site) := []
  log : List LogEntry := []

/-- The exit code that a run leaves: its status, zero if it ended normally, and one if a fault came
    out of it, unless it was interrupted or asked to end. -/
def Report.exitCode (r : Report) : Nat :=
  match r.fault with
  | some .interrupted => 130
  | some (.exit code) => code
  | some _ => 1
  | none => r.status.getD 0

/-- The level that the log was set to before a refusal. -/
def Refusal.level? : Refusal → Option Level
  | .badUsersFile _ level _ => some level
  | .failed level _ => level
  | _ => none

/-- The report of a refusal. -/
def Refusal.report (program : Text) (r : Refusal) : Report where
  status := r.status?
  fault := r.fault?
  errors := r.text program
  helped := match r with
    | .stopped .help => true
    | _ => false
  level := r.level?

/-- The exit status that the end of serving asks for: two for a fault that the program may recover
    from, and any other if the program is asked to end with it. -/
def endingStatus? : Except Fault Unit → Option Nat
  | .ok () => none
  | .error (.exit code) => some code
  | .error .interrupted => none
  | .error _ => some 2

/-- The fault of serving that the program does not catch. -/
def endingFault? : Except Fault Unit → Option Fault
  | .error .interrupted => some .interrupted
  | _ => none

/-- What is written to the log about the end of serving. -/
def endingNotes : Except Fault Unit → List LogEntry
  | .ok () => []
  | .error fault =>
    if fault.isOrdinary then [⟨.error, .commandLine, "Server startup failed.", some fault⟩] else []

/-- The report of serving. -/
def Configuration.report (c : Configuration) (server : Except Fault Unit) : Report :=
  let served := c.serve server
  { status := endingStatus? served.outcome
    fault := endingFault? served.outcome
    level := some c.level
    events := served.events
    log := atLeast c.level (c.note :: served.log ++ endingNotes served.outcome) }

/-- A run of the command line, the program going by the given name and the server ending in the
    given way. -/
def run (program : Text) (arguments : List Text) (around : Surroundings)
    (server : Except Fault Unit) : Report :=
  match configure arguments around with
  | .error r => r.report program
  | .ok c => c.report server

end Turnstile.CommandLine
