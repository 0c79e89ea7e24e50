import Turnstile.Authenticator
import Turnstile.Challenge
import Turnstile.Flow

namespace Turnstile

/-!
# Gates

A gate decides, for one request, whether Basic credentials let it pass.

* `Gate` — the parties and options of a gate, with `Gate.make`, which checks them;
* `Decision` — what a gate decides, in terms of `Phase`;
* `Gate.evaluate` — the decision on a header value;
* `Gate.guard` — a stage behind a gate;
* `Gate.Step`, `Gate.step` — a gate in use on one context.
-/

/-! ### Decisions -/

/-- The phases of a request inside a gate.  The phase of an attempt lasts only while the
    authenticator is asked. -/
inductive Phase
  | noAttempt
  | attempting
  | authenticated
  | rejected
  deriving DecidableEq, Repr

/-- The name of a phase. -/
def Phase.name : Phase → Text
  | .noAttempt => "no_attempt"
  | .attempting => "attempting"
  | .authenticated => "authenticated"
  | .rejected => "rejected"

/-- What a gate decides. -/
inductive Decision
  /-- No attempt was made, and the request goes on. -/
  | noAttempt
  /-- The authenticator gave an identity, and the request goes on. -/
  | authenticated (username : Text) (identity : Identity)
  /-- The authenticator rejected the credentials; the request goes on only if `proceed` holds. -/
  | rejected (proceed : Bool) (username : Text) (failure : Rejection)

namespace Decision

/-- The phase that the request has reached. -/
def phase : Decision → Phase
  | .noAttempt => .noAttempt
  | .authenticated .. => .authenticated
  | .rejected .. => .rejected

/-- No decision is about an attempt that still lasts. -/
theorem phase_ne_attempting (d : Decision) : d.phase ≠ .attempting := by
  cases d <;> nofun

/-- The request may go on. -/
def proceed : Decision → Bool
  | .rejected proceed _ _ => proceed
  | _ => true

/-- The identity that was established. -/
def identity? : Decision → Option Identity
  | .authenticated _ identity => some identity
  | _ => none

/-- The rejection. -/
def failure? : Decision → Option Rejection
  | .rejected _ _ failure => some failure
  | _ => none

/-- The username that was presented. -/
def username? : Decision → Option Text
  | .noAttempt => none
  | .authenticated username _ => some username
  | .rejected _ username _ => some username

end Decision

/-! ### Configuration -/

/-- The configuration of a gate: who is asked, who answers rejected requests, whether rejected
    requests go on all the same, and the label of the charset of credentials, with the registry in
    which it is looked up. -/
structure Gate where
  authenticator : Authenticator
  entryPoint : EntryPoint
  ignoreFailure : Bool
  charset : Text
  registry : Registry

/-- The label of the charset that is used unless another is chosen. -/
def defaultCharset : Text := "utf-8"

namespace Gate

/-- A gate from its parts, which are checked in this order: the authenticator and the entry point
    must be there, and the label must not be empty and must name something. -/
def make (registry : Registry) (authenticator : Option Authenticator)
    (entryPoint : Option EntryPoint) (ignoreFailure : Bool) (charset : Text) : Except Fault Gate :=
  match authenticator, entryPoint with
  | none, _ => .error .noAuthenticator
  | some _, none => .error .noEntryPoint
  | some a, some e =>
    if charset = "" then .error .emptyCharset
    -- a transform that is no charset will do here
    else match registry.lookup charset with
      | .ok _ => .ok ⟨a, e, ignoreFailure, charset, registry⟩
      | .error fault =>
        .error (if fault.kind.isA .lookup then .unknownCharset charset else fault)

/-! ### Deciding -/

/-- A log entry of a gate that only developers care about. -/
def note (message : Text) : LogEntry :=
  ⟨.debug, .gate, message, none⟩

/-- The log entry of a rejected attempt. -/
def warning (path username : Text) (r : Rejection) : LogEntry :=
  ⟨.warning, .gate,
    "Authentication failed for " ++ path ++ ": " ++ r.message ++ " (user '" ++ username ++ "', " ++
      r.kind.name ++ ")", none⟩

/-- The decision once the authenticator has replied; the reply also settles what the bound context
    holds. -/
def settle (g : Gate) (path username : Text) (reply : Except Fault (Option Identity)) :
    Flow (Except Fault Decision) := do
  match reply with
  | .error (.rejected r) =>
    Flow.perform .clear
    Flow.log [warning path username r]
    return .ok (.rejected g.ignoreFailure username r)
  | .error fault => return .error fault
  | .ok none => return .error .noIdentity
  | .ok (some identity) =>
    Flow.perform (.assign identity)
    Flow.log [note ("Authentication success for user '" ++ username ++ "'")]
    return .ok (.authenticated username identity)

/-- Puts credentials to the authenticator; the gate is the one of that number. -/
def attempt (g : Gate) (number : Nat) (path : Text) (c : Credentials) :
    Flow (Except Fault Decision) := do
  Flow.log [note ("Basic Authorization header found for user '" ++ c.username ++ "'")]
  Flow.record [.consulted number c]
  let answer := g.authenticator.answer c
  Flow.log answer.log
  -- other requests may go on while the reply is awaited
  if g.authenticator.awaited then Flow.rest
  g.settle path c.username answer.reply

/-- The decision on a header value.  Nothing is attempted when the bound context already holds an
    identity, or when the value carries no credentials. -/
def evaluate (g : Gate) (number : Nat) (authorization : Option Text) (path : Text) :
    Flow (Except Fault Decision) := do
  if (← Flow.view).here.identity.isSome then
    Flow.log
      [note ("Identity already established for " ++ path ++ "; skipping Basic authentication")]
    return .ok .noAttempt
  else
    match Credentials.read g.registry g.charset authorization with
    | .error fault => return .error fault
    | .ok (.error skip) =>
      Flow.log skip.note?.toList
      return .ok .noAttempt
    | .ok (.ok c) => g.attempt number path c

/-! ### A stage behind a gate -/

/-- Hands a rejected request to the entry point. -/
def delegate (g : Gate) (number : Nat) (request : Request) (r : Rejection) : Flow Outcome := do
  let path := request.pathText
  Flow.log
    [⟨.debug, .layer, "Delegating rejected request for " ++ path ++ " to entry point", none⟩]
  Flow.record [.delegated number r]
  let answer := g.entryPoint.commence request (some (.rejected r))
  Flow.log answer.log
  Flow.send answer.messages
  return answer.outcome

/-- A stage behind a gate: it runs if the gate lets the request pass, and a request that is rejected
    goes to the entry point instead. -/
def guard (g : Gate) (number : Nat) (inner : Flow Outcome) : Flow Outcome := do
  let request := (← Flow.view).request
  match ← g.evaluate number request.authorization request.pathText with
  | .error fault => return .error fault
  | .ok (.rejected false _ failure) => g.delegate number request failure
  | .ok _ => inner

/-! ### A gate in use -/

/-- What can be done with a gate and one context, step after step. -/
inductive Step
  | evaluate (authorization : Option Text) (path : Text)
  /-- Fills the context. -/
  | assign (identity : Option Identity)
  /-- Empties the context. -/
  | clear
  /-- Goes on with a fresh context. -/
  | fresh

/-- The course of a step, in a bound context; only an evaluation ends in a decision. -/
def step (g : Gate) : Step → Flow (Except Fault (Option Decision))
  | .evaluate authorization path => do
    match ← g.evaluate 0 authorization path with
    | .error fault => return .error fault
    | .ok decision => return .ok (some decision)
  | .assign none => return .error .noIdentity
  | .assign (some identity) => do
    Flow.perform (.assign identity)
    return .ok none
  | .clear => do
    Flow.perform .clear
    return .ok none
  | .fresh => do
    Flow.perform .leave
    Flow.perform .enter
    return .ok none

end Gate

end Turnstile
