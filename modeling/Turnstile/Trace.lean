import Turnstile.Http.Response
import Turnstile.Credentials
import Turnstile.Scope

namespace Turnstile

/-!
# Traces

* `Observation` — what the application can see of the identity of its request;
* `Event` — what a request leaves behind on its way;
* `Trace` — events in the order in which they happened, with what can be picked out of them.
-/

/-- What the application can see of the identity of its request. -/
structure Observation where
  bound : Bool
  identity : Option Identity
  state : Option StateView

/-- What a request leaves in its trace.  Gates are counted from the outermost. -/
inductive Event
  | logged (entry : LogEntry)
  /-- A gate put credentials to its authenticator. -/
  | consulted (gate : Nat) (credentials : Credentials)
  /-- A gate handed a rejection to its entry point. -/
  | delegated (gate : Nat) (cause : Rejection)
  | sent (message : Http.Message)
  /-- The application looked. -/
  | observed (seen : Observation)
  /-- The application assigned an identity and then saw this one. -/
  | assigned (identity : Option Identity)
  /-- The application cleared the context and then saw this identity. -/
  | cleared (identity : Option Identity)

/-- The log entry of an event. -/
def Event.entry? : Event → Option LogEntry
  | .logged entry => some entry
  | _ => none

/-- The message of an event. -/
def Event.message? : Event → Option Http.Message
  | .sent message => some message
  | _ => none

/-- The credentials that a gate put to its authenticator in an event. -/
def Event.consultation? (gate : Nat) : Event → Option Credentials
  | .consulted n credentials => if n = gate then some credentials else none
  | _ => none

/-- The rejection that a gate handed to its entry point in an event. -/
def Event.delegation? (gate : Nat) : Event → Option Rejection
  | .delegated n cause => if n = gate then some cause else none
  | _ => none

/-- The events of a request, in order. -/
abbrev Trace := List Event

/-- The log entries of a trace. -/
def Trace.log (t : Trace) : List LogEntry := t.filterMap Event.entry?

theorem Trace.log_append (t t' : Trace) : log (t ++ t') = log t ++ log t' :=
  List.filterMap_append

@[simp] theorem Trace.log_logged (entries : List LogEntry) :
    log (entries.map .logged) = entries :=
  List.filterMap_map.trans List.filterMap_some

/-- Messages are no entries of the log. -/
@[simp] theorem Trace.log_sent (ms : List Http.Message) : log (ms.map .sent) = [] :=
  List.filterMap_eq_nil_iff.2 (List.forall_mem_map.2 fun _ _ => rfl)

/-- The messages of a trace. -/
def Trace.messages (t : Trace) : List Http.Message := t.filterMap Event.message?

theorem Trace.messages_append (t t' : Trace) : messages (t ++ t') = messages t ++ messages t' :=
  List.filterMap_append

/-- Entries of the log are no messages. -/
@[simp] theorem Trace.messages_logged (log : List LogEntry) : messages (log.map .logged) = [] :=
  List.filterMap_eq_nil_iff.2 (List.forall_mem_map.2 fun _ _ => rfl)

@[simp] theorem Trace.messages_sent (ms : List Http.Message) : messages (ms.map .sent) = ms :=
  List.filterMap_map.trans List.filterMap_some

/-- The credentials that a gate put to its authenticator in a trace. -/
def Trace.consultations (gate : Nat) (t : Trace) : List Credentials :=
  t.filterMap (Event.consultation? gate)

theorem Trace.consultations_append (gate : Nat) (t t' : Trace) :
    consultations gate (t ++ t') = consultations gate t ++ consultations gate t' :=
  List.filterMap_append

/-- Writing to the log puts nothing to an authenticator. -/
@[simp] theorem Trace.consultations_logged (gate : Nat) (log : List LogEntry) :
    consultations gate (log.map .logged) = [] :=
  List.filterMap_eq_nil_iff.2 (List.forall_mem_map.2 fun _ _ => rfl)

/-- The rejections that a gate handed to its entry point in a trace. -/
def Trace.delegations (gate : Nat) (t : Trace) : List Rejection :=
  t.filterMap (Event.delegation? gate)

theorem Trace.delegations_append (gate : Nat) (t t' : Trace) :
    delegations gate (t ++ t') = delegations gate t ++ delegations gate t' :=
  List.filterMap_append

/-- Writing to the log hands nothing to an entry point. -/
@[simp] theorem Trace.delegations_logged (gate : Nat) (log : List LogEntry) :
    delegations gate (log.map .logged) = [] :=
  List.filterMap_eq_nil_iff.2 (List.forall_mem_map.2 fun _ _ => rfl)

/-- Nor does sending messages. -/
@[simp] theorem Trace.delegations_sent (gate : Nat) (ms : List Http.Message) :
    delegations gate (ms.map .sent) = [] :=
  List.filterMap_eq_nil_iff.2 (List.forall_mem_map.2 fun _ _ => rfl)

end Turnstile
