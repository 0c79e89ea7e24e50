import Turnstile.Gate

namespace Turnstile.Gate

/-!
# What a gate does to a machine

The parts of a gate, each run from its start to its end.

* `asking`, `delegation` — what a gate leaves in the trace when it asks its authenticator, and when
  it hands a request to its entry point;
* `run_settle`, `run_attempt`, `run_delegate` — the parts of a gate;
* `run_evaluate_of_filled`, `run_evaluate_of_empty` — the decision of a gate, by what the bound
  context holds.
-/

/-- What is left in the trace once an authenticator has been asked; the gate is the one of that
    number. -/
def asking (g : Gate) (number : Nat) (c : Credentials) : Trace :=
  .logged (note ("Basic Authorization header found for user '" ++ c.username ++ "'")) ::
    .consulted number c :: (g.authenticator.answer c).log.map .logged

/-- What is left in the trace once an entry point has answered a rejected request; the gate is the
    one of that number. -/
def delegation (g : Gate) (number : Nat) (request : Request) (r : Rejection) : Trace :=
  let answer := g.entryPoint.commence request (some (.rejected r))
  .logged ⟨.debug, .layer,
      "Delegating rejected request for " ++ request.pathText ++ " to entry point", none⟩ ::
    .delegated number r :: answer.log.map .logged ++ answer.messages.map .sent

/-- Nothing is sent while an authenticator is asked. -/
theorem messages_asking (g : Gate) (number : Nat) (c : Credentials) :
    Trace.messages (g.asking number c) = [] :=
  Trace.messages_logged (g.authenticator.answer c).log

/-- An authenticator is asked once. -/
@[simp] theorem consultations_asking (g : Gate) (number : Nat) (c : Credentials) :
    Trace.consultations number (g.asking number c) = [c] := by
  have hself : Event.consultation? number (.consulted number c) = some c := if_pos rfl
  rw [asking, Trace.consultations, List.filterMap_cons_none rfl, List.filterMap_cons_some hself]
  exact congrArg (c :: ·) (Trace.consultations_logged number (g.authenticator.answer c).log)

/-- All that is sent when a request is handed on is the answer of the entry point. -/
theorem messages_delegation (g : Gate) (number : Nat) (request : Request) (r : Rejection) :
    Trace.messages (g.delegation number request r) =
      (g.entryPoint.commence request (some (.rejected r))).messages := by
  unfold delegation
  rw [Trace.messages_append, Trace.messages_sent]
  exact congrArg (· ++ _) (Trace.messages_logged _)

/-- A request is handed on once. -/
theorem delegations_delegation (g : Gate) (number : Nat) (request : Request) (r : Rejection) :
    Trace.delegations number (g.delegation number request r) = [r] := by
  have hself : Event.delegation? number (.delegated number r) = some r := if_pos rfl
  unfold delegation
  rw [Trace.delegations_append, Trace.delegations_sent, List.append_nil, Trace.delegations,
    List.filterMap_cons_none rfl, List.filterMap_cons_some hself]
  exact congrArg (r :: ·) (Trace.delegations_logged number _)

/-- The entry of a successful attempt. -/
def success (username : Text) : LogEntry :=
  note ("Authentication success for user '" ++ username ++ "'")

/-- The entry of an attempt that is not made. -/
def skipping (path : Text) : LogEntry :=
  note ("Identity already established for " ++ path ++ "; skipping Basic authentication")

/-- The reply of the authenticator decides, and it settles what the bound context holds: a rejection
    empties it, an identity fills it, and any other reply leaves it alone. -/
theorem run_settle (g : Gate) (path username : Text) (reply : Except Fault (Option Identity))
    (m : Machine) :
    (g.settle path username reply).run m =
      match reply with
      | .error (.rejected r) =>
        (.ok (.rejected g.ignoreFailure username r),
          (m.putBound none).tell [.logged (warning path username r)])
      | .error fault => (.error fault, m)
      | .ok none => (.error .noIdentity, m)
      | .ok (some identity) =>
        (.ok (.authenticated username identity),
          (m.putBound (some identity)).tell [.logged (success username)]) := by
  unfold settle
  rcases reply with fault | _ | identity
  · cases fault <;> rfl
  · rfl
  · rfl

/-- Whether the authenticator is awaited makes no difference. -/
theorem run_attempt (g : Gate) (number : Nat) (path : Text) (c : Credentials) (m : Machine) :
    (g.attempt number path c).run m =
      (g.settle path c.username (g.authenticator.answer c).reply).run
        (m.tell (g.asking number c)) := by
  unfold attempt
  simp only [Flow.run_bind, Flow.run_log, Flow.run_record, Machine.tell_tell, List.map_cons,
    List.map_nil, List.cons_append, List.nil_append, asking]
  split <;> rfl

/-- Nothing is attempted when the bound context already holds an identity. -/
theorem run_evaluate_of_filled {m : Machine}
    (h : (m.shared.contexts.current m.session.binding).isSome) (g : Gate) (number : Nat)
    (authorization : Option Text) (path : Text) :
    (g.evaluate number authorization path).run m =
      (.ok .noAttempt, m.tell [.logged (skipping path)]) := by
  unfold evaluate
  rw [Flow.run_view_bind, Machine.view_here, Machine.observation_identity, if_pos h]
  rfl

/-- Otherwise the header value decides whether the authenticator is asked. -/
theorem run_evaluate_of_empty {m : Machine}
    (h : m.shared.contexts.current m.session.binding = none) (g : Gate) (number : Nat)
    (authorization : Option Text) (path : Text) :
    (g.evaluate number authorization path).run m =
      match Credentials.read g.registry g.charset authorization with
      | .error fault => (.error fault, m)
      | .ok (.error skip) => (.ok .noAttempt, m.tell (skip.note?.toList.map .logged))
      | .ok (.ok c) => (g.attempt number path c).run m := by
  unfold evaluate
  rw [Flow.run_view_bind, Machine.view_here, Machine.observation_identity, h]
  rcases Credentials.read g.registry g.charset authorization with fault | skip | c
  · rfl
  · simp
  · rfl

/-- The entry point gives the outcome. -/
theorem run_delegate (g : Gate) (number : Nat) (request : Request) (r : Rejection) (m : Machine) :
    (g.delegate number request r).run m =
      ((g.entryPoint.commence request (some (.rejected r))).outcome,
        m.tell (g.delegation number request r)) := by
  unfold delegate
  simp only [Flow.run_bind, Flow.run_log, Flow.run_record, Flow.run_send, Flow.run_pure,
    Machine.tell_tell, List.map_cons, List.map_nil, List.cons_append, List.nil_append, delegation]

end Turnstile.Gate
