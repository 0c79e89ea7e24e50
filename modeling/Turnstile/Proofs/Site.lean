import Turnstile.Proofs.Crossing
import Turnstile.Requests
import Turnstile.Site

namespace Turnstile

/-!
# Requests at a site

The parts of a site, each run from its start to its end.

* `Ending.shown` — what a client gets to see of a request;
* `Flow.run_reply_ok`, `Flow.run_reply_error` — what sending a response comes to;
* `Site.make_of_challenge`, `Site.eq_of_make` — the layers of a site: a boundary and, inside of it,
  a gate;
* `Site.report_shielded` — a shielded stage: what makes up for a fault comes after all else;
* `Site.descend_layers`, `Site.report_flow`, `Site.shown_flow` — the end of a request over HTTP, put
  together from the way in, the routes and what makes up for a fault;
* `Site.uncalling_routing` — nothing on a route is done in the name of the gate.
-/

/-- What a client gets to see of a request: how it has ended and the messages that were sent. -/
def Ending.shown (e : Ending) : Outcome × List Http.Message :=
  (e.1, Trace.messages e.2.session.trace)

theorem shown_handle (flow : Flow Outcome) (scope : Scope) (s : Shared) :
    ((handle flow scope s).1.outcome, Trace.messages (handle flow scope s).1.session.trace) =
      Ending.shown (flow.run (scope.arrived s)) := by
  rw [outcome_handle, session_handle]
  rfl

namespace Flow

/-- A response is sent. -/
@[simp] theorem run_reply_ok (r : Http.Response) (m : Machine) :
    (reply (.ok r)).run m = (.ok (), m.tell ((r.messages false).map .sent)) := by
  unfold reply
  dsimp only
  rw [run_bind, run_send]
  rfl

/-- One that can not be written is not. -/
@[simp] theorem run_reply_error (fault : Fault) (m : Machine) :
    (reply (.error fault)).run m = (.error fault, m) := rfl

end Flow

/-! ### What a site is made of -/

/-- Every registry knows the charset that is used unless another is chosen. -/
theorem Gate.make_default (registry : Registry) (a : Authenticator) (e : EntryPoint)
    (ignoreFailure : Bool) :
    make registry (some a) (some e) ignoreFailure defaultCharset =
      .ok ⟨a, e, ignoreFailure, defaultCharset, registry⟩ := by
  have hlookup : registry.lookup defaultCharset = .ok (.text Charset.utf8.codec) :=
    registry.lookup_utf8
  have hne : defaultCharset ≠ "" := by decide
  unfold make
  dsimp only
  rw [if_neg hne, hlookup]

namespace Site

section

variable (registry : Registry) (a : Authenticator) (realm : Text) (ignoreFailure : Bool)

/-- With an entry point there is nothing that could be wrong. -/
theorem protection_of_entryPoint (e : EntryPoint) :
    protection registry (some a) (some e) realm ignoreFailure =
      .ok [.boundary, .gate ⟨a, e, ignoreFailure, defaultCharset, registry⟩] := by
  show Gate.make registry (some a) (some e) ignoreFailure defaultCharset >>= _ = _
  rw [Gate.make_default]
  rfl

/-- Without one there has to be a realm. -/
theorem protection_of_realm :
    protection registry (some a) none realm ignoreFailure =
      (Challenge.ofRealm (some realm)).map fun c =>
        [.boundary, .gate ⟨a, c.entryPoint, ignoreFailure, defaultCharset, registry⟩] := by
  cases h : Challenge.ofRealm (some realm) with
  | error fault =>
    unfold protection
    rw [h]
    rfl
  | ok c =>
    have hmade : protection registry (some a) none realm ignoreFailure =
        protection registry (some a) (some c.entryPoint) realm ignoreFailure := by
      unfold protection
      rw [h]
      rfl
    rw [hmade, protection_of_entryPoint]
    rfl

/-- A site can be made for every realm that is not empty. -/
theorem make_of_challenge (challenge : Challenge) (routes : List Route) :
    make registry (some a) none challenge.realm ignoreFailure routes =
      .ok ⟨[.boundary, .gate ⟨a, challenge.entryPoint, ignoreFailure, defaultCharset, registry⟩],
        health :: whoami :: routes⟩ := by
  have hrealm : Challenge.ofRealm (some challenge.realm) = .ok challenge :=
    dif_neg challenge.realm_ne
  unfold make
  rw [protection_of_realm, hrealm]
  rfl

end

/-- The layers of a site are a boundary and a gate, which answers rejected requests with a challenge
    unless the site has been given another entry point. -/
theorem eq_of_make {registry : Registry} {a : Authenticator} {entryPoint : Option EntryPoint}
    {realm : Text} {ignoreFailure : Bool} {routes : List Route} {site : Site}
    (h : make registry (some a) entryPoint realm ignoreFailure routes = .ok site) :
    ∃ e, (entryPoint = some e ∨ ∃ c : Challenge, e = c.entryPoint) ∧
      site = ⟨[.boundary, .gate ⟨a, e, ignoreFailure, defaultCharset, registry⟩],
        health :: whoami :: routes⟩ := by
  unfold make at h
  cases entryPoint with
  | some e =>
    rw [protection_of_entryPoint] at h
    exact ⟨e, .inl rfl, (Except.ok.inj h).symm⟩
  | none =>
    rw [protection_of_realm] at h
    cases hchallenge : Challenge.ofRealm (some realm) with
    | error fault =>
      rw [hchallenge] at h
      nomatch h
    | ok challenge =>
      rw [hchallenge] at h
      exact ⟨challenge.entryPoint, .inr ⟨challenge, rfl⟩, (Except.ok.inj h).symm⟩

/-- Nothing is done on the routes of a site in the name of its gate. -/
theorem uncalling_routing (site : Site) :
    site.routing.Acts (Action.Records Event.Uncalling) := by
  refine Flow.Acts.bind (fun _ => trivial) fun v => ?_
  dsimp only
  split
  · exact (Flow.acts_send (fun _ => ⟨rfl, rfl⟩) _).bind fun _ => trivial
  · split
    · split
      · rename_i route _
        exact route.uncalling
      · split
        · exact Flow.uncalling_reply _
        · exact (Flow.acts_send (fun _ => ⟨rfl, rfl⟩) _).bind fun _ => trivial
    · trivial

/-! ### What makes up for a fault -/

/-- What is sent to make up for a fault, at the end of a request with the messages sent before. -/
def amends (http : Bool) (outcome : Outcome) (sent : List Http.Message) : List Http.Message :=
  if http && hasFailed outcome && !sent.any Http.Message.opensResponse then
    failure.messages false
  else []

/-- The course of a request through a shielded stage. -/
theorem report_shielded (inner : Flow Outcome) (m : Machine) :
    Ending.report ((shielded inner).run m) =
      let report := Ending.report (inner.run m)
      (report.1, report.2 ++ (amends (m.session.request.hasType "http") report.1
        (Trace.messages report.2)).map .sent) := by
  have houtcome : (Ending.report (inner.run m)).1 = (inner.run m).1 := rfl
  have hresponded : (Trace.messages (Ending.report (inner.run m)).2).any
      Http.Message.opensResponse = (inner.run m).2.view.responded := rfl
  unfold shielded amends
  rw [Flow.run_bind, Flow.run_view_bind, Machine.view_request, Flow.run_request]
  dsimp only
  rw [houtcome, hresponded]
  by_cases hamends : (m.session.request.hasType "http" && hasFailed (inner.run m).1 &&
      !(inner.run m).2.view.responded) = true
  · rw [if_pos hamends, if_pos hamends, Flow.run_bind, Flow.run_send]
    rfl
  · rw [if_neg hamends, if_neg hamends, List.map_nil, List.append_nil]
    rfl

/-- Nothing has to be made up for where nothing goes wrong. -/
@[simp] theorem amends_ok (http : Bool) (sent : List Http.Message) :
    amends http (.ok ()) sent = [] := by
  simp [amends, hasFailed]

/-- What a client gets to see of a shielded stage. -/
theorem shown_of_report {inner : Flow Outcome} {m : Machine} {outcome : Outcome} {trace : Trace}
    (hhttp : m.session.request.hasType "http" = true)
    (h : Ending.report (inner.run m) = (outcome, trace)) :
    Ending.shown ((shielded inner).run m) =
      (outcome, Trace.messages trace ++ amends true outcome (Trace.messages trace)) := by
  have hreport := report_shielded inner m
  rw [h, hhttp] at hreport
  show ((Ending.report _).1, Trace.messages (Ending.report _).2) = _
  rw [hreport]
  dsimp only
  rw [Trace.messages_append, Trace.messages_sent]

/-! ### From its arrival to its end -/

section

variable {site : Site} {g : Gate} {m : Machine}

/-- Inside the boundary a request has a context of its own, and the gate decides about it there. -/
theorem descend_layers (hhttp : m.session.request.hasType "http" = true) :
    Stack.descend [.boundary, .gate g] m = m.opened >>= g.descend 0 := by
  unfold Stack.descend Stack.descendFrom
  rw [Layer.descend_boundary_of_opening 0 (Request.isBounded_of_http hhttp)]
  unfold Machine.opened
  split
  · have hopened : (Action.enter.apply m).session.request.hasType "http" = true := hhttp
    show (Layer.gate g).descend 0 (Action.enter.apply m) >>= _ = g.descend 0 (Action.enter.apply m)
    rw [Layer.descend_gate_of_bound 0 g hopened rfl]
    exact bind_pure (m := Except Ending) _
  · rfl

/-- The end of a request over HTTP: that of the routes, or of the way to them, and then what is
    sent to make up for a fault. -/
theorem report_flow (hstack : site.stack = [.boundary, .gate g])
    (hhttp : m.session.request.hasType "http" = true) :
    Ending.report (site.flow.run m) =
      let report := Ending.report (goOn (m.opened >>= g.descend 0) site.routing)
      (report.1, report.2 ++ (amends true report.1 (Trace.messages report.2)).map .sent) := by
  unfold flow
  rw [report_shielded, Stack.report_run_flow, hstack, descend_layers hhttp, hhttp]

/-- What a client gets to see of a request is settled behind the gate. -/
theorem shown_flow (hstack : site.stack = [.boundary, .gate g])
    (hhttp : m.session.request.hasType "http" = true) :
    Ending.shown (site.flow.run m) =
      let shown := Ending.shown (goOn (m.opened >>= g.descend 0) site.routing)
      (shown.1, shown.2 ++ amends true shown.1 shown.2) := by
  refine shown_of_report hhttp ?_
  rw [Stack.report_run_flow, hstack, descend_layers hhttp]
  rfl

end

end Site

end Turnstile
