import Mathlib.Data.List.Find
import Turnstile.Codec.Usual
import Turnstile.Proofs.Actions
import Turnstile.Proofs.Admission
import Turnstile.Proofs.Blind
import Turnstile.Proofs.Refusal

namespace Turnstile

/-!
# Credentials that leave no trace

A site treats a request whose credentials come to nothing as one that presents none.

* `Route.Blind`, `Site.blind_routing` — routes that do not look at credentials, and the course of a
  request through them;
* `Gate.Futile`, `Gate.descend_of_futile` — credentials that come to nothing, and the way through a
  gate with them;
* `Site.shown_flow_bare` — what a client gets to see, with and without such credentials;
* `Trace.Uncalled`, `Site.uncalled_flow` — requests for which nobody is called;
* `Site.failures_leave_no_trace` — **failures leave no trace**.
-/

/-! ### Routes that do not look at credentials -/

/-- A route that leads to the same place in the same way whatever credentials there are. -/
structure Route.Blind (route : Route) : Prop where
  fit : ∀ r : Request, route.fit r.bare = route.fit r
  handle : route.handle.Blind

theorem Flow.blind_reply (response : Except Fault Http.Response) : (reply response).Blind := by
  unfold reply
  cases response with
  | error fault => trivial
  | ok r => exact (Flow.blind_send _).bind fun _ => trivial

/-- A place answers by what it sees of the identity of a request. -/
theorem Route.blind_atPlace (place : Text) (answer : Observation → Except Fault Http.Response) :
    (atPlace place answer).Blind where
  fit := fun _ => rfl
  handle := by
    refine Flow.blind_view_bind (fun v v' hv => ?_) fun v => Flow.blind_reply _
    have hmethod : v.request.method = v'.request.method := by
      show v.request.bare.method = v'.request.bare.method
      rw [hv.request]
    rw [hmethod, hv.here]

namespace Site

/-- The header that names the host of a request is none of those that are taken away. -/
theorem host?_bare (r : Request) : host? r.bare = host? r := by
  have hfind : (r.bare.headers.getD []).find? (fun h => Http.latin1 h.name == Text.toList "host") =
      (r.headers.getD []).find? fun h => Http.latin1 h.name == Text.toList "host" := by
    rw [Request.headers_bare, List.find?_filter]
    refine congrArg (List.find? · _) (funext fun h => ?_)
    cases hname : Http.latin1 h.name == Text.toList "host" with
    | false => simp
    | true =>
      -- a name that is `host` is left alone when it is put into small letters
      have hkey : h.key = "host" := by
        unfold Http.RawHeader.key
        rw [beq_iff_eq.1 hname]
        rfl
      rw [hkey]
      rfl
  unfold host?
  rw [hfind]

/-- So the place of a path is the same. -/
theorem address_bare (r : Request) (path : Text) : address r.bare path = address r path := by
  unfold address place
  rw [host?_bare]
  rfl

section

variable {site : Site} (hroutes : ∀ route ∈ site.routes, route.Blind)

include hroutes

theorem route?_bare (r : Request) : site.route? r.bare = site.route? r := by
  have hfind : ∀ fit, (site.routes.find? fun route => route.fit r.bare == fit) =
      site.routes.find? fun route => route.fit r == fit := fun fit =>
    List.find?_congr fun route hmem => by rw [(hroutes route hmem).fit]
  unfold route?
  rw [hfind, hfind]

theorem unrouted_bare (r : Request) : site.unrouted r.bare = site.unrouted r := by
  have hother : ∀ path, (site.routes.any fun route => route.fit (goingTo r.bare path) != .none) =
      site.routes.any fun route => route.fit (goingTo r path) != .none := by
    intro path
    rw [Bool.eq_iff_iff, List.any_eq_true, List.any_eq_true]
    refine exists_congr fun route => and_congr_right fun hmem => ?_
    rw [← (hroutes route hmem).fit (goingTo r path)]
    rfl
  have hpath : r.bare.pathText = r.pathText := rfl
  unfold unrouted
  simp only [hother, hpath, address_bare]

/-- **Blind routes** make a course of a request that does not look at credentials. -/
theorem blind_routing : site.routing.Blind := by
  refine Flow.blind_view_bind (fun v v' hv => ?_) fun v => ?_
  · -- both requests are without their credentials what the other one is
    have htype : ∀ type, v.request.hasType type = v'.request.hasType type := by
      intro type
      show v.request.bare.hasType type = v'.request.bare.hasType type
      rw [hv.request]
    have hroute : site.route? v.request = site.route? v'.request := by
      rw [← route?_bare hroutes v.request, hv.request, route?_bare hroutes]
    have hunrouted : site.unrouted v.request = site.unrouted v'.request := by
      rw [← unrouted_bare hroutes v.request, hv.request, unrouted_bare hroutes]
    simp only [htype, hroute, hunrouted]
  · dsimp only
    split
    · exact (Flow.blind_send _).bind fun _ => trivial
    · split
      · split
        · rename_i route hroute
          refine (hroutes route ?_).handle
          rcases Option.or_eq_some_iff.1 hroute with hfound | ⟨-, hfound⟩ <;>
            exact List.mem_of_find?_eq_some hfound
        · split
          · exact Flow.blind_reply _
          · exact (Flow.blind_send _).bind fun _ => trivial
      · trivial

end

end Site

/-! ### Credentials that come to nothing -/

namespace Machine

variable {m : Machine}

/-- What is written to the log, and who is called, makes no difference. -/
theorem alike_tell (m : Machine) {events : Trace} (h : Trace.messages events = []) :
    m.Alike (m.tell events) := by
  refine ⟨rfl, rfl, rfl, rfl, rfl, ?_⟩
  show _ = Trace.messages (m.session.trace ++ events)
  rw [Trace.messages_append, h, List.append_nil]

/-- To empty a context that is empty is to do nothing. -/
theorem putBound_none_of_empty (h : m.observation.identity = none) : m.putBound none = m := by
  cases hbound : m.session.binding.bound with
  | none => exact Machine.putBound_of_unbound hbound none
  | some id =>
    have hempty : m.shared.contexts.get id = none := by
      rwa [Machine.observation_identity, Contexts.current, hbound] at h
    rw [Machine.putBound_of_bound hbound, Contexts.put_none_of_empty hempty]
    rfl

end Machine

namespace Gate

variable {g : Gate} {m : Machine}

/-- A header value comes to nothing at a gate: it carries no credentials, or the authenticator
    rejects them and rejections are to be ignored. -/
def Futile (g : Gate) (header : Option Text) : Prop :=
  (∃ skip, Credentials.read g.registry g.charset header = .ok (.error skip)) ∨
    g.ignoreFailure = true ∧ ∃ c r, Credentials.read g.registry g.charset header = .ok (.ok c) ∧
      (g.authenticator.answer c).reply = .error (.rejected r)

/-- A missing header value comes to nothing. -/
theorem futile_none (g : Gate) : g.Futile none :=
  .inl ⟨.absent, rfl⟩

/-- A header value without credentials leaves no more than an entry in the log. -/
theorem descend_of_skip (hempty : m.observation.identity = none) {skip : Skip}
    (h : Credentials.read g.registry g.charset m.session.request.authorization =
      .ok (.error skip))
    (number : Nat) :
    g.descend number m = .ok (m.tell (skip.note?.toList.map .logged)) := by
  unfold descend
  dsimp only
  rw [run_evaluate_of_empty hempty, Machine.view_request, h]
  rfl

/-- Credentials whose rejection is ignored leave what the authenticator was asked, and a warning. -/
theorem descend_of_ignored (hempty : m.observation.identity = none) {c : Credentials}
    {r : Rejection}
    (h : Credentials.read g.registry g.charset m.session.request.authorization = .ok (.ok c))
    (hreply : (g.authenticator.answer c).reply = .error (.rejected r))
    (hignored : g.ignoreFailure = true) (number : Nat) :
    g.descend number m = .ok (m.tell (g.asking number c ++
      [.logged (warning m.session.request.pathText c.username r)])) := by
  have hempty' : (m.tell (g.asking number c)).observation.identity = none := hempty
  unfold descend
  dsimp only
  rw [run_evaluate_of_empty hempty, Machine.view_request, h]
  dsimp only
  rw [run_attempt, run_settle, hreply]
  dsimp only
  -- the gate empties the context, which has been empty
  rw [hignored, Machine.putBound_none_of_empty hempty', Machine.tell_tell]
  rfl

/-- **Nothing to show.**  Credentials that come to nothing let a request through, and nothing is
    to be seen of them. -/
theorem descend_of_futile (hempty : m.observation.identity = none)
    (h : g.Futile m.session.request.authorization) (number : Nat) :
    ∃ m', g.descend number m = .ok m' ∧ m.Alike m' := by
  rcases h with ⟨skip, hread⟩ | ⟨hignored, c, r, hread, hreply⟩
  · exact ⟨_, descend_of_skip hempty hread number, m.alike_tell (Trace.messages_logged _)⟩
  · refine ⟨_, descend_of_ignored hempty hread hreply hignored number, m.alike_tell ?_⟩
    rw [Trace.messages_append, messages_asking]
    rfl

end Gate

/-! ### The same to the client -/

/-- A machine with every `Authorization` header of its request taken away. -/
def Machine.bare (m : Machine) : Machine :=
  { m with session := { m.session with request := m.session.request.bare } }

theorem Request.authorization_bare (r : Request) : r.bare.authorization = none := by
  unfold authorization
  rw [headers_bare, Http.header?_filter_ne]

/-- On machines that are alike a client gets to see the same of a blind flow. -/
theorem Flow.Blind.shown {f : Flow Outcome} (hf : f.Blind) {m m' : Machine} (h : m.Alike m') :
    Ending.shown (f.run m) = Ending.shown (f.run m') := by
  obtain ⟨houtcome, hleft⟩ := hf.run h
  exact Prod.ext houtcome hleft.messages

namespace Site

variable {site : Site} {g : Gate} {m : Machine}

/-- A gate at which credentials come to nothing might as well not be there. -/
theorem shown_of_futile {app : Flow Outcome} (happ : app.Blind)
    (h : g.Futile m.session.request.authorization) :
    Ending.shown (goOn (m.opened >>= g.descend 0) app) = Ending.shown (goOn m.opened app) := by
  unfold Machine.opened
  split
  · obtain ⟨m', hdescend, halike⟩ := Gate.descend_of_futile (Gate.identity_enter m) h 0
    show Ending.shown (goOn (g.descend 0 (Action.enter.apply m)) app) = _
    rw [hdescend]
    exact (happ.shown halike).symm
  · rfl

/-- Without a gate the `Authorization` headers of a request make no difference. -/
theorem shown_bare {app : Flow Outcome} (happ : app.Blind) (m : Machine) :
    Ending.shown (goOn m.bare.opened app) = Ending.shown (goOn m.opened app) := by
  have hkeeps : m.bare.session.request.keepsState = m.session.request.keepsState := rfl
  have halike : m.bare.Alike m := ⟨m.session.request.bare_bare, rfl, rfl, rfl, rfl, rfl⟩
  unfold Machine.opened
  rw [hkeeps]
  split
  · exact happ.shown (halike.apply .enter)
  · rfl

/-- **The same to the client.**  A request whose credentials come to nothing looks like one that
    presents none. -/
theorem shown_flow_bare (hroutes : ∀ route ∈ site.routes, route.Blind)
    (hstack : site.stack = [.boundary, .gate g])
    (hhttp : m.session.request.hasType "http" = true)
    (h : g.Futile m.session.request.authorization) :
    Ending.shown (site.flow.run m) = Ending.shown (site.flow.run m.bare) := by
  have hbare : g.Futile m.bare.session.request.authorization := by
    show g.Futile m.session.request.bare.authorization
    rw [Request.authorization_bare]
    exact g.futile_none
  have hhttp' : m.bare.session.request.hasType "http" = true := hhttp
  have hblind := blind_routing hroutes
  -- on both sides the gate goes first, and then the headers
  rw [shown_flow hstack hhttp, shown_flow hstack hhttp', shown_of_futile hblind h,
    shown_of_futile hblind hbare, shown_bare hblind]

end Site

/-! ### Nobody called -/

/-- Neither the authenticator nor the entry point of the gate of that number has been called. -/
def Trace.Uncalled (t : Trace) (number : Nat) : Prop :=
  ∀ e ∈ t, e.consultation? number = none ∧ e.delegation? number = none

namespace Trace

variable {t t' : Trace} {number : Nat}

theorem Uncalled.append (h : t.Uncalled number) (h' : t'.Uncalled number) :
    Uncalled (t ++ t') number :=
  List.forall_mem_append.2 ⟨h, h'⟩

theorem Uncalled.calls (h : t.Uncalled number) :
    consultations number t = [] ∧ delegations number t = [] :=
  ⟨List.filterMap_eq_nil_iff.2 fun e he => (h e he).1,
    List.filterMap_eq_nil_iff.2 fun e he => (h e he).2⟩

theorem uncalled_logged (entries : List LogEntry) : Uncalled (entries.map .logged) number :=
  List.forall_mem_map.2 fun _ _ => ⟨rfl, rfl⟩

theorem uncalled_sent (messages : List Http.Message) : Uncalled (messages.map .sent) number :=
  List.forall_mem_map.2 fun _ _ => ⟨rfl, rfl⟩

end Trace

namespace Site

variable {site : Site} {g : Gate} {m : Machine}

/-- Where the first header value carries no credentials, nobody is called. -/
theorem uncalled_flow (hstack : site.stack = [.boundary, .gate g])
    (hhttp : m.session.request.hasType "http" = true) (htrace : m.session.trace.Uncalled 0)
    {skip : Skip}
    (h : Credentials.read g.registry g.charset m.session.request.authorization =
      .ok (.error skip)) :
    (Ending.report (site.flow.run m)).2.Uncalled 0 := by
  rw [report_flow hstack hhttp]
  refine Trace.Uncalled.append ?_ (Trace.uncalled_sent _)
  unfold Machine.opened
  split
  · have hdescend := Gate.descend_of_skip (m := Action.enter.apply m) (Gate.identity_enter m) h 0
    show (Ending.report (goOn (g.descend 0 (Action.enter.apply m)) site.routing)).2.Uncalled 0
    rw [hdescend]
    obtain ⟨events, hleft, hevents⟩ := site.uncalling_routing.exists_trace
      ((Action.enter.apply m).tell (skip.note?.toList.map .logged))
    show Trace.Uncalled (site.routing.run _).2.session.trace 0
    rw [hleft]
    exact (htrace.append (Trace.uncalled_logged _)).append hevents
  · exact htrace

/-- **Failures leave no trace.**  No route of a site looks at credentials.  The site handles a
    request over HTTP whose first `Authorization` header carries no credentials, or carries some
    that the authenticator rejects while rejections are to be ignored.  To the client it is as if
    there were no `Authorization` header at all: the same messages are sent, and the same fault
    comes out, if any.  Where the first header carries no credentials, neither the authenticator nor
    the entry point of the gate is called, whatever there is in further headers. -/
theorem failures_leave_no_trace {registry : Registry} {a : Authenticator}
    {entryPoint : Option EntryPoint} {realm : Text} {ignoreFailure : Bool} {routes : List Route}
    (hroutes : ∀ route ∈ routes, route.Blind) {site : Site}
    (hmake : make registry (some a) entryPoint realm ignoreFailure routes = .ok site)
    {scope : Scope} (hhttp : scope.request.hasType "http" = true) (s : Shared) :
    let first := Admission.authorization (scope.request.headers.getD [])
    let handled := (handle site.flow scope s).1
    let anonymous := (handle site.flow { scope with request := scope.request.bare } s).1
    ((Admission.decoded registry first = none ∨ ignoreFailure = true ∧ ∃ c r,
        Admission.decoded registry first = some c ∧
          (a.answer c).reply = .error (.rejected r)) →
      handled.outcome = anonymous.outcome ∧
        Trace.messages handled.session.trace = Trace.messages anonymous.session.trace) ∧
    (Admission.decoded registry first = none →
      Trace.consultations 0 handled.session.trace = [] ∧
        Trace.delegations 0 handled.session.trace = []) := by
  intro first handled anonymous
  obtain ⟨e, -, hsite⟩ := eq_of_make hmake
  let g : Gate := ⟨a, e, ignoreFailure, defaultCharset, registry⟩
  have hstack : site.stack = [.boundary, .gate g] := congrArg Site.stack hsite
  have hall : ∀ route ∈ site.routes, route.Blind := by
    rw [hsite]
    exact List.forall_mem_cons.2 ⟨Route.blind_atPlace .., List.forall_mem_cons.2
      ⟨Route.blind_atPlace .., hroutes⟩⟩
  -- the first header is the one that the gate reads
  have hfirst : (scope.arrived s).session.request.authorization = first :=
    Http.header?_eq_find? _ _
  refine ⟨fun hcomes => ?_, fun hnone => ?_⟩
  · have hfutile : g.Futile (scope.arrived s).session.request.authorization := by
      rw [hfirst]
      rcases hcomes with hnone | ⟨hignored, c, r, hsome, hreply⟩
      · exact .inl (Admission.read_of_undecoded hnone)
      · exact .inr ⟨hignored, c, r, Admission.read_of_decoded hsome, hreply⟩
    have hanonymous : (anonymous.outcome, Trace.messages anonymous.session.trace) =
        Ending.shown (site.flow.run (scope.arrived s).bare) := shown_handle ..
    have hshown := (shown_handle ..).trans (shown_flow_bare hall hstack hhttp hfutile)
    exact Prod.mk.inj (hshown.trans hanonymous.symm)
  · obtain ⟨skip, hread⟩ := Admission.read_of_undecoded hnone
    have hskip : Credentials.read g.registry g.charset
        (scope.arrived s).session.request.authorization = .ok (.error skip) := hfirst ▸ hread
    have huncalled := uncalled_flow hstack (m := scope.arrived s) hhttp nofun hskip
    have hsession : handled.session = (site.flow.run (scope.arrived s)).2.session :=
      session_handle ..
    rw [hsession]
    exact huncalled.calls

/-- A place that takes requests of the method `POST` from those who have an identity, and fails for
    all others. -/
def visitors : Route where
  fit := fun r => if r.method == "POST" && Route.leadsTo "/visits" r.pathText then .fully else .none
  handle := do
    let v ← Flow.view
    Flow.reply (match v.here.identity with
      | none => .error (.foreign .runtime "nobody is visiting")
      | some i => Http.Response.json (.text i.id))
  uncalling := fun _ => Flow.uncalling_reply _

theorem blind_visitors : visitors.Blind where
  fit := fun _ => rfl
  handle := Flow.blind_view_bind (fun v v' hv => by rw [hv.here]) fun _ => Flow.blind_reply _

/-- A payload that is no base64 in front of the right password, and a wrong password that is
    forgiven, where nobody is let in without an identity. -/
theorem failures_leave_no_trace_rod :
    let bytes (text : Text) : List UInt8 := text.toList.map fun c => UInt8.ofNat c.toNat
    let header (value : Text) : Http.RawHeader := ⟨bytes "Authorization", bytes value⟩
    let store := (Store.empty true).put ⟨"rod", "koala", [], true⟩
    let visit (headers : List Http.RawHeader) : Request :=
      { type := some (.text "http"), path := some (.text "/visits"), headers := some headers,
        method := "POST" }
    let garbled := visit [header "Basic koala!", header "Basic cm9kOmtvYWxh"]
    let wrong := visit [header "Basic cm9kOndvbWJhdA=="]
    ∃ site, make .usual (some store.authenticator) none defaultRealm true [visitors] = .ok site ∧
      ∀ s,
        let handled (r : Request) := (handle site.flow ⟨r, none⟩ s).1
        let messages (r : Request) := Trace.messages (handled r).session.trace
        garbled.hasType "http" = true ∧ (handled garbled).outcome = (handled garbled.bare).outcome ∧
          messages garbled = messages garbled.bare ∧
          Trace.consultations 0 (handled garbled).session.trace = [] ∧
          wrong.hasType "http" = true ∧ (handled wrong).outcome = (handled wrong.bare).outcome ∧
          messages wrong = messages wrong.bare := by
  intro bytes header store visit garbled wrong
  have hmake := make_of_challenge .usual store.authenticator true ⟨defaultRealm, by decide⟩
    [visitors]
  have hroutes : ∀ route ∈ [visitors], route.Blind := List.forall_mem_singleton.2 blind_visitors
  have hgarbled : Admission.decoded .usual (Admission.authorization (garbled.headers.getD [])) =
      none := by
    decide +kernel
  have hwrong : Admission.decoded .usual (Admission.authorization (wrong.headers.getD [])) =
      some ⟨"rod", "wombat"⟩ := by
    decide +kernel
  refine ⟨_, hmake, fun s => ?_⟩
  have hhttp : (Scope.mk garbled none).request.hasType "http" = true := rfl
  have hhttp' : (Scope.mk wrong none).request.hasType "http" = true := rfl
  obtain ⟨hsame, huncalled⟩ := failures_leave_no_trace hroutes hmake hhttp s
  obtain ⟨hsame', -⟩ := failures_leave_no_trace hroutes hmake hhttp' s
  have hforgiven := hsame' (.inr ⟨rfl, _, _, hwrong, rfl⟩)
  exact ⟨rfl, (hsame (.inl hgarbled)).1, (hsame (.inl hgarbled)).2, (huncalled hgarbled).1, rfl,
    hforgiven.1, hforgiven.2⟩

end Site

end Turnstile
