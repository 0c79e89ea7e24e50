import Turnstile.Codec.Usual
import Turnstile.Proofs.Challenge
import Turnstile.Proofs.Credentials.RoundTrip
import Turnstile.Proofs.Http.Headers
import Turnstile.Proofs.Passage
import Turnstile.Proofs.Site
import Turnstile.Proofs.Store
import Turnstile.Proofs.Text.Writable
import Turnstile.Proofs.UserMap

namespace Turnstile

/-!
# Who is let in

What a site whose accounts come from a user map answers to the question who is asking.

* `Admission` — the rule: the first `Authorization` header, read as UTF-8, against the last account
  of its username;
* `Gate.pass_of_skip`, `Gate.pass_of_decoded`, `Gate.ask_of_accepted`, `Gate.ask_of_rejected` — what
  a gate makes of a request, by the reply of its authenticator;
* `Site.writable_report_iff` — the identities that can be reported to their owners;
* `Site.Follows`, `Site.Fails` — what a site does with a request follows the rule, or the site fails
  at a text that can not be written;
* `Site.handle_of_admission` — **every request is answered by the rule**, and where it is refused,
  no route has been run, as long as UTF-8 can write the account that comes into question.
-/

/-! ### The rule -/

/-- What a site makes of a request. -/
inductive Admission
  /-- The request presents no credentials. -/
  | anonymous
  | admitted (username : Text) (roles : List Text)
  | refused (words : String)

namespace Admission

/-- The value of the first header with the name `authorization` in small letters. -/
def authorization (headers : List Http.RawHeader) : Option Text :=
  (headers.find? fun h => h.key == ("authorization" : Text)).map Http.RawHeader.text

/-- The credentials in a header value, if there are any, in UTF-8. -/
def decoded (registry : Registry) (value : Option Text) : Option Credentials :=
  match Credentials.read registry defaultCharset value with
  | .ok (.ok c) => some c
  | _ => none

/-- The last account of the username must be enabled and have that very password. -/
def ofCredentials (accounts : List Account) (c : Credentials) : Admission :=
  match Account.last? accounts c.username with
  | none => .refused "Bad credentials"
  | some a =>
    if a.enabled = true ∧ a.password = c.password then .admitted c.username a.roles
    else .refused (if a.enabled then "Bad credentials" else "User is disabled")

/-- The rule. -/
def ofHeaders (registry : Registry) (accounts : List Account) (headers : List Http.RawHeader) :
    Admission :=
  match decoded registry (authorization headers) with
  | none => .anonymous
  | some c => ofCredentials accounts c

/-- The response to a request without an identity. -/
def anonymousResponse : Except Fault Http.Response :=
  Http.Response.json
    (.record [("authenticated", .bool false), ("id", .null), ("roles", .list [])])

/-- The response to a request. -/
def response (challenge : Challenge) (ignoreFailure : Bool) :
    Admission → Except Fault Http.Response
  | .anonymous => anonymousResponse
  | .admitted username roles => Http.Response.json (.record
      [("authenticated", .bool true), ("id", .text username), ("type", .text "user"),
       ("roles", .list (roles.map .text))])
  | .refused words =>
    if ignoreFailure then anonymousResponse
    else .ok (.notice 401 [("www-authenticate", challenge.text)] words)

/-- UTF-8 can write the account that credentials name: its password, if it is enabled, and its
    roles, if the password is the one presented. -/
def Written (accounts : List Account) (c : Credentials) : Prop :=
  ∀ a, Account.last? accounts c.username = some a → a.enabled = true →
    a.password.Writable ∧ (a.password = c.password → ∀ role ∈ a.roles, role.Writable)

variable {registry : Registry} {value : Option Text} {c : Credentials}

/-- In UTF-8 credentials can always be read, or they are skipped. -/
theorem exists_read_default (registry : Registry) (value : Option Text) :
    ∃ d, Credentials.read registry defaultCharset value = .ok d :=
  Credentials.exists_read_of_charset registry.lookup_utf8 value

/-- A header value without credentials is skipped. -/
theorem read_of_undecoded (h : decoded registry value = none) :
    ∃ skip, Credentials.read registry defaultCharset value = .ok (.error skip) := by
  obtain ⟨d, hread⟩ := exists_read_default registry value
  unfold decoded at h
  rw [hread] at h
  cases d with
  | error skip => exact ⟨skip, hread⟩
  | ok c => nomatch h

theorem read_of_decoded (h : decoded registry value = some c) :
    Credentials.read registry defaultCharset value = .ok (.ok c) := by
  unfold decoded at h
  split at h
  · rename_i hread
    rw [← Option.some.inj h]
    exact hread
  · nomatch h

/-- UTF-8 can write the credentials. -/
theorem writable_of_decoded (h : decoded registry value = some c) :
    c.username.Writable ∧ c.password.Writable :=
  Credentials.writable_of_read registry.lookup_utf8 (read_of_decoded h)

end Admission

/-! ### At the gate -/

namespace Gate

variable {g : Gate} {r : Request} {p : Passage}

/-- A header value without credentials lets a request go on without an identity. -/
theorem pass_of_skip (hslot : p.slot.join = none) {skip : Skip}
    (h : Credentials.read g.registry g.charset r.authorization = .ok (.error skip)) :
    ∃ events, Trace.messages events = [] ∧ g.pass r p = .ok (p.through none events) := by
  refine ⟨skip.note?.toList.map .logged, Trace.messages_logged _, ?_⟩
  unfold Gate.pass
  rw [hslot, h]

/-- Credentials are put to the authenticator. -/
theorem pass_of_decoded (hslot : p.slot.join = none) {c : Credentials}
    (h : Credentials.read g.registry g.charset r.authorization = .ok (.ok c)) :
    g.pass r p = g.ask r p c := by
  unfold Gate.pass
  rw [hslot, h]

variable {c : Credentials}

/-- Credentials that are accepted fill the slot. -/
theorem ask_of_accepted {identity : Identity}
    (h : (g.authenticator.answer c).reply = .ok (some identity)) :
    ∃ events, Trace.messages events = [] ∧
      g.ask r p c = .ok (p.through (some identity) events) := by
  refine ⟨g.asking p.gates c ++ [.logged (success c.username)], ?_, ?_⟩
  · rw [Trace.messages_append, g.messages_asking]
    rfl
  · unfold Gate.ask
    rw [h]

/-- Credentials that are rejected let a request go on without an identity, if rejections are to be
    ignored, and otherwise the entry point answers. -/
theorem ask_of_rejected {f : Rejection}
    (h : (g.authenticator.answer c).reply = .error (.rejected f)) :
    ∃ events, Trace.messages events = [] ∧ g.ask r p c =
      if g.ignoreFailure then .ok (p.through none events)
      else .error ((g.entryPoint.commence r (some (.rejected f))).outcome,
        p.trace ++ events ++ g.delegation p.gates r f) := by
  refine ⟨g.asking p.gates c ++ [.logged (warning r.pathText c.username f)], ?_, ?_⟩
  · rw [Trace.messages_append, g.messages_asking]
    rfl
  · unfold Gate.ask
    rw [h]

/-- Any other fault of the authenticator comes out as it is. -/
theorem ask_of_fault {fault : Fault} (h : (g.authenticator.answer c).reply = .error fault)
    (hfault : ∀ f, fault ≠ .rejected f) :
    ∃ events, Trace.messages events = [] ∧
      g.ask r p c = .error (.error fault, p.trace ++ events) := by
  refine ⟨g.asking p.gates c, g.messages_asking .., ?_⟩
  unfold Gate.ask
  rw [h]
  cases fault with
  | rejected f => exact absurd rfl (hfault f)
  | _ => rfl

end Gate

/-! ### At the site -/

namespace Site

/-- An identity can be reported if UTF-8 can write its name, its type and its roles. -/
theorem writable_report_iff {i : Identity} :
    (report (some i)).json.Writable ↔
      i.id.Writable ∧ i.type.Writable ∧ ∀ role ∈ i.roles, role.Writable := by
  rw [← writable_texts_iff i.roles, ← writable_jsonText_iff (s := i.id),
    ← writable_jsonText_iff (s := i.type)]
  have hmembers : (report (some i)).json = Dialect.json.enclosed "\x7b"
      [jsonText "authenticated" ++ (":" : String) ++ ("true" : String),
        jsonText "id" ++ (":" : String) ++ jsonText i.id,
        jsonText "type" ++ (":" : String) ++ jsonText i.type,
        jsonText "roles" ++ (":" : String) ++ (Value.list (i.roles.map .text)).json] "\x7d" := by
    simp only [report, Value.json, Value.write, Value.writeMembers]
    rfl
  rw [hmembers, writable_enclosed_iff]
  simp [writable_jsonText_iff]

/-- A request over HTTP for the path that tells who is making it. -/
def whoamiRequest (headers : List Http.RawHeader) (query : List UInt8) : Request where
  type := some (.text "http")
  path := some (.text "/whoami")
  headers := some headers
  query := query

/-- The gate of a site whose accounts are in a store. -/
def gate (registry : Registry) (store : Store) (challenge : Challenge) (ignoreFailure : Bool) :
    Gate where
  authenticator := store.authenticator
  entryPoint := challenge.entryPoint
  ignoreFailure := ignoreFailure
  charset := defaultCharset
  registry := registry

/-- The layers of such a site. -/
def layers (registry : Registry) (store : Store) (challenge : Challenge) (ignoreFailure : Bool) :
    Stack :=
  [.boundary, .gate (gate registry store challenge ignoreFailure)]

/-- The route answers with the identity that is in the bound context. -/
theorem run_routing_whoami (stack : Stack) (routes : List Route) {m : Machine}
    {headers : List Http.RawHeader} {query : List UInt8}
    (h : m.session.request = whoamiRequest headers query) :
    (routing ⟨stack, health :: whoami :: routes⟩).run m =
      (Flow.reply (Http.Response.json
        (report (m.shared.contexts.current m.session.binding)))).run m := by
  have hroute : route? ⟨stack, health :: whoami :: routes⟩ (whoamiRequest headers query) =
      some whoami := rfl
  have hlifespan : (whoamiRequest headers query).hasType "lifespan" = false := rfl
  have hhttp : (whoamiRequest headers query).hasType "http" = true := rfl
  have hreading : Route.isReading (whoamiRequest headers query).method = true := rfl
  have hwhoami : whoami.handle.run m = (Flow.reply (Http.Response.json
      (report (m.shared.contexts.current m.session.binding)))).run m := by
    show (Flow.reply (if Route.isReading m.view.request.method = true then _ else _)).run m = _
    rw [Machine.view_request, h, if_pos hreading]
    rfl
  unfold routing
  rw [Flow.run_view_bind, Machine.view_request, h]
  dsimp only
  rw [hlifespan, hhttp, hroute]
  exact hwhoami

section

variable {registry : Registry} {store : Store} {challenge : Challenge} {ignoreFailure : Bool}
  {routes : List Route} {headers : List Http.RawHeader} {query : List UInt8}
  {state : Option ScopeState} {s : Shared}

/-- Inside the boundary a request comes to the gate with an empty slot. -/
theorem fold_layers :
    Stack.fold (layers registry store challenge ignoreFailure) (whoamiRequest headers query)
        ⟨none, 0, []⟩ =
      (gate registry store challenge ignoreFailure).pass (whoamiRequest headers query)
        ⟨some none, 0, []⟩ := by
  have hboundary : Layer.pass (whoamiRequest headers query) ⟨none, 0, []⟩ .boundary =
      .ok ⟨some none, 0, []⟩ := rfl
  unfold Stack.fold layers
  rw [List.foldlM_cons, hboundary]
  exact bind_pure (m := Except (Outcome × Trace)) _

/-- A request that the gate lets through is answered by the route, if the identity that it has can
    be reported, and otherwise the site fails. -/
theorem shown_of_through (routes : List Route) (state : Option ScopeState) (s : Shared)
    {slot : Option Identity} {events : Trace} (hevents : Trace.messages events = [])
    (hpass : (gate registry store challenge ignoreFailure).pass (whoamiRequest headers query)
        ⟨some none, 0, []⟩ = .ok (Passage.through ⟨some none, 0, []⟩ slot events)) :
    let shown := Ending.shown
      ((flow ⟨layers registry store challenge ignoreFailure, health :: whoami :: routes⟩).run
        (Scope.arrived ⟨whoamiRequest headers query, state⟩ s))
    (∀ r, Http.Response.json (report slot) = .ok r → shown = (.ok (), r.messages false)) ∧
      ∀ e, Http.Response.json (report slot) = .error (.unencodable e) →
        shown = (.error (.unencodable e), failure.messages false) := by
  intro shown
  have hscope : s.nextScope < (s.addScope state).states.length := s.nextScope_lt_addScope state
  obtain ⟨m', hreached, hrun⟩ := Stack.report_of_fold_ok
    (m := Scope.arrived ⟨whoamiRequest headers query, state⟩ s) rfl hscope rfl
    (fold_layers.trans hpass)
  have hreport := hrun
    (routing ⟨layers registry store challenge ignoreFailure, health :: whoami :: routes⟩)
  have hcurrent : m'.shared.contexts.current m'.session.binding = slot := hreached.current rfl
  rw [run_routing_whoami _ routes hreached.request, hcurrent] at hreport
  -- the gate has sent nothing, so that all there is to see is what the route has sent
  have htrace : Trace.messages m'.session.trace = [] := by
    rw [hreached.trace]
    exact hevents
  constructor
  · intro r hr
    rw [hr, Flow.run_reply_ok] at hreport
    refine (shown_of_report rfl hreport).trans ?_
    show (_, Trace.messages (m'.session.trace ++ _) ++ _) = _
    rw [amends_ok, List.append_nil, Trace.messages_append, Trace.messages_sent, htrace]
    rfl
  · intro e he
    rw [he, Flow.run_reply_error] at hreport
    refine (shown_of_report rfl hreport).trans ?_
    rw [htrace]
    rfl

/-- A request that the gate does not let through is answered by the entry point, whatever there is
    behind the gate. -/
theorem report_of_ended {verdict : Outcome × Trace}
    (hpass : (gate registry store challenge ignoreFailure).pass (whoamiRequest headers query)
        ⟨some none, 0, []⟩ = .error verdict)
    (app : Flow Outcome) :
    Ending.report ((Stack.flow (layers registry store challenge ignoreFailure) app).run
      (Scope.arrived ⟨whoamiRequest headers query, state⟩ s)) = verdict :=
  Stack.report_of_fold_error (m := Scope.arrived ⟨whoamiRequest headers query, state⟩ s) rfl
    (s.nextScope_lt_addScope state) rfl (fold_layers.trans hpass) app

/-- What a site does with a request follows the rule. -/
structure Follows (site : Site) (challenge : Challenge) (ignoreFailure : Bool)
    (admission : Admission) (scope : Scope) (s : Shared) : Prop where
  outcome : (handle site.flow scope s).1.outcome = .ok ()
  messages : ∃ r, admission.response challenge ignoreFailure = .ok r ∧
    Trace.messages (handle site.flow scope s).1.session.trace = r.messages false
  /-- A refused request would leave the same trace whatever there was in the place of the routes. -/
  unrouted : ∀ words, admission = .refused words → ignoreFailure = false → ∀ app,
    (handle (shielded (Stack.flow site.stack app)) scope s).1.outcome = .ok () ∧
      (handle (shielded (Stack.flow site.stack app)) scope s).1.session.trace =
        (handle site.flow scope s).1.session.trace

/-- A site fails at a text that can not be written, and tells the client no more than that. -/
structure Fails (site : Site) (scope : Scope) (s : Shared) : Prop where
  outcome : ∃ e, (handle site.flow scope s).1.outcome = .error (.unencodable e)
  messages : Trace.messages (handle site.flow scope s).1.session.trace = failure.messages false

/-- What can not be written makes a site fail. -/
theorem fails_of_shown {site : Site} {scope : Scope} {e : Charset.Unencodable}
    (h : Ending.shown (site.flow.run (scope.arrived s)) =
      (.error (.unencodable e), failure.messages false)) : Fails site scope s := by
  obtain ⟨houtcome, hmessages⟩ := Prod.mk.inj ((shown_handle ..).trans h)
  exact ⟨⟨e, houtcome⟩, hmessages⟩

/-- A request that the gate lets through is answered for its slot. -/
theorem follows_of_through {slot : Option Identity} {events : Trace} {admission : Admission}
    (hevents : Trace.messages events = [])
    (hpass : (gate registry store challenge ignoreFailure).pass (whoamiRequest headers query)
        ⟨some none, 0, []⟩ = .ok (Passage.through ⟨some none, 0, []⟩ slot events))
    (hwritable : (report slot).json.Writable)
    (hresponse : admission.response challenge ignoreFailure = Http.Response.json (report slot))
    (hignored : ∀ words, admission = .refused words → ignoreFailure = true) :
    Follows ⟨layers registry store challenge ignoreFailure, health :: whoami :: routes⟩ challenge
      ignoreFailure admission ⟨whoamiRequest headers query, state⟩ s := by
  obtain ⟨r, hr⟩ := Http.Response.exists_json_iff.2 hwritable
  obtain ⟨houtcome, hmessages⟩ := Prod.mk.inj
    ((shown_handle ..).trans ((shown_of_through routes state s hevents hpass).1 r hr))
  refine ⟨houtcome, ⟨r, hresponse.trans hr, hmessages⟩, fun words hwords hkept => ?_⟩
  rw [hignored words hwords] at hkept
  nomatch hkept

/-- A request that the gate does not let through is answered with the challenge. -/
theorem follows_of_ended {verdict : Trace} {words : String}
    (hpass : (gate registry store challenge false).pass (whoamiRequest headers query)
        ⟨some none, 0, []⟩ = .error (.ok (), verdict))
    (hmessages : Trace.messages verdict =
      (Http.Response.notice 401 [("www-authenticate", challenge.text)] words).messages false) :
    Follows ⟨layers registry store challenge false, health :: whoami :: routes⟩ challenge false
      (.refused words) ⟨whoamiRequest headers query, state⟩ s := by
  have hend : ∀ app : Flow Outcome,
      Ending.report ((shielded (Stack.flow (layers registry store challenge false) app)).run
        (Scope.arrived ⟨whoamiRequest headers query, state⟩ s)) = (.ok (), verdict) := by
    intro app
    rw [report_shielded, report_of_ended hpass app]
    simp
  have houtcome := fun app => (Prod.mk.inj (hend app)).1
  have htrace := fun app => (Prod.mk.inj (hend app)).2
  refine ⟨?_, ⟨_, rfl, ?_⟩, fun _ _ _ app => ⟨?_, ?_⟩⟩
  · exact (outcome_handle _ _ _).trans (houtcome _)
  · rw [session_handle]
    exact (congrArg Trace.messages (htrace _)).trans hmessages
  · exact (outcome_handle _ _ _).trans (houtcome app)
  · rw [session_handle, session_handle]
    exact (htrace app).trans (htrace _).symm

/-! ### By the answer of the store -/

/-- Nobody can be reported to everybody. -/
theorem writable_report_none : (report none).json.Writable := by
  decide

section

variable {c : Credentials}
  (hread : Credentials.read registry defaultCharset (whoamiRequest headers query).authorization =
    .ok (.ok c))

include hread

/-- Credentials that are rejected are refused in the words of the rejection. -/
theorem follows_of_rejected (hlatin : challenge.InLatin1) {f : Rejection} {words : String}
    (hwords : f.message = words) (hcheck : store.check c = .error (.rejected f)) :
    Follows ⟨layers registry store challenge ignoreFailure, health :: whoami :: routes⟩ challenge
      ignoreFailure (.refused words) ⟨whoamiRequest headers query, state⟩ s := by
  have hreply : (store.answer c).reply = .error (.rejected f) := by
    unfold Store.answer
    rw [hcheck]
    rfl
  have hentry : (gate registry store challenge ignoreFailure).entryPoint = challenge.entryPoint :=
    rfl
  obtain ⟨events, hevents, hask⟩ := Gate.ask_of_rejected
    (g := gate registry store challenge ignoreFailure) (r := whoamiRequest headers query)
    (p := ⟨some none, 0, []⟩) hreply
  have hpass := (Gate.pass_of_decoded rfl hread).trans hask
  cases ignoreFailure with
  | true => exact follows_of_through hevents hpass writable_report_none rfl fun _ _ => rfl
  | false =>
    -- the entry point answers at once, so that there is nothing to be routed
    have hkept : ¬ (gate registry store challenge false).ignoreFailure = true := Bool.false_ne_true
    have hnotice : Http.Response.plain 401 [("www-authenticate", challenge.text)] f.message =
        .ok (.notice 401 [("www-authenticate", challenge.text)] words) := by
      rw [hwords, Http.Response.plain_ofString]
    rw [if_neg hkept, hentry, Challenge.commence_rejected hlatin _ hnotice] at hpass
    refine follows_of_ended hpass ?_
    rw [Trace.messages_append, List.nil_append, hevents, List.nil_append,
      Gate.messages_delegation, hentry, Challenge.commence_rejected hlatin _ hnotice]
    rfl

/-- Credentials that are accepted are admitted, if the account can be reported. -/
theorem follows_of_accepted {a : Account} (hname : a.username.Writable)
    (hroles : ∀ role ∈ a.roles, role.Writable) (hcheck : store.check c = .ok a.identity) :
    Follows ⟨layers registry store challenge ignoreFailure, health :: whoami :: routes⟩ challenge
      ignoreFailure (.admitted a.username a.roles) ⟨whoamiRequest headers query, state⟩ s := by
  have hreply : (store.answer c).reply = .ok (some a.identity) := by
    unfold Store.answer
    rw [hcheck]
    rfl
  obtain ⟨events, hevents, hask⟩ := Gate.ask_of_accepted
    (g := gate registry store challenge ignoreFailure) (r := whoamiRequest headers query)
    (p := ⟨some none, 0, []⟩) hreply
  have hpass := (Gate.pass_of_decoded rfl hread).trans hask
  have hwritable : (report (some a.identity)).json.Writable :=
    writable_report_iff.2 ⟨hname, Text.writable_ofString "user", hroles⟩
  exact follows_of_through hevents hpass hwritable rfl fun _ h => nomatch h

/-- An account with roles that can not be written makes the site fail. -/
theorem fails_of_accepted {a : Account} (hroles : ¬ ∀ role ∈ a.roles, role.Writable)
    (hcheck : store.check c = .ok a.identity) :
    Fails ⟨layers registry store challenge ignoreFailure, health :: whoami :: routes⟩
      ⟨whoamiRequest headers query, state⟩ s := by
  have hreply : (store.answer c).reply = .ok (some a.identity) := by
    unfold Store.answer
    rw [hcheck]
    rfl
  obtain ⟨events, hevents, hask⟩ := Gate.ask_of_accepted
    (g := gate registry store challenge ignoreFailure) (r := whoamiRequest headers query)
    (p := ⟨some none, 0, []⟩) hreply
  have hpass := (Gate.pass_of_decoded rfl hread).trans hask
  have hunwritable : ¬ (report (some a.identity)).json.Writable :=
    fun h => hroles (writable_report_iff.1 h).2.2
  obtain ⟨e, he⟩ := Http.Response.json_of_unwritable hunwritable
  exact fails_of_shown ((shown_of_through routes state s hevents hpass).2 e he)

/-- So do credentials that can not be checked. -/
theorem fails_of_unchecked {e : Charset.Unencodable}
    (hcheck : store.check c = .error (.unencodable e)) :
    Fails ⟨layers registry store challenge ignoreFailure, health :: whoami :: routes⟩
      ⟨whoamiRequest headers query, state⟩ s := by
  have hreply : (store.answer c).reply = .error (.unencodable e) := by
    unfold Store.answer
    rw [hcheck]
    rfl
  obtain ⟨events, hevents, hask⟩ := Gate.ask_of_fault
    (g := gate registry store challenge ignoreFailure) (r := whoamiRequest headers query)
    (p := ⟨some none, 0, []⟩) hreply nofun
  have hpass := (Gate.pass_of_decoded rfl hread).trans hask
  refine fails_of_shown (e := e) ((shown_of_report rfl (report_of_ended hpass
    (routing ⟨layers registry store challenge ignoreFailure, health :: whoami :: routes⟩))).trans
      ?_)
  rw [List.nil_append, hevents]
  rfl

end

/-- Without credentials a request stays anonymous. -/
theorem follows_of_undecoded {skip : Skip}
    (hread : Credentials.read registry defaultCharset (whoamiRequest headers query).authorization =
      .ok (.error skip)) :
    Follows ⟨layers registry store challenge ignoreFailure, health :: whoami :: routes⟩ challenge
      ignoreFailure .anonymous ⟨whoamiRequest headers query, state⟩ s := by
  obtain ⟨events, hevents, hpass⟩ := Gate.pass_of_skip
    (g := gate registry store challenge ignoreFailure) (p := ⟨some none, 0, []⟩) rfl hread
  exact follows_of_through hevents hpass writable_report_none rfl fun _ h => nomatch h

end

section

variable {registry : Registry} {store : Store} {accounts : List Account} {challenge : Challenge}
  {headers : List Http.RawHeader} {query : List UInt8} {c : Credentials}

/-- A request with credentials is answered by the rule, or the site fails. -/
theorem handle_of_decoded (hhides : store.hidesUnknown = true)
    (hfind : ∀ username, store.find? username = Account.last? accounts username)
    (hlatin : challenge.InLatin1)
    (h : Admission.decoded registry (whoamiRequest headers query).authorization = some c)
    (ignoreFailure : Bool) (routes : List Route) (state : Option ScopeState) (s : Shared) :
    let site : Site :=
      ⟨layers registry store challenge ignoreFailure, health :: whoami :: routes⟩
    (Admission.Written accounts c → Follows site challenge ignoreFailure
      (Admission.ofCredentials accounts c) ⟨whoamiRequest headers query, state⟩ s) ∧
    (¬ Admission.Written accounts c → Fails site ⟨whoamiRequest headers query, state⟩ s) := by
  intro site
  have hread := Admission.read_of_decoded h
  obtain ⟨hname, hpassword⟩ := Admission.writable_of_decoded h
  unfold Admission.Written Admission.ofCredentials
  rw [← hfind]
  cases hfound : store.find? c.username with
  | none =>
    have hwords : (store.unknown c.username).message = ("Bad credentials" : Text) := if_pos hhides
    have hcheck := Store.check_of_unknown hfound
    exact ⟨fun _ => follows_of_rejected hread hlatin hwords hcheck, fun hno => (hno nofun).elim⟩
  | some a =>
    have husername : a.username = c.username := Store.username_of_find? hfound
    simp only [Option.some.injEq, forall_eq']
    cases henabled : a.enabled with
    | false =>
      have hcheck := Store.check_of_disabled hfound henabled
      exact ⟨fun _ => follows_of_rejected hread hlatin rfl hcheck, fun hno => (hno nofun).elim⟩
    | true =>
      simp only [true_and, forall_const, if_true]
      by_cases hrecorded : a.password.Writable
      · have hcheck := Store.check_of_enabled hfound henabled hrecorded hpassword
        by_cases hopens : a.password = c.password
        · rw [if_pos hopens] at hcheck ⊢
          refine ⟨fun hwritten => ?_, fun hno => ?_⟩
          · exact husername ▸
              follows_of_accepted hread (husername ▸ hname) (hwritten.2 hopens) hcheck
          · exact fails_of_accepted hread (fun hroles => hno ⟨hrecorded, fun _ => hroles⟩) hcheck
        · rw [if_neg hopens] at hcheck ⊢
          refine ⟨fun _ => follows_of_rejected hread hlatin rfl hcheck, fun hno => ?_⟩
          exact absurd ⟨hrecorded, fun h => absurd h hopens⟩ hno
      · obtain ⟨e, hcheck⟩ :=
          Store.check_of_unwritable hfound henabled fun hboth => hrecorded hboth.1
        exact ⟨fun hwritten => absurd hwritten.1 hrecorded,
          fun _ => fails_of_unchecked hread hcheck⟩

end

/-- **Every request is answered by the rule**, as long as the account that comes into question can
    be written.  A user map and a realm in Latin-1 give a site, and whatever headers a request for
    the path has, the site does with it what the rule says.  If UTF-8 can not write the password of
    the account, or roles that would have to be reported, the site fails. -/
theorem handle_of_admission (registry : Registry) {text : Text} {accounts : List Account}
    (hparse : UserMap.parse text = .ok accounts) {challenge : Challenge}
    (hlatin : challenge.InLatin1) (ignoreFailure : Bool) (routes : List Route) :
    ∃ store site, Store.ofUserMap true text = .ok store ∧
      Site.make registry (some store.authenticator) none challenge.realm ignoreFailure routes =
        .ok site ∧
      ∀ headers query state s,
        let value := Admission.authorization headers
        let written := ∀ c, Admission.decoded registry value = some c → Admission.Written accounts c
        (written → Follows site challenge ignoreFailure
          (Admission.ofHeaders registry accounts headers) ⟨whoamiRequest headers query, state⟩ s) ∧
        (¬ written → Fails site ⟨whoamiRequest headers query, state⟩ s) := by
  obtain ⟨store, hstore, hhides, hfind⟩ :=
    Store.find?_ofAccounts true (UserMap.username_ne_of_parse hparse)
  refine ⟨store, _, ?_, make_of_challenge registry store.authenticator ignoreFailure challenge
    routes, fun headers query state s => ?_⟩
  · unfold Store.ofUserMap
    rw [hparse]
    exact hstore
  -- the header of the rule is the one that the gate reads
  have hauthorization : (whoamiRequest headers query).authorization =
      Admission.authorization headers := Http.header?_eq_find? _ _
  unfold Admission.ofHeaders
  dsimp only
  rw [← hauthorization]
  cases hdecoded : Admission.decoded registry (whoamiRequest headers query).authorization with
  | none =>
    obtain ⟨skip, hread⟩ := Admission.read_of_undecoded hdecoded
    exact ⟨fun _ => follows_of_undecoded hread, fun hno => (hno nofun).elim⟩
  | some c =>
    simp only [Option.some.injEq, forall_eq']
    exact handle_of_decoded hhides hfind hlatin hdecoded ignoreFailure routes state s

/-- The right password lets the only user of a site in.  An account whose password holds half a
    surrogate pair makes the site fail. -/
theorem handle_of_admission_rod :
    let accounts : List Account := [{ username := "rod", password := "koala", roles := ["ADMIN"] }]
    let half : Text := Text.ofList [.surrogate 0]
    let broken : List Account := [{ username := "rod", password := half }]
    let challenge : Challenge := ⟨defaultRealm, by decide⟩
    let bytes (text : Text) : List UInt8 := text.toList.map fun c => UInt8.ofNat c.toNat
    let header : Http.RawHeader := ⟨bytes "Authorization", bytes "Basic cm9kOmtvYWxh"⟩
    let request := whoamiRequest [header] []
    UserMap.parse "rod=koala,ADMIN" = .ok accounts ∧
      UserMap.parse ("rod=" ++ half) = .ok broken ∧ challenge.InLatin1 ∧
      (∃ store site, Store.ofUserMap true "rod=koala,ADMIN" = .ok store ∧
        make .usual (some store.authenticator) none defaultRealm false [] = .ok site ∧
        ∀ s, Follows site challenge false (.admitted "rod" [("ADMIN" : Text)]) ⟨request, none⟩ s) ∧
      ∃ store site, Store.ofUserMap true ("rod=" ++ half) = .ok store ∧
        make .usual (some store.authenticator) none defaultRealm false [] = .ok site ∧
        ∀ s, Fails site ⟨request, none⟩ s := by
  intro accounts half broken challenge bytes header request
  have hparse : UserMap.parse "rod=koala,ADMIN" = .ok accounts := by rfl
  have hparse' : UserMap.parse ("rod=" ++ half) = .ok broken := by rfl
  have hlatin : challenge.InLatin1 := by
    unfold Challenge.InLatin1
    decide
  have hvalue : Admission.authorization [header] = some ("Basic cm9kOmtvYWxh" : Text) := by rfl
  have hdecoded : Admission.decoded .usual (some "Basic cm9kOmtvYWxh") = some ⟨"rod", "koala"⟩ := by
    rfl
  have hrule : Admission.ofHeaders .usual accounts [header] =
      .admitted "rod" [("ADMIN" : Text)] := by
    unfold Admission.ofHeaders
    rw [hvalue, hdecoded]
    rfl
  have hwritten : ∀ c, Admission.decoded .usual (Admission.authorization [header]) = some c →
      Admission.Written accounts c := by
    intro c hc a ha _
    rw [hvalue, hdecoded] at hc
    obtain rfl := Option.some.inj hc
    obtain rfl := Option.some.inj ha
    exact ⟨by decide, fun _ => by decide⟩
  have hbroken : ¬ ∀ c, Admission.decoded .usual (Admission.authorization [header]) = some c →
      Admission.Written broken c := by
    intro hwritten
    have hpassword : half.Writable :=
      (hwritten ⟨"rod", "koala"⟩ (by rw [hvalue, hdecoded]) _ rfl rfl).1
    exact absurd hpassword (by decide)
  obtain ⟨store, site, hstore, hsite, hhandle⟩ :=
    handle_of_admission .usual hparse hlatin false []
  obtain ⟨store', site', hstore', hsite', hhandle'⟩ :=
    handle_of_admission .usual hparse' hlatin false []
  exact ⟨hparse, hparse', hlatin,
    ⟨store, site, hstore, hsite, fun s => hrule ▸ (hhandle [header] [] none s).1 hwritten⟩,
    store', site', hstore', hsite', fun s => (hhandle' [header] [] none s).2 hbroken⟩

end Site

end Turnstile
