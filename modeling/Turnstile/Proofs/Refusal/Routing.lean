import Turnstile.Proofs.Anonymity
import Turnstile.Proofs.Residue

namespace Turnstile

/-!
# Rejections that hide the routes

A site decides about a request before it looks at where the request leads, so that a client who is
rejected does not learn what there is at a path.

* `Request.routedTo`, `EntryPoint.Blind` — the same request at another address, and entry points to
  which the address makes no difference;
* `Handled.Rejected` — a request that a gate has handed to its entry point;
* `Gate.delegations_descend` — a gate hands on the requests that it refuses, and no others;
* `Site.rejected_iff`, `Site.shown_of_refusal`, `Site.run_of_refusal` — the requests that a site
  rejects, what their clients get to see, and that no route is tried for them;
* `Site.rejection_hides_routing` — **a rejection hides the routing**.
-/

/-! ### Addresses -/

/-- The same request at another path, with another method and another query. -/
def Request.routedTo (r : Request) (path : Option Value) (method : Text) (query : List UInt8) :
    Request :=
  { r with path := path, method := method, query := query }

/-- An entry point that does not look at the path of a request, nor at its method or query. -/
def EntryPoint.Blind (e : EntryPoint) : Prop :=
  ∀ (r : Request) path method query cause,
    e.commence (r.routedTo path method query) cause = e.commence r cause

/-- A challenge does not depend on the address. -/
theorem Challenge.blind_entryPoint (c : Challenge) : c.entryPoint.Blind :=
  fun _ _ _ _ _ => rfl

/-! ### Requests that are handed on -/

/-- A flow that hands nothing to the entry point of the gate of that number. -/
def Flow.Undelegating {α : Type} (f : Flow α) (number : Nat) : Prop :=
  f.Acts (Action.Records fun e => e.delegation? number = none)

theorem Flow.Undelegating.delegations_run {α : Type} {f : Flow α} {number : Nat}
    (h : f.Undelegating number) (m : Machine) :
    Trace.delegations number (f.run m).2.session.trace =
      Trace.delegations number m.session.trace := by
  obtain ⟨events, htrace, hevents⟩ := Flow.Acts.exists_trace h m
  rw [htrace, Trace.delegations_append]
  have hnone : Trace.delegations number events = [] :=
    List.filterMap_eq_nil_iff.2 hevents
  rw [hnone, List.append_nil]

/-- To decide about a request is not to hand it on. -/
theorem Gate.undelegating_evaluate (g : Gate) (number : Nat) (authorization : Option Text)
    (path : Text) : (g.evaluate number authorization path).Undelegating number :=
  g.acts_evaluate (fun _ => trivial) trivial (fun _ => rfl) (fun _ => rfl) authorization path

/-- **A gate hands on what it refuses.**  A request that it refuses is handed to the entry point
    once, and any other goes on to what is behind the gate, if it goes on at all. -/
theorem Gate.delegations_descend (g : Gate) (number : Nat) (m : Machine) {inner : Flow Outcome}
    (hinner : inner.Undelegating number) :
    Trace.delegations number (Ending.report (goOn (g.descend number m) inner)).2 =
      Trace.delegations number m.session.trace ++
        (g.refusal? m.observation.identity m.session.request.authorization).toList := by
  have hverdict := (g.evaluate_ends number m.session.request.authorization
    m.session.request.pathText m).1
  have hkept := (g.undelegating_evaluate number m.session.request.authorization
    m.session.request.pathText).delegations_run m
  unfold refusal? descend
  dsimp only
  rw [Machine.view_request, ← hverdict, ← hkept]
  generalize (g.evaluate number m.session.request.authorization
    m.session.request.pathText).run m = result
  obtain ⟨decision, m'⟩ := result
  have hon : Trace.delegations number (Ending.report (inner.run m')).2 =
      Trace.delegations number m'.session.trace ++ [] :=
    (hinner.delegations_run m').trans (List.append_nil _).symm
  -- of all decisions only a rejection that is not to be ignored hands the request on
  rcases decision with fault | (_ | _ | ⟨_ | _, _, r⟩)
  · exact (List.append_nil _).symm
  · exact hon
  · exact hon
  · show Trace.delegations number
      ((g.delegate number m.session.request r).run m').2.session.trace = _
    rw [run_delegate]
    exact (Trace.delegations_append ..).trans
      (congrArg (_ ++ ·) (g.delegations_delegation number m.session.request r))
  · exact hon

/-! ### Requests that a site rejects -/

/-- A request that has been rejected: the outermost gate has handed it to its entry point. -/
def Handled.Rejected (h : Handled) : Prop :=
  Trace.delegations 0 h.session.trace ≠ []

namespace Site

variable {site : Site} {g : Gate} {m : Machine} {scope : Scope}

/-- Routes hand nothing to the entry point of the gate. -/
theorem undelegating_routing (site : Site) : site.routing.Undelegating 0 :=
  site.uncalling_routing.mono fun a ha => by
    cases a with
    | record e => exact ha.2
    | _ => trivial

/-- A site hands on the requests that keep state and that its gate refuses in an empty context. -/
theorem delegations_flow (hstack : site.stack = [.boundary, .gate g])
    (hhttp : m.session.request.hasType "http" = true) :
    Trace.delegations 0 (Ending.report (site.flow.run m)).2 =
      Trace.delegations 0 m.session.trace ++
        if m.session.request.keepsState then
          (g.refusal? none m.session.request.authorization).toList
        else [] := by
  rw [report_flow hstack hhttp]
  dsimp only
  rw [Trace.delegations_append, Trace.delegations_sent, List.append_nil]
  unfold Machine.opened
  split
  · -- the context in which the gate decides has just been opened
    have hgate := g.delegations_descend 0 (Action.enter.apply m) site.undelegating_routing
    rw [Gate.identity_enter] at hgate
    exact hgate
  · exact (List.append_nil _).symm

theorem rejected_iff (hstack : site.stack = [.boundary, .gate g])
    (hhttp : scope.request.hasType "http" = true) (s : Shared) :
    (handle site.flow scope s).1.Rejected ↔ scope.request.keepsState = true ∧
      ∃ r, g.refusal? none scope.request.authorization = some r := by
  have hdelegations : Trace.delegations 0 (handle site.flow scope s).1.session.trace =
      if scope.request.keepsState then (g.refusal? none scope.request.authorization).toList
      else [] := by
    rw [session_handle]
    exact delegations_flow hstack (m := scope.arrived s) hhttp
  unfold Handled.Rejected
  rw [hdelegations]
  cases scope.request.keepsState <;> cases g.refusal? none scope.request.authorization <;> simp

section

variable {r : Rejection}

/-- The client of a request that is refused gets to see the answer of the entry point, and what
    makes up for it if that goes wrong. -/
theorem shown_of_refusal (hstack : site.stack = [.boundary, .gate g])
    (hhttp : m.session.request.hasType "http" = true)
    (hkeeps : m.session.request.keepsState = true)
    (h : g.refusal? none m.session.request.authorization = some r) :
    Ending.shown (site.flow.run m) =
      let answer := g.entryPoint.commence m.session.request (some (.rejected r))
      let messages := Trace.messages m.session.trace ++ answer.messages
      (answer.outcome, messages ++ amends true answer.outcome messages) := by
  obtain ⟨m', ⟨events, htrace, hsilent⟩, hdescend⟩ :=
    Gate.descend_of_refusal (m := Action.enter.apply m) ((Gate.identity_enter m).symm ▸ h) 0
  have hway : Ending.shown (goOn (m.opened >>= g.descend 0) site.routing) =
      ((g.entryPoint.commence m.session.request (some (.rejected r))).outcome,
        Trace.messages m.session.trace ++
          (g.entryPoint.commence m.session.request (some (.rejected r))).messages) := by
    rw [show m.opened = .ok (Action.enter.apply m) from if_pos hkeeps]
    show Ending.shown (goOn (g.descend 0 (Action.enter.apply m)) site.routing) = _
    rw [hdescend]
    refine congrArg (Prod.mk _) ?_
    show Trace.messages (m'.session.trace ++ g.delegation 0 m.session.request r) = _
    rw [htrace, Trace.messages_append, Trace.messages_append, hsilent, List.append_nil,
      Gate.messages_delegation]
    rfl
  rw [shown_flow hstack hhttp, hway]

/-- No route is tried for a request that is refused: anything could be behind the gate. -/
theorem run_of_refusal (hhttp : m.session.request.hasType "http" = true)
    (h : g.refusal? none m.session.request.authorization = some r) (app app' : Flow Outcome) :
    (Stack.flow [.boundary, .gate g] app).run m =
      (Stack.flow [.boundary, .gate g] app').run m := by
  have hhttp' : (Action.enter.apply m).session.request.hasType "http" = true := hhttp
  obtain ⟨m', -, hdescend⟩ :=
    Gate.descend_of_refusal (m := Action.enter.apply m) ((Gate.identity_enter m).symm ▸ h) 0
  -- the gate ends the request by itself, whatever is behind it
  have hgate : ∀ app : Flow Outcome, ((Layer.gate g).flow 0 app).run (Action.enter.apply m) =
      goOn (g.descend 0 (Action.enter.apply m)) app := fun app =>
    (Layer.run_gate_of_bound 0 app g hhttp' rfl).trans (g.run_guard 0 app _)
  show (Layer.boundary.flow 0 ((Layer.gate g).flow 0 app)).run m =
    (Layer.boundary.flow 0 ((Layer.gate g).flow 0 app')).run m
  rw [Layer.run_boundary_of_opening _ _ (Request.isBounded_of_http hhttp),
    Layer.run_boundary_of_opening _ _ (Request.isBounded_of_http hhttp), Flow.run_inContext,
    Flow.run_inContext, hgate, hgate, hdescend]
  rfl

end

section

variable {r : Rejection} (hstack : site.stack = [.boundary, .gate g])
  (hhttp : scope.request.hasType "http" = true)
  (h : g.refusal? none scope.request.authorization = some r)

include hstack hhttp h

theorem shown_handle_of_refusal (hkeeps : scope.request.keepsState = true) (s : Shared) :
    ((handle site.flow scope s).1.outcome,
        Trace.messages (handle site.flow scope s).1.session.trace) =
      let answer := g.entryPoint.commence scope.request (some (.rejected r))
      (answer.outcome, answer.messages ++ amends true answer.outcome answer.messages) :=
  (shown_handle ..).trans (shown_of_refusal hstack (m := scope.arrived s) hhttp hkeeps h)

/-- Anything could stand in the place of the routes. -/
theorem handle_of_refusal (app : Flow Outcome) (s : Shared) :
    handle (shielded (site.stack.flow app)) scope s = handle site.flow scope s := by
  unfold flow
  rw [hstack]
  exact handle_congr
    (Flow.run_bind_congr (run_of_refusal (m := scope.arrived s) hhttp h app site.routing) _)

end

/-- **A rejection hides the routing.**  A site does not ignore rejections, and its entry point does
    not look at the address of a request.  If it rejects a request over HTTP, it rejects the same
    request at any other address: with any path, method and query.  The client gets to see the same
    messages, the same fault comes out, if any, and anything could stand in the place of the routes
    without a difference to either request. -/
theorem rejection_hides_routing {registry : Registry} {a : Authenticator}
    {entryPoint : Option EntryPoint} {realm : Text} {routes : List Route} {site : Site}
    (hmake : make registry (some a) entryPoint realm false routes = .ok site)
    (hblind : ∀ e, entryPoint = some e → e.Blind) {scope : Scope}
    (hhttp : scope.request.hasType "http" = true) {s : Shared}
    (hrejected : (handle site.flow scope s).1.Rejected) (path : Option Value) (method : Text)
    (query : List UInt8) (state : Option ScopeState) (s' : Shared) :
    let elsewhere : Scope := ⟨scope.request.routedTo path method query, state⟩
    let handled := (handle site.flow scope s).1
    let handled' := (handle site.flow elsewhere s').1
    handled'.Rejected ∧ handled'.outcome = handled.outcome ∧
      Trace.messages handled'.session.trace = Trace.messages handled.session.trace ∧
      ∀ app : Flow Outcome,
        handle (shielded (site.stack.flow app)) scope s = handle site.flow scope s ∧
        handle (shielded (site.stack.flow app)) elsewhere s' = handle site.flow elsewhere s' := by
  intro elsewhere handled handled'
  obtain ⟨e, hentry, hsite⟩ := eq_of_make hmake
  let g : Gate := ⟨a, e, false, defaultCharset, registry⟩
  have hstack : site.stack = [.boundary, .gate g] := congrArg Site.stack hsite
  have hanswer : ∀ r, e.commence elsewhere.request (some (.rejected r)) =
      e.commence scope.request (some (.rejected r)) := by
    have hblind' : e.Blind := by
      rcases hentry with hgiven | ⟨c, rfl⟩
      · exact hblind e hgiven
      · exact c.blind_entryPoint
    exact fun r => hblind' scope.request path method query _
  -- type, headers and state are those of the request itself
  have hhttp' : elsewhere.request.hasType "http" = true := hhttp
  obtain ⟨hkeeps, r, hrefusal⟩ := (rejected_iff hstack hhttp s).1 hrejected
  have hkeeps' : elsewhere.request.keepsState = true := hkeeps
  have hrefusal' : g.refusal? none elsewhere.request.authorization = some r := hrefusal
  have hshown : (handled'.outcome, Trace.messages handled'.session.trace) =
      (handled.outcome, Trace.messages handled.session.trace) := by
    rw [shown_handle_of_refusal hstack hhttp hrefusal hkeeps,
      shown_handle_of_refusal hstack hhttp' hrefusal' hkeeps', hanswer]
  exact ⟨(rejected_iff hstack hhttp' s').2 ⟨hkeeps', r, hrefusal'⟩, (Prod.mk.inj hshown).1,
    (Prod.mk.inj hshown).2, fun app => ⟨handle_of_refusal hstack hhttp hrefusal app s,
      handle_of_refusal hstack hhttp' hrefusal' app s'⟩⟩

/-- A wrong password for the page that shows the identity of a request, and for one that does not
    exist. -/
theorem rejection_hides_routing_rod :
    let bytes (text : Text) : List UInt8 := text.toList.map fun c => UInt8.ofNat c.toNat
    let store := (Store.empty true).put ⟨"rod", "koala", [], true⟩
    let wrong := whoamiRequest [⟨bytes "Authorization", bytes "Basic cm9kOndvbWJhdA=="⟩] []
    let lost := wrong.routedTo (some (.text "/nowhere")) "POST" (bytes "q=1")
    let site : Site := ⟨layers .usual store ⟨defaultRealm, by decide⟩ false, [health, whoami]⟩
    make .usual (some store.authenticator) none defaultRealm false [] = .ok site ∧
      wrong.hasType "http" = true ∧
      (handle site.flow ⟨wrong, none⟩ {}).1.Rejected ∧
      (handle site.flow ⟨lost, none⟩ {}).1.Rejected ∧
      Trace.messages (handle site.flow ⟨lost, none⟩ {}).1.session.trace =
        Trace.messages (handle site.flow ⟨wrong, none⟩ {}).1.session.trace ∧
      handle (shielded (site.stack.flow (script [.fail .noIdentity]))) ⟨lost, none⟩ {} =
        handle site.flow ⟨lost, none⟩ {} := by
  intro bytes store wrong lost site
  have hmake : make .usual (some store.authenticator) none defaultRealm false [] = .ok site :=
    make_of_challenge .usual store.authenticator false ⟨defaultRealm, by decide⟩ []
  have hread : Credentials.read .usual defaultCharset wrong.authorization =
      .ok (.ok ⟨"rod", "wombat"⟩) := by decide +kernel
  have hrefusal : Gate.refusal? (gate .usual store ⟨defaultRealm, by decide⟩ false) none
      wrong.authorization = some ⟨.badCredentials, "Bad credentials", some "rod"⟩ := by
    unfold Gate.refusal? Gate.verdict gate
    dsimp only
    rw [hread]
    rfl
  have hhttp : (Scope.mk wrong none).request.hasType "http" = true := rfl
  have hrejected : (handle site.flow ⟨wrong, none⟩ {}).1.Rejected :=
    (rejected_iff rfl hhttp {}).2 ⟨rfl, _, hrefusal⟩
  obtain ⟨hrejected', -, hmessages, happ⟩ := rejection_hides_routing hmake nofun hhttp hrejected
    (some (.text "/nowhere")) "POST" (bytes "q=1") none {}
  -- with the address written out there is nothing to be run for a comparison
  have hlost : lost = (Scope.mk wrong none).request.routedTo (some (.text "/nowhere")) "POST"
      (bytes "q=1") := rfl
  rw [hlost]
  exact ⟨hmake, rfl, hrejected, hrejected', hmessages, (happ _).2⟩

end Site

end Turnstile
