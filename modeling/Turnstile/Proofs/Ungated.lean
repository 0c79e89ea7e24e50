import Turnstile.Proofs.Anonymity
import Turnstile.Proofs.Crossing
import Turnstile.Proofs.Residue

namespace Turnstile

/-!
# Requests that no gate holds up

A gate lets every request pass that is not over HTTP, and a boundary those that are over neither
HTTP nor a websocket.

* `Stack.run_ungated`, `Stack.run_unopened` — the layers that such a request crosses might as well
  not be there;
* `Flow.Uncalling` — an application that calls neither authenticators nor entry points;
* `Machine.Onward`, `Stack.unrecorded_descendFrom` — the way in of such a request: nothing is left
  in the trace, and the way ends before the application for two reasons only;
* `Stack.boundTo_of_descend` — what the innermost boundary and the stages below it leave to the
  application;
* `Stack.run_of_other_type` — **only HTTP is held up**.
-/

/-- A request that says of what type it is, and is not over HTTP. -/
structure Request.Ungated (r : Request) : Prop where
  typed : r.type.isNone = false
  other : r.hasType "http" = false

theorem Request.ungated_of_websocket {r : Request} (h : r.hasType "websocket" = true) :
    r.Ungated :=
  ⟨isNone_type_of_hasType h, not_hasType_of_hasType h (by decide)⟩

/-- The layer is a boundary. -/
def Layer.isBoundary : Layer → Bool
  | .boundary => true
  | _ => false

/-! ### Layers that are crossed -/

namespace Stack

variable {m : Machine}

/-- A request that is not over HTTP crosses all gates. -/
theorem run_ungated (h : m.session.request.Ungated) (app : Flow Outcome) (number number' : Nat)
    (stack : Stack) :
    (flowFrom app number stack).run m =
      (flowFrom app number' (stack.filter fun layer => !layer.isGate)).run m := by
  induction stack generalizing number number' m with
  | nil => rfl
  | cons layer layers ih =>
    cases hlayer : layer.isGate with
    | true =>
      obtain ⟨g, rfl⟩ : ∃ g, layer = .gate g := by
        cases layer with
        | gate g => exact ⟨g, rfl⟩
        | _ => nomatch hlayer
      rw [List.filter_cons_of_neg (by simp [hlayer])]
      exact (Layer.run_gate_of_other _ _ g h.typed h.other).trans (ih h _ _)
    | false =>
      rw [List.filter_cons_of_pos (by simp [hlayer])]
      -- what is inside goes on with the same request
      exact Layer.run_congr hlayer (fun m' hrequest => ih (hrequest ▸ h) _ _) _

/-- A request that is over neither HTTP nor a websocket crosses all layers. -/
theorem run_unopened (h : m.session.request.Ungated)
    (hwebsocket : m.session.request.hasType "websocket" = false)
    (hbound : m.session.binding.bound = none) (app : Flow Outcome) (number : Nat) (stack : Stack) :
    (flowFrom app number stack).run m = app.run m := by
  induction stack generalizing number with
  | nil => rfl
  | cons layer layers ih =>
    have hlayer : layer.opens m.session.request = false := by
      cases layer with
      | boundary => exact Bool.or_eq_false_iff.2 ⟨h.other, hwebsocket⟩
      | assign identity => rfl
      | gate g => exact h.other
    exact (Layer.run_of_not_opens _ _ hlayer h.typed hbound).trans (ih _)

end Stack

/-! ### Applications that call nobody -/

/-- A flow that calls neither authenticators nor entry points. -/
def Flow.Uncalling {α : Type} (f : Flow α) : Prop :=
  f.Acts (Action.Records fun e =>
    ∀ number, e.consultation? number = none ∧ e.delegation? number = none)

/-- What such a flow adds to the trace holds no calls. -/
theorem Flow.Uncalling.exists_trace {α : Type} {f : Flow α} (h : f.Uncalling) (m : Machine) :
    ∃ events, (f.run m).2.session.trace = m.session.trace ++ events ∧
      ∀ number, Trace.Uncalled events number := by
  obtain ⟨events, htrace, hevents⟩ := Flow.Acts.exists_trace h m
  exact ⟨events, htrace, fun number e he => hevents e he number⟩

/-! ### The way in -/

/-- A machine further on the way in, with nothing left in the trace. -/
structure Machine.Onward (m m' : Machine) : Prop where
  request : m'.session.request = m.session.request
  scope : m'.session.scope = m.session.scope
  trace : m'.session.trace = m.session.trace
  length : m'.shared.states.length = m.shared.states.length
  next_le : m.shared.contexts.next ≤ m'.shared.contexts.next

namespace Machine.Onward

variable {m m' m'' : Machine}

theorem refl (m : Machine) : m.Onward m :=
  ⟨rfl, rfl, rfl, rfl, Nat.le_refl _⟩

theorem trans (h : m.Onward m') (h' : m'.Onward m'') : m.Onward m'' where
  request := h'.request.trans h.request
  scope := h'.scope.trans h.scope
  trace := h'.trace.trans h.trace
  length := h'.length.trans h.length
  next_le := Nat.le_trans h.next_le h'.next_le

/-- Opening a context adds nothing to the trace. -/
theorem enter (m : Machine) : m.Onward (Action.enter.apply m) :=
  ⟨rfl, rfl, rfl, Action.length_states_apply .enter m, Action.next_le_apply .enter m⟩

/-- Nor does filling one. -/
theorem assign (m : Machine) (identity : Identity) :
    m.Onward ((Action.assign identity).apply m) where
  request := Action.apply_request _ m
  scope := Action.apply_scope _ m
  trace := congrArg Session.trace (m.putBound_session (some identity))
  length := Action.length_states_apply _ m
  next_le := Action.next_le_apply _ m

end Machine.Onward

/-- A way in on which nothing is left in the trace.  It ends before the application only if a
    context is to be opened for a request that keeps no state, or a stage is to establish
    nothing. -/
def Machine.Unrecorded (m : Machine) (stack : Stack) : Except Ending Machine → Prop
  | .ok m' => m.Onward m'
  | .error ending => m.Onward ending.2 ∧
      (ending.1 = .error .nullState ∧ m.session.request.keepsState = false ∨
        ending.1 = .error .noIdentity ∧ Layer.assign none ∈ stack)

section

variable {m m' : Machine}

theorem Layer.unrecorded_descend (layer : Layer) (h : m.session.request.Ungated) (number : Nat) :
    m.Unrecorded [layer] (layer.descend number m) := by
  unfold Layer.descend
  cases layer with
  | boundary =>
    simp only [Machine.view_request, h.typed, h.other, Bool.false_eq_true, if_false, Bool.false_or]
    split_ifs
    · unfold Machine.opened
      split
      · exact .enter m
      · rename_i hkeeps
        exact ⟨.refl m, .inl ⟨rfl, Bool.eq_false_iff.2 hkeeps⟩⟩
    · exact .refl m
  | assign identity =>
    dsimp only
    split_ifs
    · cases identity with
      | none => exact ⟨.refl m, .inr ⟨rfl, List.mem_singleton_self _⟩⟩
      | some i => exact .assign m i
    · exact .refl m
  | gate g =>
    simp only [Machine.view_request, h.typed, h.other, Bool.false_eq_true, if_false]
    exact .refl m

/-- Nothing is left in the trace on the way in of a request that is not over HTTP. -/
theorem Stack.unrecorded_descendFrom (h : m.session.request.Ungated) (number : Nat)
    (stack : Stack) :
    m.Unrecorded stack (descendFrom number stack m) := by
  induction stack generalizing number m with
  | nil => exact .refl m
  | cons layer layers ih =>
    have hlayer := layer.unrecorded_descend h number
    unfold descendFrom
    cases hdescend : layer.descend number m with
    | error ending =>
      rw [hdescend] at hlayer
      exact ⟨hlayer.1, hlayer.2.imp_right (And.imp_right fun hmem =>
        List.mem_cons.2 (.inl (List.mem_singleton.1 hmem)))⟩
    | ok m₁ =>
      rw [hdescend] at hlayer
      have honward : m.Onward m₁ := hlayer
      have hlayers := ih (m := m₁) (honward.request ▸ h) (layer.after number)
      show m.Unrecorded (layer :: layers) (descendFrom (layer.after number) layers m₁)
      cases hrest : descendFrom (layer.after number) layers m₁ with
      | error ending =>
        rw [hrest] at hlayers
        refine ⟨honward.trans hlayers.1, hlayers.2.imp (And.imp_right fun hkeeps => ?_)
          (And.imp_right (List.mem_cons_of_mem _))⟩
        rw [← honward.request]
        exact hkeeps
      | ok m₂ =>
        rw [hrest] at hlayers
        exact honward.trans hlayers

/-! ### Below the innermost boundary -/

/-- The identity that a stage establishes. -/
def Layer.established? : Layer → Option Identity
  | .assign identity => identity
  | _ => none

/-- The identity established by the innermost of the stages that establish one. -/
def Stack.established (stack : Stack) : Option Identity :=
  (stack.filterMap Layer.established?).getLast?

theorem Stack.established_cons (layer : Layer) (layers : Stack) :
    established (layer :: layers) = (established layers).or layer.established? := by
  unfold established
  rw [List.filterMap_cons]
  cases layer.established? with
  | none => rw [Option.or_none]
  | some i => rw [List.getLast?_cons]; cases (layers.filterMap _).getLast? <;> rfl

/-- Below the innermost boundary a context holds what the innermost stage puts there. -/
theorem Stack.boundTo_below {below : Stack} (hbelow : ∀ layer ∈ below, layer.isBoundary = false)
    (hungated : m.session.request.Ungated) {id : ContextId} {held : Option Identity}
    (hbound : m.BoundTo id held) {number : Nat} (h : descendFrom number below m = .ok m') :
    m'.BoundTo id ((established below).or held) := by
  induction below generalizing number m held with
  | nil =>
    rw [← Except.ok.inj h]
    exact hbound
  | cons layer layers ih =>
    -- only a stage that establishes an identity changes what is in the context
    have hlayers := fun other hmem => hbelow other (List.mem_cons_of_mem layer hmem)
    unfold descendFrom at h
    rw [established_cons, Option.or_assoc]
    cases layer with
    | boundary => cases hbelow _ List.mem_cons_self
    | assign identity =>
      have hsome : m.view.here.bound = true := by
        rw [Machine.view_here, Machine.observation_bound, hbound.bound]
        rfl
      cases identity with
      | none =>
        have hdescend : (Layer.assign none).descend number m = .error (.error .noIdentity, m) :=
          if_pos hsome
        rw [hdescend] at h
        cases h
      | some i =>
        have hdescend : (Layer.assign (some i)).descend number m =
            .ok ((Action.assign i).apply m) := if_pos hsome
        rw [hdescend] at h
        have hungated' := (Machine.Onward.assign m i).request ▸ hungated
        exact ih hlayers hungated' (hbound.putBound (some i)) h
    | gate g =>
      have hdescend : (Layer.gate g).descend number m = .ok m := by
        simp only [Layer.descend, Machine.view_request, hungated.typed, hungated.other,
          Bool.false_eq_true, if_false]
      rw [hdescend] at h
      exact ih hlayers hungated hbound h

/-- The application finds bound what the innermost boundary has opened, and in it what the stages
    below that boundary have left there. -/
theorem Stack.boundTo_of_descend {above below : Stack}
    (hbelow : ∀ layer ∈ below, layer.isBoundary = false)
    (hwebsocket : m.session.request.hasType "websocket" = true)
    (hscope : m.session.scope < m.shared.states.length) {number : Nat}
    (h : descendFrom number (above ++ .boundary :: below) m = .ok m') :
    ∃ id, m.shared.contexts.next ≤ id ∧ m'.BoundTo id (established below) := by
  have hungated := Request.ungated_of_websocket hwebsocket
  induction above generalizing number m with
  | nil =>
    have hbounded : m.session.request.isBounded = true := Bool.or_eq_true_iff.2 (.inr hwebsocket)
    rw [List.nil_append, descendFrom, Layer.descend_boundary_of_opening number hbounded,
      Machine.opened] at h
    split at h
    · have hbound := boundTo_below (m := Action.enter.apply m) hbelow hungated (.enter hscope) h
      rw [Option.or_none] at hbound
      exact ⟨_, Nat.le_refl _, hbound⟩
    · cases h
  | cons layer layers ih =>
    -- whatever the layers above have opened, the context of the boundary is opened after it
    have hlayer := layer.unrecorded_descend hungated number
    rw [List.cons_append, descendFrom] at h
    cases hdescend : layer.descend number m with
    | error ending =>
      rw [hdescend] at h
      cases h
    | ok m₁ =>
      rw [hdescend] at h hlayer
      have honward : m.Onward m₁ := hlayer
      obtain ⟨id, hfresh, hbound⟩ := ih (m := m₁) (honward.request ▸ hwebsocket)
        (by rw [honward.scope, honward.length]; exact hscope) h (honward.request ▸ hungated)
      exact ⟨id, Nat.le_trans honward.next_le hfresh, hbound⟩

end

/-! ### Requests of other types -/

namespace Stack

/-- On the way in and out nobody is called, unless the application does so itself. -/
theorem uncalled_of_ungated (stack : Stack) {m : Machine} (h : m.session.request.Ungated)
    {app : Flow Outcome} (happ : app.Uncalling) :
    ∃ events, ((stack.flow app).run m).2.session.trace = m.session.trace ++ events ∧
      ∀ number, Trace.Uncalled events number := by
  have hway := unrecorded_descendFrom h 0 stack
  have hreport := congrArg Prod.snd (stack.report_run_flow app m)
  rw [descend] at hreport
  cases hdescend : descendFrom 0 stack m with
  | error ending =>
    rw [hdescend] at hway hreport
    exact ⟨[], (hreport.trans hway.1.trace).trans (List.append_nil _).symm,
      fun _ => List.forall_mem_nil _⟩
  | ok m' =>
    rw [hdescend] at hway hreport
    have honward : m.Onward m' := hway
    obtain ⟨events, htrace, huncalled⟩ := happ.exists_trace m'
    refine ⟨events, ?_, huncalled⟩
    rw [← honward.trace]
    exact hreport.trans htrace

/-- **Only HTTP is held up.**  A request that is not over HTTP comes with no context bound.  It goes
    as it would without the gates of the stack, and neither an authenticator nor an entry point is
    called, unless the application does so itself.

    If it is not over a websocket either, it goes as it would without the boundaries, and indeed
    without any layer: an application that opens no contexts leaves the states of all scopes as
    they were.

    If it is over a websocket and there is a boundary, the application is reached unless the request
    keeps no state or a stage establishes nothing.  It then finds a fresh context bound, in which is
    what the stages below the innermost boundary have put there. -/
theorem run_of_other_type (stack : Stack) {m : Machine} (h : m.session.request.Ungated)
    (hscope : m.session.scope < m.shared.states.length)
    (hbound : m.session.binding.bound = none) :
    (∀ app : Flow Outcome, (stack.flow app).run m =
      (Stack.flow (stack.filter fun layer => !layer.isGate) app).run m) ∧
    (∀ app : Flow Outcome, app.Uncalling → ∀ number,
      let trace := ((stack.flow app).run m).2.session.trace
      Trace.consultations number trace = Trace.consultations number m.session.trace ∧
        Trace.delegations number trace = Trace.delegations number m.session.trace) ∧
    (m.session.request.hasType "websocket" = false → ∀ app : Flow Outcome,
      (stack.flow app).run m =
        (Stack.flow (stack.filter fun layer => !layer.isBoundary) app).run m ∧
      (stack.flow app).run m = app.run m ∧
      (app.Steady → ((stack.flow app).run m).2.shared.states = m.shared.states)) ∧
    (m.session.request.hasType "websocket" = true → ∀ above below,
      stack = above ++ .boundary :: below → (∀ layer ∈ below, layer.isBoundary = false) →
      match stack.descend m with
      | .error ending =>
        (∀ app, Ending.report ((stack.flow app).run m) = ending.report) ∧
          (ending.1 = .error .nullState ∧ m.session.request.keepsState = false ∨
            ending.1 = .error .noIdentity ∧ Layer.assign none ∈ stack)
      | .ok m' =>
        (∀ app, Ending.report ((stack.flow app).run m) = Ending.report (app.run m')) ∧
          ∃ id, m.shared.contexts.next ≤ id ∧ m'.BoundTo id (established below)) := by
  refine ⟨fun app => run_ungated h app 0 0 stack, fun app happ number => ?_,
    fun hother app => ?_, fun hwebsocket above below hstack hbelow => ?_⟩
  · obtain ⟨events, htrace, huncalled⟩ := stack.uncalled_of_ungated h happ
    dsimp only
    rw [htrace, Trace.consultations_append, Trace.delegations_append, (huncalled number).calls.1,
      (huncalled number).calls.2, List.append_nil, List.append_nil]
    exact ⟨rfl, rfl⟩
  · have hrun : ∀ layers : Stack, (layers.flow app).run m = app.run m :=
      run_unopened h hother hbound app 0
    refine ⟨(hrun stack).trans (hrun _).symm, hrun stack, fun hsteady => ?_⟩
    rw [hrun]
    exact hsteady.states_run m
  · have hway := unrecorded_descendFrom h 0 stack
    have hreport := fun app => stack.report_run_flow app m
    unfold descend at hreport ⊢
    cases hdescend : descendFrom 0 stack m with
    | error ending =>
      rw [hdescend] at hway hreport
      exact ⟨hreport, hway.2⟩
    | ok m' =>
      rw [hdescend] at hreport
      rw [hstack] at hdescend
      exact ⟨hreport, boundTo_of_descend hbelow hwebsocket hscope hdescend⟩

/-- A websocket and the startup of a server at a gate that would ask for the user of either. -/
theorem run_of_other_type_rod :
    let bytes (text : Text) : List UInt8 := text.toList.map fun c => UInt8.ofNat c.toNat
    let header : Http.RawHeader := ⟨bytes "Authorization", bytes "Basic cm9kOmtvYWxh"⟩
    let start (type : Text) : Machine :=
      .start ⟨{ type := some (.text type), headers := some [header] }, none⟩
    let g : Gate := ⟨.ofRules false [] (.ok (some { id := "rod" })),
      Challenge.entryPoint ⟨"Zoo", by decide⟩, false, "utf-8", .usual⟩
    let outer : Layer := .assign (some { id := "dianne" })
    let inner : Layer := .assign (some { id := "scott" })
    let stack : Stack := [.boundary, outer, .boundary, .gate g, inner]
    let app := script [.observe]
    (start "websocket").session.request.Ungated ∧ (start "lifespan").session.request.Ungated ∧
      (stack.flow app).run (start "websocket") =
        (Stack.flow [.boundary, outer, .boundary, inner] app).run (start "websocket") ∧
      Trace.consultations 0 ((stack.flow app).run (start "websocket")).2.session.trace = [] ∧
      (∃ m' : Machine, m'.observation.identity = some { id := "scott" } ∧
        Ending.report ((stack.flow app).run (start "websocket")) = Ending.report (app.run m')) ∧
      (stack.flow app).run (start "lifespan") = app.run (start "lifespan") := by
  intro bytes header start g outer inner stack app
  have hwebsocket : (start "websocket").session.request.Ungated := ⟨rfl, rfl⟩
  have hlifespan : (start "lifespan").session.request.Ungated := ⟨rfl, rfl⟩
  have happ : app.Uncalling := fun _ => ⟨fun _ => ⟨rfl, rfl⟩, trivial⟩
  obtain ⟨hgates, hcalls, -, hinner⟩ :=
    run_of_other_type stack hwebsocket Nat.zero_lt_one rfl
  obtain ⟨-, -, hlayers, -⟩ := run_of_other_type stack hlifespan Nat.zero_lt_one rfl
  obtain ⟨hreport, id, -, hbound⟩ := hinner rfl [.boundary, outer] [.gate g, inner] rfl
    (by intro layer hmem; rcases List.mem_pair.1 hmem with rfl | rfl <;> rfl)
  refine ⟨hwebsocket, hlifespan, hgates app, (hcalls app happ 0).1, ⟨_, ?_, hreport app⟩,
    (hlayers rfl app).2.1⟩
  exact hbound.current

end Stack

end Turnstile
