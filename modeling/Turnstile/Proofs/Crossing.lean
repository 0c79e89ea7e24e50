import Turnstile.Codec.Usual
import Turnstile.Proofs.Descent

namespace Turnstile

/-!
# Crossing a layer

What a layer does with a request is settled by the type of the request and by whether a context is
bound.

* `Layer.run_boundary_of_opening`, `Layer.run_gate_of_unbound` — the layers that give a request a
  context of its own;
* `Layer.run_boundary_of_other`, `Layer.run_assign_of_unbound`, `Layer.run_gate_of_other` — the
  layers that a request crosses as if they were not there;
* `Layer.opens` — a layer that gives a request a context of its own, with what comes of requests at
  such a layer and at all others;
* `Layer.run_congr` — a layer other than a gate goes by what is inside of it alone;
* `Stack.boundary_above_gate` — **the outermost gate is a boundary**.
-/

/-- A request of a type for which a boundary opens a context. -/
def Request.isBounded (r : Request) : Bool :=
  r.hasType "http" || r.hasType "websocket"

theorem Request.isNone_type_of_isBounded {r : Request} (h : r.isBounded = true) :
    r.type.isNone = false :=
  (Bool.or_eq_true_iff.1 h).elim isNone_type_of_hasType isNone_type_of_hasType

theorem Request.isBounded_of_http {r : Request} (h : r.hasType "http" = true) :
    r.isBounded = true :=
  Bool.or_eq_true_iff.2 (.inl h)

namespace Layer

variable {m : Machine} (number : Nat) (inner : Flow Outcome)

/-! ### Boundaries -/

theorem run_boundary_of_opening (h : m.session.request.isBounded = true) :
    (Layer.boundary.flow number inner).run m = (Flow.inContext inner).run m := by
  have htype := Request.isNone_type_of_isBounded h
  unfold Request.isBounded at h
  simp only [Layer.flow, boundaryFlow, Flow.run_view_bind, Machine.view_request, htype,
    Bool.false_eq_true, if_false, h, if_true]

theorem run_boundary_of_other (htype : m.session.request.type.isNone = false)
    (h : m.session.request.isBounded = false) :
    (Layer.boundary.flow number inner).run m = inner.run m := by
  unfold Request.isBounded at h
  simp only [Layer.flow, boundaryFlow, Flow.run_view_bind, Machine.view_request, htype,
    Bool.false_eq_true, if_false, h]

/-! ### Stages that establish an identity -/

theorem run_assign_of_unbound (h : m.session.binding.bound = none) (identity : Option Identity) :
    ((Layer.assign identity).flow number inner).run m = inner.run m := by
  simp [Layer.flow, assignFlow, h]

/-! ### Gates -/

variable (g : Gate)

theorem run_gate_of_bound (hhttp : m.session.request.hasType "http" = true)
    (h : m.session.binding.bound.isSome = true) :
    ((Layer.gate g).flow number inner).run m = (g.guard number inner).run m := by
  have htype := Request.isNone_type_of_hasType hhttp
  simp only [Layer.flow, gateFlow, Flow.run_view_bind, Machine.view_request, htype,
    Bool.false_eq_true, if_false, hhttp, if_true, Machine.view_here, Machine.observation_bound, h]

theorem run_gate_of_unbound (hhttp : m.session.request.hasType "http" = true)
    (h : m.session.binding.bound = none) :
    ((Layer.gate g).flow number inner).run m = (Flow.inContext (g.guard number inner)).run m := by
  have htype := Request.isNone_type_of_hasType hhttp
  simp only [Layer.flow, gateFlow, Flow.run_view_bind, Machine.view_request, htype,
    Bool.false_eq_true, if_false, hhttp, if_true, Machine.view_here, Machine.observation_bound, h,
    Option.isSome_none]

theorem run_gate_of_other (htype : m.session.request.type.isNone = false)
    (h : m.session.request.hasType "http" = false) :
    ((Layer.gate g).flow number inner).run m = inner.run m := by
  simp only [Layer.flow, gateFlow, Flow.run_view_bind, Machine.view_request, htype,
    Bool.false_eq_true, if_false, h]

/-! ### The way in -/

theorem descend_boundary_of_opening (h : m.session.request.isBounded = true) :
    Layer.boundary.descend number m = m.opened := by
  have htype := Request.isNone_type_of_isBounded h
  unfold Request.isBounded at h
  simp only [descend, Machine.view_request, htype, Bool.false_eq_true, if_false, h, if_true]

theorem descend_gate_of_bound (hhttp : m.session.request.hasType "http" = true)
    (h : m.session.binding.bound.isSome = true) :
    (Layer.gate g).descend number m = g.descend number m := by
  have htype := Request.isNone_type_of_hasType hhttp
  simp only [descend, Machine.view_request, htype, Bool.false_eq_true, if_false, hhttp, if_true,
    Machine.view_here, Machine.observation_bound, h]

theorem descend_gate_of_unbound (hhttp : m.session.request.hasType "http" = true)
    (h : m.session.binding.bound = none) :
    (Layer.gate g).descend number m = m.opened >>= g.descend number := by
  have htype := Request.isNone_type_of_hasType hhttp
  simp only [descend, Machine.view_request, htype, Bool.false_eq_true, if_false, hhttp, if_true,
    Machine.view_here, Machine.observation_bound, h, Option.isSome_none]

/-! ### Layers that open a context -/

/-- The layer gives such a request a context of its own, if none is bound. -/
def opens (r : Request) : Layer → Bool
  | .boundary => r.isBounded
  | .assign _ => false
  | .gate _ => r.hasType "http"

theorem isNone_type_of_opens {layer : Layer} {r : Request} (h : layer.opens r = true) :
    r.type.isNone = false := by
  cases layer with
  | boundary => exact Request.isNone_type_of_isBounded h
  | assign identity => nomatch h
  | gate g => exact Request.isNone_type_of_hasType h

variable {layer : Layer}

/-- A request that cannot have the context that it is to be given ends there. -/
theorem run_of_opens_stateless (h : layer.opens m.session.request = true)
    (hkeeps : m.session.request.keepsState = false) (hbound : m.session.binding.bound = none) :
    (layer.flow number inner).run m = (.error .nullState, m) := by
  cases layer with
  | boundary => rw [run_boundary_of_opening _ _ h, Flow.run_inContext, hkeeps]; rfl
  | assign identity => nomatch h
  | gate g => rw [run_gate_of_unbound _ _ g h hbound, Flow.run_inContext, hkeeps]; rfl

/-- Once a context has been opened, it does not matter any more what there was before. -/
theorem run_congr_of_opens {m' : Machine} (h : layer.opens m.session.request = true)
    (hkeeps : m.session.request.keepsState = true) (hbound : m.session.binding.bound = none)
    (hsession : m'.session = m.session)
    (henter : Action.enter.apply m' = Action.enter.apply m) :
    (layer.flow number inner).run m' = (layer.flow number inner).run m := by
  have h' : layer.opens m'.session.request = true := hsession ▸ h
  have hkeeps' : m'.session.request.keepsState = true := hsession ▸ hkeeps
  have hbound' : m'.session.binding.bound = none := hsession ▸ hbound
  cases layer with
  | boundary =>
    rw [run_boundary_of_opening _ _ h, run_boundary_of_opening _ _ h', Flow.run_inContext,
      Flow.run_inContext, if_pos hkeeps, if_pos hkeeps', henter]
  | assign identity => nomatch h
  | gate g =>
    rw [run_gate_of_unbound _ _ g h hbound, run_gate_of_unbound _ _ g h' hbound',
      Flow.run_inContext, Flow.run_inContext, if_pos hkeeps, if_pos hkeeps', henter]

/-- Any other layer is crossed. -/
theorem run_of_not_opens (h : layer.opens m.session.request = false)
    (htype : m.session.request.type.isNone = false) (hbound : m.session.binding.bound = none) :
    (layer.flow number inner).run m = inner.run m := by
  cases layer with
  | boundary => exact run_boundary_of_other _ _ htype h
  | assign identity => exact run_assign_of_unbound _ _ hbound identity
  | gate g => exact run_gate_of_other _ _ g htype h

/-- A request that does not say of what type it is gets no further than the first boundary or
    gate. -/
theorem run_of_untyped (htype : m.session.request.type.isNone = true)
    (hbound : m.session.binding.bound = none) :
    (layer.flow number inner).run m = inner.run m ∨
      (layer.flow number inner).run m = (.error .missingType, m) := by
  cases layer with
  | boundary =>
    refine .inr ?_
    simp only [Layer.flow, boundaryFlow, Flow.run_view_bind, Machine.view_request, htype, if_true]
    rfl
  | assign identity => exact .inl (run_assign_of_unbound _ _ hbound identity)
  | gate g =>
    refine .inr ?_
    simp only [Layer.flow, gateFlow, Flow.run_view_bind, Machine.view_request, htype, if_true]
    rfl

/-! ### Layers with something else inside -/

variable {number inner}

/-- A layer other than a gate goes by what is inside of it, and not by its number. -/
theorem run_congr (hlayer : layer.isGate = false) {inner' : Flow Outcome}
    (h : ∀ m', m'.session.request = m.session.request → inner.run m' = inner'.run m')
    (number' : Nat) : (layer.flow number inner).run m = (layer.flow number' inner').run m := by
  cases layer with
  | boundary =>
    simp only [Layer.flow, boundaryFlow, Flow.run_view_bind]
    split_ifs
    · rfl
    · rw [Flow.run_inContext, Flow.run_inContext, h _ (Action.apply_request .enter m)]
    · exact h m rfl
  | assign identity =>
    simp only [Layer.flow, assignFlow, Flow.run_view_bind]
    split_ifs
    · cases identity with
      | none => rfl
      | some i => exact h _ (Action.apply_request (.assign i) m)
    · exact h m rfl
  | gate g => cases hlayer

end Layer

/-! ### The outermost gate -/

namespace Stack

/-- **The outermost gate is a boundary.**  A request over HTTP comes to a stack whose outermost
    layer is a gate, with no context bound.  A boundary on top of the stack makes no difference:
    the request ends in the same way and on the same machine, and the application is reached on the
    same machine, if it is reached. -/
theorem boundary_above_gate (g : Gate) (layers : Stack) {m : Machine}
    (hhttp : m.session.request.hasType "http" = true) (hbound : m.session.binding.bound = none) :
    (∀ app : Flow Outcome, (Stack.flow (.boundary :: .gate g :: layers) app).run m =
        (Stack.flow (.gate g :: layers) app).run m) ∧
      Stack.descend (.boundary :: .gate g :: layers) m = Stack.descend (.gate g :: layers) m := by
  -- where a boundary has opened the context, the gate finds it bound
  have hhttp' : (Action.enter.apply m).session.request.hasType "http" = true := hhttp
  have hbound' : (Action.enter.apply m).session.binding.bound.isSome = true := rfl
  constructor
  · intro app
    show (Layer.boundary.flow 0 ((Layer.gate g).flow 0 (flowFrom app 1 layers))).run m =
      ((Layer.gate g).flow 0 (flowFrom app 1 layers)).run m
    rw [Layer.run_boundary_of_opening _ _ (Request.isBounded_of_http hhttp),
      Layer.run_gate_of_unbound _ _ _ hhttp hbound, Flow.run_inContext, Flow.run_inContext,
      Layer.run_gate_of_bound _ _ _ hhttp' hbound']
  · show Layer.boundary.descend 0 m >>= descendFrom 0 (.gate g :: layers) =
      (Layer.gate g).descend 0 m >>= descendFrom 1 layers
    rw [Layer.descend_boundary_of_opening 0 (Request.isBounded_of_http hhttp),
      Layer.descend_gate_of_unbound 0 g hhttp hbound]
    unfold Machine.opened
    split
    · show (Layer.gate g).descend 0 (Action.enter.apply m) >>= descendFrom 1 layers =
        g.descend 0 (Action.enter.apply m) >>= descendFrom 1 layers
      rw [Layer.descend_gate_of_bound 0 g hhttp' hbound']
    · rfl

/-- With a boundary on top or without, a gate asks for the same user, and one context is opened. -/
theorem boundary_above_gate_rod :
    let bytes (text : Text) : List UInt8 := text.toList.map fun c => UInt8.ofNat c.toNat
    let header : Http.RawHeader := ⟨bytes "Authorization", bytes "Basic cm9kOmtvYWxh"⟩
    let m : Machine := .start ⟨{ type := some (.text "http"), headers := some [header] }, none⟩
    let g : Gate := ⟨.ofRules false [("rod", .ok (some { id := "rod" }))] (.ok none),
      Challenge.entryPoint ⟨"Zoo", by decide⟩, false, "utf-8", .usual⟩
    let app := script [.observe, .clear]
    m.session.request.hasType "http" = true ∧ m.session.binding.bound = none ∧
      (Stack.flow [.boundary, .gate g] app).run m = (Stack.flow [.gate g] app).run m ∧
      Trace.consultations 0 ((Stack.flow [.gate g] app).run m).2.session.trace =
        [⟨"rod", "koala"⟩] ∧
      ((Stack.flow [.gate g] app).run m).2.shared.contexts.next = 1 := by
  intro bytes header m g app
  exact ⟨rfl, rfl, (boundary_above_gate g [] rfl rfl).1 app, by decide +kernel, by decide +kernel⟩

end Stack

end Turnstile
