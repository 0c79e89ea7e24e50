import Turnstile.Codec.Usual
import Turnstile.Proofs.Descent
import Turnstile.Proofs.Evaluation

namespace Turnstile

/-!
# A stack as a fold

What a stack of layers makes of a request over HTTP, without contexts, bindings or scopes: a fold
from the outermost layer to the innermost over one optional slot.

* `Passage` — how far a request has come: the slot, the gates passed, and the trace;
* `Layer.pass` — what one layer does to a passage, or the end that it puts to the request;
* `Passage.Reached` — a machine that has come as far as a passage;
* `Layer.agree_pass`, `Stack.agree_fold` — the way in through a stack keeps to the fold;
* `Stack.run_keeps_to_fold` — **a stack is its fold**.
-/

/-- How far a request has come on its way in: the slot for its identity, absent as long as no
    context has been opened, the number of gates passed, and the trace. -/
structure Passage where
  slot : Option (Option Identity)
  gates : Nat
  trace : Trace

namespace Passage

/-- A request that opens a context, which it can only do if it keeps state. -/
def opened (r : Request) (p : Passage) : Except (Outcome × Trace) Passage :=
  if r.keepsState then .ok { p with slot := some none } else .error (.error .nullState, p.trace)

/-- Opening a context only makes the slot an empty one. -/
theorem of_opened {r : Request} {p p' : Passage} (h : p.opened r = .ok p') :
    p' = { p with slot := some none } := by
  unfold opened at h
  split at h
  · exact (Except.ok.inj h).symm
  · nomatch h

/-- A request that has passed a gate: the slot, and what the gate adds to the trace. -/
def through (p : Passage) (slot : Option Identity) (events : Trace) : Passage where
  slot := some slot
  gates := p.gates + 1
  trace := p.trace ++ events

end Passage

/-- A request with credentials at a gate: the authenticator is asked once, and its reply decides.  A
    rejection lets the request go on if it is to be ignored, and otherwise the entry point gives the
    outcome. -/
def Gate.ask (g : Gate) (r : Request) (p : Passage) (c : Credentials) :
    Except (Outcome × Trace) Passage :=
  let asking := g.asking p.gates c
  match (g.authenticator.answer c).reply with
  | .error (.rejected f) =>
    let warned := asking ++ [.logged (warning r.pathText c.username f)]
    if g.ignoreFailure then .ok (p.through none warned)
    else .error ((g.entryPoint.commence r (some (.rejected f))).outcome,
      p.trace ++ warned ++ g.delegation p.gates r f)
  | .error fault => .error (.error fault, p.trace ++ asking)
  | .ok none => .error (.error .noIdentity, p.trace ++ asking)
  | .ok (some identity) =>
    .ok (p.through (some identity) (asking ++ [.logged (success c.username)]))

/-- A request at a gate.  A slot that is filled, or a header value without credentials, lets the
    request through as it is, and one that can not be read ends the request. -/
def Gate.pass (g : Gate) (r : Request) (p : Passage) : Except (Outcome × Trace) Passage :=
  match p.slot.join with
  | some identity => .ok (p.through (some identity) [.logged (skipping r.pathText)])
  | none =>
    match Credentials.read g.registry g.charset r.authorization with
    | .error fault => .error (.error fault, p.trace)
    | .ok (.error skip) => .ok (p.through none (skip.note?.toList.map .logged))
    | .ok (.ok c) => g.ask r p c

theorem Gate.gates_of_ask {g : Gate} {r : Request} {p p' : Passage} {c : Credentials}
    (h : g.ask r p c = .ok p') : p'.gates = p.gates + 1 := by
  unfold Gate.ask at h
  dsimp only at h
  split at h
  · split at h
    · rw [← Except.ok.inj h]
      rfl
    · nomatch h
  · nomatch h
  · nomatch h
  · rw [← Except.ok.inj h]
    rfl

/-- A gate that lets a request through has been passed. -/
theorem Gate.gates_of_pass {g : Gate} {r : Request} {p p' : Passage} (h : g.pass r p = .ok p') :
    p'.gates = p.gates + 1 := by
  unfold Gate.pass at h
  split at h
  · rw [← Except.ok.inj h]
    rfl
  · split at h
    · nomatch h
    · rw [← Except.ok.inj h]
      rfl
    · exact Gate.gates_of_ask h

/-- A request at a layer: a boundary makes the slot an empty one, a stage that establishes an
    identity fills a slot that is there, and a gate makes an absent slot an empty one before it does
    as `Gate.pass` says. -/
def Layer.pass (r : Request) (p : Passage) : Layer → Except (Outcome × Trace) Passage
  | .boundary => p.opened r
  | .assign identity =>
    match p.slot, identity with
    | none, _ => .ok p
    | some _, none => .error (.error .noIdentity, p.trace)
    | some _, some i => .ok { p with slot := some (some i) }
  | .gate g =>
    match p.slot with
    | none => p.opened r >>= g.pass r
    | some _ => g.pass r p

/-- A layer counts the gates as the stack does. -/
theorem Layer.gates_of_pass {layer : Layer} {r : Request} {p p' : Passage}
    (h : layer.pass r p = .ok p') : p'.gates = layer.after p.gates := by
  unfold Layer.pass at h
  cases layer with
  | boundary =>
    rw [Passage.of_opened h]
    rfl
  | assign identity =>
    dsimp only at h
    split at h
    · rw [← Except.ok.inj h]
      rfl
    · nomatch h
    · rw [← Except.ok.inj h]
      rfl
  | gate g =>
    dsimp only at h
    split at h
    · cases hopened : p.opened r with
      | error verdict =>
        rw [hopened] at h
        nomatch h
      | ok q =>
        rw [hopened] at h
        rw [Gate.gates_of_pass h, Passage.of_opened hopened]
        rfl
    · exact Gate.gates_of_pass h

/-- A request at a stack, from the outermost layer to the innermost. -/
def Stack.fold (stack : Stack) (r : Request) (p : Passage) : Except (Outcome × Trace) Passage :=
  stack.foldlM (Layer.pass r) p

/-! ### Machines on the way -/

/-- The bound context of a machine: it is open, it holds an identity or nothing, and the state of
    the scope holds it. -/
structure Machine.BoundTo (m : Machine) (id : ContextId) (held : Option Identity) : Prop where
  bound : m.session.binding.bound = some id
  opened : id < m.shared.contexts.next
  holds : m.shared.contexts.get id = held
  state : ∃ st, m.shared.state? m.session.scope = some st ∧ st.context? = some id

namespace Machine.BoundTo

variable {m : Machine} {id : ContextId} {held : Option Identity}

theorem current (h : m.BoundTo id held) : m.shared.contexts.current m.session.binding = held := by
  unfold Contexts.current
  rw [h.bound]
  exact h.holds

theorem tell (h : m.BoundTo id held) (events : Trace) : (m.tell events).BoundTo id held :=
  ⟨h.bound, h.opened, h.holds, h.state⟩

theorem putBound (h : m.BoundTo id held) (slot : Option Identity) :
    (m.putBound slot).BoundTo id slot where
  bound := by rw [putBound_session, h.bound]
  opened := by rw [putBound_next]; exact h.opened
  holds := get_putBound_self h.bound h.opened slot
  state := by
    unfold Shared.state?
    rw [putBound_session, putBound_states]
    exact h.state

/-- A context that has just been opened is empty. -/
theorem enter (hscope : m.session.scope < m.shared.states.length) :
    (Action.enter.apply m).BoundTo m.shared.contexts.next none where
  bound := rfl
  opened := by
    show m.shared.contexts.next < m.shared.contexts.grow.next
    rw [Contexts.next_grow]
    exact Nat.lt_succ_self _
  holds := by
    show m.shared.contexts.grow.get m.shared.contexts.next = none
    rw [Contexts.get_grow]
    exact Contexts.get_eq_none (Nat.le_refl _)
  state := ⟨_, Shared.state?_openContext hscope, ScopeState.context?_attach _ _⟩

end Machine.BoundTo

/-- A machine that has come as far as a passage: as long as the slot is absent it is the machine
    from which the request has started, and then its bound context is the slot. -/
structure Passage.Reached (start : Machine) (p : Passage) (m : Machine) : Prop where
  request : m.session.request = start.session.request
  scope : m.session.scope < m.shared.states.length
  trace : m.session.trace = p.trace
  slot : match p.slot with
    | none => m = start
    | some held => ∃ id, m.BoundTo id held

/-- A way in agrees with a passage: both have come equally far, or both have ended alike. -/
def Agree (start : Machine) : Except (Outcome × Trace) Passage → Except Ending Machine → Prop
  | .error verdict, .error ending => ending.report = verdict
  | .ok p, .ok m => p.Reached start m
  | _, _ => False

section

variable {start m : Machine} {p : Passage}

/-- What agrees stays in agreement as long as each next step does. -/
theorem Agree.bind {come : Except (Outcome × Trace) Passage} {way : Except Ending Machine}
    (h : Agree start come way) {next : Passage → Except (Outcome × Trace) Passage}
    {step : Machine → Except Ending Machine}
    (hnext : ∀ p m, come = .ok p → p.Reached start m → Agree start (next p) (step m)) :
    Agree start (come >>= next) (way >>= step) := by
  cases come with
  | error verdict =>
    cases way with
    | error ending => exact h
    | ok m => exact h.elim
  | ok p =>
    cases way with
    | error ending => exact h.elim
    | ok m => exact hnext p m rfl h

namespace Passage.Reached

theorem boundTo (h : p.Reached start m) {held : Option Identity} (hp : p.slot = some held) :
    ∃ id, m.BoundTo id held := by
  have hslot := h.slot
  rw [hp] at hslot
  exact hslot

theorem eq_start (h : p.Reached start m) (hp : p.slot = none) : m = start := by
  have hslot := h.slot
  rw [hp] at hslot
  exact hslot

/-- A context is bound to a request as soon as there is a slot. -/
theorem bound_isSome (hstart : start.session.binding.bound = none) (h : p.Reached start m) :
    m.session.binding.bound.isSome = p.slot.isSome := by
  cases hp : p.slot with
  | none =>
    rw [h.eq_start hp, hstart]
    rfl
  | some held =>
    obtain ⟨id, hid⟩ := h.boundTo hp
    rw [hid.bound]
    rfl

/-- What a request sees is what is in its slot. -/
theorem current (hstart : start.session.binding.bound = none) (h : p.Reached start m) :
    m.shared.contexts.current m.session.binding = p.slot.join := by
  cases hp : p.slot with
  | none =>
    rw [h.eq_start hp, Contexts.current, hstart]
    rfl
  | some held =>
    obtain ⟨id, hid⟩ := h.boundTo hp
    exact hid.current

/-- A request that has gone on with what it adds to the trace. -/
theorem through (h : p.Reached start m) {id : ContextId} {slot : Option Identity}
    (hbound : m.BoundTo id slot) (events : Trace) :
    (p.through slot events).Reached start (m.tell events) :=
  ⟨h.request, h.scope, congrArg (· ++ events) h.trace, id, hbound.tell events⟩

/-- What is put into the bound context is the slot, and nothing else changes. -/
theorem putBound (h : p.Reached start m) {id : ContextId} {held : Option Identity}
    (hbound : m.BoundTo id held) (slot : Option Identity) :
    Passage.Reached start { p with slot := some slot } (m.putBound slot) := by
  refine ⟨?_, ?_, ?_, id, hbound.putBound slot⟩
  · rw [Machine.putBound_session, h.request]
  · rw [Machine.putBound_session, Machine.putBound_states]
    exact h.scope
  · rw [Machine.putBound_session]
    exact h.trace

/-- A context that a request opens is the slot that it gets. -/
theorem opened (h : p.Reached start m) :
    Agree start (p.opened start.session.request) m.opened := by
  unfold Passage.opened Machine.opened
  rw [h.request]
  split
  · refine ⟨?_, ?_, h.trace, _, .enter h.scope⟩
    · rw [Action.apply_request, h.request]
    · rw [Action.apply_scope, Action.length_states_apply]
      exact h.scope
  · exact congrArg (Prod.mk _) h.trace

end Passage.Reached

/-- Asking the authenticator keeps to the passage. -/
theorem Gate.agree_ask (g : Gate) (h : p.Reached start m) {id : ContextId}
    {held : Option Identity} (hbound : m.BoundTo id held) (c : Credentials) :
    Agree start (g.ask start.session.request p c)
      (g.obey p.gates start.session.request
        ((g.attempt p.gates start.session.request.pathText c).run m)) := by
  have hasked : (m.tell (g.asking p.gates c)).session.trace = p.trace ++ g.asking p.gates c :=
    congrArg (· ++ _) h.trace
  -- whatever the reply puts into the bound context, the request goes on with it as its slot
  have hput : ∀ slot events,
      (p.through slot (g.asking p.gates c ++ events)).Reached start
        (((m.tell (g.asking p.gates c)).putBound slot).tell events) := by
    intro slot events
    have hreached := ((h.through hbound (g.asking p.gates c)).putBound
      (hbound.tell _) slot).through ((hbound.tell _).putBound slot) events
    exact ⟨hreached.request, hreached.scope,
      hreached.trace.trans (List.append_assoc _ _ _), hreached.slot⟩
  rw [g.run_attempt, g.run_settle]
  unfold Gate.ask
  cases (g.authenticator.answer c).reply with
  | error fault =>
    cases fault
    case rejected f =>
      cases hignore : g.ignoreFailure with
      | true => exact hput none _
      | false =>
        -- the entry point gives the outcome, and the bound context makes no difference to it
        show Ending.report ((g.delegate _ _ f).run _) = _
        rw [g.run_delegate]
        refine congrArg (Prod.mk _) ?_
        show (Machine.putBound _ none).session.trace ++ _ ++ _ = _
        rw [Machine.putBound_session, hasked, List.append_assoc p.trace]
    all_goals exact congrArg (Prod.mk _) hasked
  | ok slot =>
    cases slot with
    | none => exact congrArg (Prod.mk _) hasked
    | some identity => exact hput (some identity) _

/-- A gate keeps to its passage in a context that is bound. -/
theorem Gate.agree_pass (g : Gate) (h : p.Reached start m) {held : Option Identity}
    (hp : p.slot = some held) :
    Agree start (g.pass start.session.request p) (g.descend p.gates m) := by
  obtain ⟨id, hid⟩ := h.boundTo hp
  have hjoin : p.slot.join = held := by rw [hp]; rfl
  unfold Gate.pass Gate.descend
  rw [Machine.view_request, h.request, hjoin]
  dsimp only
  cases held with
  | some identity =>
    rw [g.run_evaluate_of_filled (by rw [hid.current]; rfl)]
    exact h.through hid _
  | none =>
    rw [g.run_evaluate_of_empty hid.current]
    rcases Credentials.read g.registry g.charset start.session.request.authorization with
      fault | skip | c
    · exact congrArg (Prod.mk _) h.trace
    · exact h.through hid _
    · exact g.agree_ask h hid c

/-- A layer keeps to its passage. -/
theorem Layer.agree_pass (layer : Layer) (hhttp : start.session.request.hasType "http" = true)
    (hstart : start.session.binding.bound = none) (h : p.Reached start m) :
    Agree start (layer.pass start.session.request p) (layer.descend p.gates m) := by
  have htype := Request.isNone_type_of_hasType hhttp
  -- what a layer asks of the machine, whether a context is bound, is whether there is a slot
  have hbound := h.bound_isSome hstart
  unfold Layer.pass Layer.descend
  cases layer with
  | boundary =>
    simp only [Machine.view_request, h.request, htype, hhttp, Bool.true_or, if_true]
    exact h.opened
  | assign identity =>
    simp only [Machine.view_here, Machine.observation_bound, hbound]
    cases hp : p.slot with
    | none => exact h
    | some held =>
      obtain ⟨id, hid⟩ := h.boundTo hp
      cases identity with
      | none => exact congrArg (Prod.mk _) h.trace
      | some i => exact h.putBound hid (some i)
  | gate g =>
    simp only [Machine.view_request, Machine.view_here, Machine.observation_bound, h.request, htype,
      hhttp, hbound]
    cases hp : p.slot with
    | none =>
      -- the gate opens a context, and what is in it is the empty slot that the gate finds
      refine h.opened.bind fun p' m' hp' h' => ?_
      have hopened := Passage.of_opened hp'
      have hgates : p'.gates = p.gates := by rw [hopened]
      rw [← hgates]
      exact g.agree_pass h' (by rw [hopened])
    | some held => exact g.agree_pass h hp

/-- The way in through a stack keeps to its fold. -/
theorem Stack.agree_fold (hhttp : start.session.request.hasType "http" = true)
    (hstart : start.session.binding.bound = none) (stack : Stack) (h : p.Reached start m) :
    Agree start (stack.fold start.session.request p) (stack.descendFrom p.gates m) := by
  induction stack generalizing p m with
  | nil => exact h
  | cons layer layers ih =>
    show Agree start (layer.pass _ p >>= Stack.fold layers _) _
    -- the stack counts the gates by itself, while a passage carries their number
    refine (layer.agree_pass hhttp hstart h).bind fun p' m' hpass h' => ?_
    rw [← Layer.gates_of_pass hpass]
    exact ih h'

/-- Where the fold ends a request, so does the stack. -/
theorem Stack.report_of_fold_error {stack : Stack} {verdict : Outcome × Trace}
    (hhttp : m.session.request.hasType "http" = true)
    (hscope : m.session.scope < m.shared.states.length) (hbound : m.session.binding.bound = none)
    (hfold : stack.fold m.session.request ⟨none, 0, m.session.trace⟩ = .error verdict)
    (app : Flow Outcome) : Ending.report ((stack.flow app).run m) = verdict := by
  have hagree := Stack.agree_fold hhttp hbound stack
    (p := ⟨none, 0, m.session.trace⟩) ⟨rfl, hscope, rfl, rfl⟩
  rw [Stack.report_run_flow, Stack.descend]
  rw [hfold] at hagree
  cases hway : Stack.descendFrom 0 stack m with
  | error ending =>
    rw [hway] at hagree
    exact hagree
  | ok m' =>
    rw [hway] at hagree
    exact hagree.elim

/-- Where the fold lets a request through, the application is reached. -/
theorem Stack.report_of_fold_ok {stack : Stack}
    (hhttp : m.session.request.hasType "http" = true)
    (hscope : m.session.scope < m.shared.states.length) (hbound : m.session.binding.bound = none)
    (hfold : stack.fold m.session.request ⟨none, 0, m.session.trace⟩ = .ok p) :
    ∃ m', p.Reached m m' ∧
      ∀ app, Ending.report ((stack.flow app).run m) = Ending.report (app.run m') := by
  have hagree := Stack.agree_fold hhttp hbound stack
    (p := ⟨none, 0, m.session.trace⟩) ⟨rfl, hscope, rfl, rfl⟩
  rw [hfold] at hagree
  cases hway : Stack.descendFrom 0 stack m with
  | error ending =>
    rw [hway] at hagree
    exact hagree.elim
  | ok m' =>
    rw [hway] at hagree
    refine ⟨m', hagree, fun app => ?_⟩
    rw [Stack.report_run_flow, Stack.descend, hway, goOn_ok]

end

/-- **A stack is its fold.**  A request over HTTP that comes with no context bound is ended by the
    stack exactly if the fold ends it, and in the same way whatever the application is.  Otherwise
    the application is reached on a machine that has come as far as the fold, and sees what is in
    the slot. -/
theorem Stack.run_keeps_to_fold (stack : Stack) {m : Machine}
    (hhttp : m.session.request.hasType "http" = true)
    (hscope : m.session.scope < m.shared.states.length)
    (hbound : m.session.binding.bound = none) :
    match stack.fold m.session.request ⟨none, 0, m.session.trace⟩ with
    | .error verdict => ∀ app, Ending.report ((stack.flow app).run m) = verdict
    | .ok p => ∃ m', p.Reached m m' ∧
        m'.observation.bound = p.slot.isSome ∧ m'.observation.identity = p.slot.join ∧
        ∀ app, Ending.report ((stack.flow app).run m) = Ending.report (app.run m') := by
  cases hfold : stack.fold m.session.request ⟨none, 0, m.session.trace⟩ with
  | error verdict => exact Stack.report_of_fold_error hhttp hscope hbound hfold
  | ok p =>
    obtain ⟨m', hreached, hrun⟩ := Stack.report_of_fold_ok hhttp hscope hbound hfold
    exact ⟨m', hreached, hreached.bound_isSome hbound, hreached.current hbound, hrun⟩

/-- A boundary hides the identity established above it, and a gate below the boundary asks for the
    user in the header and fills the slot. -/
theorem Stack.run_keeps_to_fold_rod :
    let bytes (text : Text) : List UInt8 := text.toList.map fun c => UInt8.ofNat c.toNat
    let header : Http.RawHeader := ⟨bytes "Authorization", bytes "Basic cm9kOmtvYWxh"⟩
    let m : Machine := .start ⟨{ type := some (.text "http"), headers := some [header] }, none⟩
    let g : Gate := ⟨.ofRules true [("rod", .ok (some { id := "rod" }))] (.ok none),
      ⟨fun _ _ => {}⟩, false, "utf-8", .usual⟩
    let stack : Stack := [.boundary, .assign (some { id := "dianne" }), .boundary, .gate g]
    m.session.request.hasType "http" = true ∧
    ∃ m' : Machine, m'.observation.bound = true ∧
      m'.observation.identity = some { id := "rod" } ∧
      Trace.consultations 0 m'.session.trace = [⟨"rod", "koala"⟩] ∧
      ∀ app, Ending.report ((stack.flow app).run m) = Ending.report (app.run m') := by
  intro bytes header m g stack
  have hfold : stack.fold m.session.request ⟨none, 0, m.session.trace⟩ = .ok
      ⟨some (some { id := "rod" }), 1,
        g.asking 0 ⟨"rod", "koala"⟩ ++ [.logged (Gate.success "rod")]⟩ := by
    have hheader : m.session.request.authorization = some ("Basic cm9kOmtvYWxh" : Text) := by
      decide +kernel
    have hread : Credentials.read g.registry g.charset (some "Basic cm9kOmtvYWxh") =
        .ok (.ok ⟨"rod", "koala"⟩) := by rfl
    -- whatever the request, the gate finds an empty slot
    have hgate : ∀ r : Request, r.keepsState = true →
        stack.fold r ⟨none, 0, []⟩ = g.pass r ⟨some none, 0, []⟩ := by
      intro r hkeeps
      simp only [stack, Stack.fold, Layer.pass, Passage.opened, hkeeps, List.foldlM_cons,
        List.foldlM_nil, if_true, bind_pure]
      rfl
    rw [show m.session.trace = [] from rfl, hgate m.session.request rfl, Gate.pass, hheader]
    dsimp only [Option.join]
    rw [hread]
    rfl
  have hhttp : m.session.request.hasType "http" = true := rfl
  have hscope : m.session.scope < m.shared.states.length := Nat.zero_lt_one
  have hunbound : m.session.binding.bound = none := rfl
  clear_value m
  have hrun := stack.run_keeps_to_fold hhttp hscope hunbound
  rw [hfold] at hrun
  obtain ⟨m', hreached, hbound, hidentity, happ⟩ := hrun
  refine ⟨hhttp, m', hbound, hidentity, ?_, happ⟩
  rw [hreached.trace, Trace.consultations_append, Gate.consultations_asking]
  rfl

end Turnstile
