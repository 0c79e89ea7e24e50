import Mathlib.Tactic.SplitIfs
import Turnstile.Stack

namespace Turnstile

/-!
# The way in through a stack

A request goes in through the layers of a stack, and on its way out each layer closes the context
that it opened.  The way in alone already settles what comes of the request.

* `Layer.descend`, `Stack.descend` — the way in: the machine at which the application is reached, or
  the layer's own end of the request.  Nothing is ever closed here;
* `Stack.report_run_flow` — **the way out changes nothing**: the outcome of a request and all that
  it has left in its trace are those of the way in and of the application.
-/

/-- How a stretch of a request has ended, and the machine then. -/
abbrev Ending := Outcome × Machine

/-- The outcome of a request, and its trace. -/
def Ending.report (e : Ending) : Outcome × Trace :=
  (e.1, e.2.session.trace)

/-! ### One layer -/

/-- A context opened for a request, which must keep state. -/
def Machine.opened (m : Machine) : Except Ending Machine :=
  if m.session.request.keepsState then .ok (Action.enter.apply m) else .error (.error .nullState, m)

/-- Where a decision of a gate leads a request. -/
def Gate.obey (g : Gate) (number : Nat) (request : Request) :
    Except Fault Decision × Machine → Except Ending Machine
  | (.error fault, m) => .error (.error fault, m)
  | (.ok (.rejected false _ failure), m) => .error ((g.delegate number request failure).run m)
  | (.ok _, m) => .ok m

/-- The way through a gate, in the context that is bound. -/
def Gate.descend (g : Gate) (number : Nat) (m : Machine) : Except Ending Machine :=
  let request := m.view.request
  g.obey number request ((g.evaluate number request.authorization request.pathText).run m)

/-- The way through a layer; `number` counts the gates outside of it. -/
def Layer.descend (layer : Layer) (number : Nat) (m : Machine) : Except Ending Machine :=
  let view := m.view
  match layer with
  | .boundary =>
    if view.request.type.isNone then .error (.error .missingType, m)
    else if view.request.hasType "http" || view.request.hasType "websocket" then m.opened
    else .ok m
  | .assign identity =>
    if view.here.bound then
      match identity with
      | none => .error (.error .noIdentity, m)
      | some i => .ok ((Action.assign i).apply m)
    else .ok m
  | .gate g =>
    if view.request.type.isNone then .error (.error .missingType, m)
    else if view.request.hasType "http" then
      if view.here.bound then g.descend number m else m.opened >>= g.descend number
    else .ok m

/-- What follows a way in: its own end, or the course that it leads to. -/
def goOn (way : Except Ending Machine) (inner : Flow Outcome) : Ending :=
  match way with
  | .error ending => ending
  | .ok m => inner.run m

@[simp] theorem goOn_ok (m : Machine) (inner : Flow Outcome) : goOn (.ok m) inner = inner.run m :=
  rfl

/-- Closing a context changes neither the outcome nor the trace. -/
theorem report_run_inContext (body : Flow Outcome) (m : Machine) :
    Ending.report ((Flow.inContext body).run m) = Ending.report (goOn m.opened body) := by
  rw [Flow.run_inContext]
  unfold Machine.opened
  split <;> rfl

theorem Gate.run_guard (g : Gate) (number : Nat) (inner : Flow Outcome) (m : Machine) :
    (g.guard number inner).run m = goOn (g.descend number m) inner := by
  unfold Gate.guard Gate.descend
  rw [Flow.run_view_bind, Flow.run_bind]
  dsimp only
  -- how the decision has come about does not matter any more
  generalize (g.evaluate number m.view.request.authorization m.view.request.pathText).run m = result
  obtain ⟨decision, m'⟩ := result
  rcases decision with fault | (_ | _ | ⟨_ | _, _, _⟩) <;> rfl

/-- What comes of a request at a layer is settled on the way in. -/
theorem Layer.report_run_flow (layer : Layer) (number : Nat) (inner : Flow Outcome) (m : Machine) :
    Ending.report ((layer.flow number inner).run m) =
      Ending.report (goOn (layer.descend number m) inner) := by
  cases layer with
  | boundary =>
    simp only [Layer.flow, Layer.boundaryFlow, Layer.descend, Flow.run_view_bind]
    split_ifs
    · rfl
    · exact report_run_inContext inner m
    · rfl
  | assign identity =>
    simp only [Layer.flow, Layer.assignFlow, Layer.descend, Flow.run_view_bind]
    split_ifs
    · cases identity <;> rfl
    · rfl
  | gate g =>
    simp only [Layer.flow, Layer.gateFlow, Layer.descend, Flow.run_view_bind]
    split_ifs
    · rfl
    · rw [g.run_guard]
    · rw [report_run_inContext]
      cases m.opened with
      | error ending => rfl
      | ok m' =>
        rw [goOn_ok, g.run_guard]
        rfl
    · rfl

/-! ### A stack of layers -/

/-- The number of the gates from a layer on, behind a number of gates. -/
def Layer.after (layer : Layer) (number : Nat) : Nat :=
  if layer.isGate then number + 1 else number

namespace Stack

/-- The way in through a stack; `number` counts the gates outside of it. -/
def descendFrom : Nat → Stack → Machine → Except Ending Machine
  | _, [], m => .ok m
  | number, layer :: layers, m =>
    layer.descend number m >>= descendFrom (layer.after number) layers

/-- The way in through a stack. -/
def descend (stack : Stack) (m : Machine) : Except Ending Machine :=
  descendFrom 0 stack m

theorem report_run_flowFrom (app : Flow Outcome) (number : Nat) (stack : Stack) (m : Machine) :
    Ending.report ((flowFrom app number stack).run m) =
      Ending.report (goOn (descendFrom number stack m) app) := by
  induction stack generalizing number m with
  | nil => rfl
  | cons layer layers ih =>
    -- to a layer, those inside of it and the application are one flow
    unfold flowFrom descendFrom
    rw [layer.report_run_flow]
    cases layer.descend number m with
    | error ending => rfl
    | ok m' => exact ih (layer.after number) m'

/-- **The way out changes nothing.**  The outcome of a request and its trace are those of the way in
    and of the application at its end. -/
theorem report_run_flow (app : Flow Outcome) (stack : Stack) (m : Machine) :
    Ending.report ((stack.flow app).run m) = Ending.report (goOn (stack.descend m) app) :=
  report_run_flowFrom app 0 stack m

end Stack

end Turnstile
