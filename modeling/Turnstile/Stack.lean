import Turnstile.Gate

namespace Turnstile

/-!
# Stacks of layers

A request passes through layers, the outermost first, before it reaches the application.

* `Layer` — boundaries, stages that establish an identity, and gates;
* `Stack.flow` — the course of a request through a stack and the application behind it;
* `Deed`, `script` — an application as a list of what it does.
-/

/-! ### Layers -/

/-- A layer around the rest of a stack. -/
inductive Layer
  /-- Gives a request a context of its own. -/
  | boundary
  /-- Puts an identity into the bound context, if there is one. -/
  | assign (identity : Option Identity)
  | gate (gate : Gate)

/-- The layers of a stack, the outermost first. -/
abbrev Stack := List Layer

namespace Layer

/-- The layer is a gate. -/
def isGate : Layer → Bool
  | .gate _ => true
  | _ => false

/-- A stage inside a boundary: requests over HTTP and websockets run in a context of their own. -/
def boundaryFlow (inner : Flow Outcome) : Flow Outcome := do
  let request := (← Flow.view).request
  if request.type.isNone then return .error .missingType
  else if request.hasType "http" || request.hasType "websocket" then Flow.inContext inner
  else inner

/-- A stage inside one that establishes an identity. -/
def assignFlow (identity : Option Identity) (inner : Flow Outcome) : Flow Outcome := do
  if (← Flow.view).here.bound then
    match identity with
    | none => return .error .noIdentity
    | some i =>
      Flow.perform (.assign i)
      inner
  else inner

/-- A stage inside the gate of that number.  Only requests over HTTP are held up, and one that has
    no context bound is given its own. -/
def gateFlow (g : Gate) (number : Nat) (inner : Flow Outcome) : Flow Outcome := do
  let view ← Flow.view
  if view.request.type.isNone then return .error .missingType
  else if view.request.hasType "http" then
    if view.here.bound then g.guard number inner else Flow.inContext (g.guard number inner)
  else inner

/-- A stage inside a layer; `number` counts the gates outside of it. -/
def flow (layer : Layer) (number : Nat) (inner : Flow Outcome) : Flow Outcome :=
  match layer with
  | .boundary => boundaryFlow inner
  | .assign identity => assignFlow identity inner
  | .gate g => gateFlow g number inner

end Layer

namespace Stack

/-- The course of a request through a stack; `number` counts the gates outside of it. -/
def flowFrom (app : Flow Outcome) : Nat → Stack → Flow Outcome
  | _, [] => app
  | number, layer :: layers =>
    layer.flow number (flowFrom app (if layer.isGate then number + 1 else number) layers)

/-- The course of a request through a stack and the application behind it. -/
def flow (stack : Stack) (app : Flow Outcome) : Flow Outcome :=
  flowFrom app 0 stack

end Stack

/-! ### Applications -/

/-- What an application can do. -/
inductive Deed
  /-- Lets other requests go on. -/
  | pause
  /-- Looks at the identity of its request. -/
  | observe
  /-- Assigns an identity, lets other requests go on and looks again, if a context is bound. -/
  | assign (identity : Option Identity)
  /-- Clears the context and looks again, if one is bound. -/
  | clear
  | send (message : Http.Message)
  | fail (fault : Fault)

/-- An application as a list of what it does; it ends early when something fails. -/
def script : List Deed → Flow Outcome
  | [] => .done (.ok ())
  | .pause :: deeds => .pause (script deeds)
  | .observe :: deeds => .look fun v => .act (.record (.observed v.here)) (script deeds)
  | .assign identity :: deeds => .look fun v =>
    if v.here.bound then
      match identity with
      | none => .done (.error .noIdentity)
      | some i => .act (.assign i) (.pause (.look fun w =>
          .act (.record (.assigned w.here.identity)) (script deeds)))
    else script deeds
  | .clear :: deeds => .look fun v =>
    if v.here.bound then
      .act .clear (.look fun w => .act (.record (.cleared w.here.identity)) (script deeds))
    else script deeds
  | .send message :: deeds => .act (.record (.sent message)) (script deeds)
  | .fail fault :: _ => .done (.error fault)

end Turnstile
