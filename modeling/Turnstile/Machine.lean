import Turnstile.Trace

namespace Turnstile

/-!
# Machines

What the course of a request acts on.

* `Shared`, `Session`, `Machine` — what requests share, what one has for itself, and both together;
* `View` — what a request can see;
* `Action` — the steps that change something, with `Action.apply`.

No request names a context: it acts on the bound one, and what it sees of contexts is the
identities in them.
-/

/-! ### What a request acts on and sees -/

/-- The number of a scope. -/
abbrev ScopeId := Nat

/-- What requests share: the contexts opened so far, the states of all scopes, the state of the
    scope of number `n` standing at place `n`, and all that has happened, in order. -/
structure Shared where
  contexts : Contexts := .empty
  states : List (Option ScopeState) := []
  journal : Trace := []

namespace Shared

/-- The state of a scope, which may be missing. -/
def state? (s : Shared) (scope : ScopeId) : Option ScopeState :=
  (s.states[scope]?).join

/-- The number of the next scope. -/
def nextScope (s : Shared) : ScopeId :=
  s.states.length

/-- Adds the next scope with its state. -/
def addScope (s : Shared) (state : Option ScopeState) : Shared :=
  { s with states := s.states ++ [state] }

@[simp] theorem nextScope_addScope (s : Shared) (state : Option ScopeState) :
    (s.addScope state).nextScope = s.nextScope + 1 := by
  simp [nextScope, addScope]

theorem nextScope_lt_addScope (s : Shared) (state : Option ScopeState) :
    s.nextScope < (s.addScope state).states.length := by
  simp [nextScope, addScope]

/-- A scope that has been added has its state. -/
@[simp] theorem state?_addScope_self (s : Shared) (state : Option ScopeState) :
    (s.addScope state).state? s.nextScope = state := by
  simp [state?, addScope, nextScope]

/-- The states of other scopes stay what they are. -/
theorem state?_addScope_of_lt {s : Shared} {scope : ScopeId} (h : scope < s.nextScope)
    (state : Option ScopeState) : (s.addScope state).state? scope = s.state? scope := by
  unfold state? addScope
  rw [List.getElem?_append_left h]

/-- Opens the next context, which is empty, and holds it in the state of a scope. -/
def openContext (s : Shared) (scope : ScopeId) : Shared :=
  { s with
    contexts := s.contexts.grow
    states := s.states.set scope (some (ScopeState.attach s.contexts.next (s.state? scope))) }

/-- The state of a scope on which a context has been opened holds it. -/
theorem state?_openContext {s : Shared} {scope : ScopeId} (h : scope < s.states.length) :
    (s.openContext scope).state? scope =
      some (ScopeState.attach s.contexts.next (s.state? scope)) := by
  unfold state? openContext
  rw [List.getElem?_set_self h]
  rfl

/-- The states of other scopes are left alone. -/
theorem state?_openContext_of_ne (s : Shared) {scope other : ScopeId} (h : scope ≠ other) :
    (s.openContext scope).state? other = s.state? other := by
  unfold state? openContext
  rw [List.getElem?_set_ne h]

/-- What can be read from the state of a scope. -/
def view (s : Shared) (scope : ScopeId) (b : Binding) : Option StateView :=
  (s.state? scope).map fun st => st.view s.contexts b

end Shared

/-- What belongs to one request alone: what arrived, the number of the scope it runs on, its binding
    and its trace. -/
structure Session where
  request : Request
  scope : ScopeId
  binding : Binding := .none
  trace : Trace := []

/-- What a request can act on: all that is shared, and its own session. -/
structure Machine where
  shared : Shared
  session : Session

/-- A request alone on a scope. -/
def Machine.start (scope : Scope) : Machine where
  shared := { states := [scope.state] }
  session := { request := scope.request, scope := 0 }

/-- What a request can see. -/
structure View where
  request : Request
  here : Observation
  /-- A response to the request has been started. -/
  responded : Bool

/-- What the application of a machine can see. -/
def Machine.observation (m : Machine) : Observation where
  bound := m.session.binding.bound.isSome
  identity := m.shared.contexts.current m.session.binding
  state := m.shared.view m.session.scope m.session.binding

/-- What the request of a machine can see. -/
def Machine.view (m : Machine) : View where
  request := m.session.request
  here := m.observation
  responded := (Trace.messages m.session.trace).any Http.Message.opensResponse

@[simp] theorem Machine.observation_bound (m : Machine) :
    m.observation.bound = m.session.binding.bound.isSome := rfl

@[simp] theorem Machine.observation_identity (m : Machine) :
    m.observation.identity = m.shared.contexts.current m.session.binding := rfl

@[simp] theorem Machine.view_request (m : Machine) : m.view.request = m.session.request := rfl

@[simp] theorem Machine.view_here (m : Machine) : m.view.here = m.observation := rfl

/-! ### Steps -/

/-- A step that changes something. -/
inductive Action
  /-- Opens an empty context, holds it in the state of the scope and binds it. -/
  | enter
  /-- Empties the innermost open context and goes back to the binding that it replaced. -/
  | leave
  /-- Fills the bound context. -/
  | assign (identity : Identity)
  /-- Empties the bound context. -/
  | clear
  /-- Adds to the trace, and to the journal of all requests. -/
  | record (event : Event)

/-- The contexts of a machine replaced by others. -/
def Machine.withContexts (m : Machine) (cs : Contexts) : Machine :=
  { m with shared := { m.shared with contexts := cs } }

/-- Fills or empties the bound context; without one nothing happens. -/
def Machine.putBound (m : Machine) (slot : Option Identity) : Machine :=
  match m.session.binding.bound with
  | some id => m.withContexts (m.shared.contexts.put id slot)
  | none => m

/-- What a step does. -/
def Action.apply (a : Action) (m : Machine) : Machine :=
  match a with
  | .enter =>
    { shared := m.shared.openContext m.session.scope
      session := { m.session with binding := m.session.binding.bind m.shared.contexts.next } }
  | .leave =>
    { m.withContexts (m.shared.contexts.emptyInnermost m.session.binding) with
      session := { m.session with binding := m.session.binding.unbind } }
  | .assign identity => m.putBound (some identity)
  | .clear => m.putBound none
  | .record event =>
    { shared := { m.shared with journal := m.shared.journal ++ [event] }
      session := { m.session with trace := m.session.trace ++ [event] } }

theorem Machine.putBound_of_bound {m : Machine} {id : ContextId}
    (h : m.session.binding.bound = some id) (slot : Option Identity) :
    m.putBound slot = m.withContexts (m.shared.contexts.put id slot) := by
  unfold Machine.putBound
  rw [h]

theorem Machine.putBound_of_unbound {m : Machine} (h : m.session.binding.bound = none)
    (slot : Option Identity) : m.putBound slot = m := by
  unfold Machine.putBound
  rw [h]

@[simp] theorem Machine.putBound_session (m : Machine) (slot : Option Identity) :
    (m.putBound slot).session = m.session := by
  unfold Machine.putBound
  cases m.session.binding.bound <;> rfl

@[simp] theorem Machine.putBound_states (m : Machine) (slot : Option Identity) :
    (m.putBound slot).shared.states = m.shared.states := by
  unfold Machine.putBound
  cases m.session.binding.bound <;> rfl

@[simp] theorem Machine.putBound_next (m : Machine) (slot : Option Identity) :
    (m.putBound slot).shared.contexts.next = m.shared.contexts.next := by
  unfold Machine.putBound Machine.withContexts
  cases m.session.binding.bound <;> simp

/-- What is in an open context that is bound is what was put there last. -/
theorem Machine.get_putBound_self {m : Machine} {id : ContextId}
    (hbound : m.session.binding.bound = some id) (h : id < m.shared.contexts.next)
    (slot : Option Identity) : (m.putBound slot).shared.contexts.get id = slot := by
  rw [Machine.putBound_of_bound hbound]
  exact Contexts.get_put_self h slot

/-- Only the bound context changes. -/
theorem Machine.get_putBound_of_ne {m : Machine} {id : ContextId}
    (h : m.session.binding.bound ≠ some id) (slot : Option Identity) :
    (m.putBound slot).shared.contexts.get id = m.shared.contexts.get id := by
  cases hb : m.session.binding.bound with
  | none => rw [Machine.putBound_of_unbound hb]
  | some bound =>
    rw [Machine.putBound_of_bound hb]
    exact Contexts.get_put_of_ne (fun e => h (by rw [hb, e])) slot

@[simp] theorem Action.apply_request (a : Action) (m : Machine) :
    (a.apply m).session.request = m.session.request := by
  cases a <;> simp [Action.apply, Machine.withContexts]

@[simp] theorem Action.apply_scope (a : Action) (m : Machine) :
    (a.apply m).session.scope = m.session.scope := by
  cases a <;> simp [Action.apply, Machine.withContexts]

/-- The state of a scope on which a context has been opened holds it. -/
theorem Action.state?_enter {m : Machine} (h : m.session.scope < m.shared.states.length) :
    (Action.enter.apply m).shared.state? (Action.enter.apply m).session.scope =
      some (ScopeState.attach m.shared.contexts.next (m.shared.state? m.session.scope)) :=
  Shared.state?_openContext h

/-- Opening a context takes the next number. -/
theorem Action.next_enter (m : Machine) :
    (Action.enter.apply m).shared.contexts.next = m.shared.contexts.next + 1 :=
  Contexts.next_grow _

/-- No step takes a context away. -/
theorem Action.next_le_apply (a : Action) (m : Machine) :
    m.shared.contexts.next ≤ (a.apply m).shared.contexts.next := by
  cases a <;> simp [Action.apply, Machine.withContexts, Shared.openContext]

/-- No step adds a scope. -/
@[simp] theorem Action.length_states_apply (a : Action) (m : Machine) :
    (a.apply m).shared.states.length = m.shared.states.length := by
  cases a <;> simp [Action.apply, Machine.withContexts, Shared.openContext]

/-! ### What happens -/

/-- Adds events to the trace, and to the journal of all requests. -/
def Machine.tell (m : Machine) (events : List Event) : Machine where
  shared := { m.shared with journal := m.shared.journal ++ events }
  session := { m.session with trace := m.session.trace ++ events }

@[simp] theorem Machine.tell_nil (m : Machine) : m.tell [] = m := by
  simp [Machine.tell]

theorem Machine.tell_tell (m : Machine) (es es' : List Event) :
    (m.tell es).tell es' = m.tell (es ++ es') := by
  simp [Machine.tell, List.append_assoc]

theorem Machine.tell_cons (m : Machine) (e : Event) (es : List Event) :
    m.tell (e :: es) = ((Action.record e).apply m).tell es := by
  simp [Machine.tell, Action.apply]

end Turnstile
