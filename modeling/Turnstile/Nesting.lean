import Turnstile.Journal
import Turnstile.Scope

namespace Turnstile

/-!
# Nested contexts

Contexts opened one inside another on any of several scopes.

* `Nesting` — the scopes, the contexts and the binding, with a context that stands free and is bound
  to nothing;
* `Nesting.Step` — opening, closing, filling and emptying, with `Nesting.step`.
-/

/-- Contexts opened inside one another on several scopes, and a free-standing one. -/
structure Nesting where
  scopes : List Scope
  contexts : Contexts := .empty
  binding : Binding := .none
  free : Option Identity := none

namespace Nesting

/-- What can be done with nested contexts. -/
inductive Step
  /-- Opens a context on the scope of that number. -/
  | enter (scope : Nat)
  /-- Closes the innermost context; its body may have ended in a fault. -/
  | leave (raised : Option Fault)
  /-- Fills the innermost context, or the free one if none is open. -/
  | assign (identity : Option Identity)
  /-- Empties the innermost context, or the free one if none is open. -/
  | clear
  /-- Only looks. -/
  | look

/-- The number of open contexts. -/
def depth (n : Nesting) : Nat :=
  n.binding.saved.length

/-- The identity in the innermost context, or in the free one if none is open. -/
def top (n : Nesting) : Option Identity :=
  match n.binding.innermost? with
  | some id => n.contexts.get id
  | none => n.free

/-- The identity in the bound context. -/
def current (n : Nesting) : Option Identity :=
  n.contexts.current n.binding

/-- What can be read from the states of the scopes. -/
def views (n : Nesting) : List (Option StateView) :=
  n.scopes.map fun s => s.state.map fun st => st.view n.contexts n.binding

/-- Fills or empties the innermost context, or the free one if none is open. -/
def put (n : Nesting) (slot : Option Identity) : Nesting :=
  match n.binding.innermost? with
  | some id => { n with contexts := n.contexts.put id slot }
  | none => { n with free := slot }

/-- Opens a context on the scope of a number, which must keep state. -/
def enter (n : Nesting) (scope : Nat) : Except Fault Unit × Nesting :=
  match n.scopes[scope]? with
  | none => (.ok (), n)
  | some s =>
    if s.request.keepsState then
      let id := n.contexts.next
      (.ok (), { n with
        scopes := n.scopes.set scope { s with state := some (ScopeState.attach id s.state) }
        contexts := n.contexts.grow
        binding := n.binding.bind id })
    else (.error .nullState, n)

/-- Closes the innermost context. -/
def leave (n : Nesting) : Nesting :=
  { n with
    contexts := n.contexts.emptyInnermost n.binding
    binding := n.binding.unbind }

/-- What a step does, and the fault that comes out of it: that of the body when a context is closed,
    that of filling a context with nothing, and that of a scope which keeps no state. -/
def step (n : Nesting) : Step → Except Fault Unit × Nesting
  | .enter scope => n.enter scope
  | .leave none => (.ok (), n.leave)
  | .leave (some fault) => (.error fault, n.leave)
  | .assign none => (.error .noIdentity, n)
  | .assign (some identity) => (.ok (), n.put (some identity))
  | .clear => (.ok (), n.put none)
  | .look => (.ok (), n)

/-- The identity left in the context that is innermost now, once a step has been taken. -/
def left (n : Nesting) (s : Step) : Option Identity :=
  n.binding.innermost?.bind (n.step s).2.contexts.get

end Nesting

end Turnstile
