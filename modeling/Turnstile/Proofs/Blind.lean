import Turnstile.Flow

namespace Turnstile

/-!
# Flows that do not look at credentials

A flow to which the `Authorization` headers of its request make no difference.

* `Request.bare` — a request with its `Authorization` headers taken away;
* `Flow.Blind` — a flow that goes on in the same way whatever they are;
* `Machine.Alike` — machines that differ in them, in the log and in who has been called alone;
* `Flow.Blind.run` — **a blind flow keeps machines alike**, and it comes to the same result on both.
-/

/-! ### Requests without credentials -/

/-- A request with every `Authorization` header taken away. -/
def Request.bare (r : Request) : Request :=
  { r with headers := r.headers.map (·.filter fun h => h.key != ("authorization" : Text)) }

theorem Request.headers_bare (r : Request) :
    r.bare.headers.getD [] =
      (r.headers.getD []).filter fun h => h.key != ("authorization" : Text) := by
  unfold bare
  cases r.headers <;> rfl

theorem Request.bare_bare (r : Request) : r.bare.bare = r.bare := by
  unfold bare
  cases r.headers <;> simp

/-! ### Flows -/

/-- Views that differ in credentials alone. -/
structure View.Alike (v v' : View) : Prop where
  request : v.request.bare = v'.request.bare
  here : v.here = v'.here
  responded : v.responded = v'.responded

namespace Flow

variable {α β : Type}

/-- A flow that goes on in the same way whatever credentials there are. -/
def Blind : Flow α → Prop
  | .done _ => True
  | .look next => (∀ v v', v.Alike v' → next v = next v') ∧ ∀ v, (next v).Blind
  | .act _ next => next.Blind
  | .pause next => next.Blind

theorem Blind.bind {f : Flow α} {k : α → Flow β} (hf : f.Blind) (hk : ∀ a, (k a).Blind) :
    (f >>= k).Blind := by
  show (f.bind k).Blind
  induction f with
  | done a => exact hk a
  | look next ih =>
    exact ⟨fun v v' hv => congrArg (·.bind k) (hf.1 v v' hv), fun v => ih v (hf.2 v)⟩
  | act a next ih => exact ih hf
  | pause next ih => exact ih hf

/-- A flow that looks at what is not credentials. -/
theorem blind_view_bind {k : View → Flow α} (h : ∀ v v', v.Alike v' → k v = k v')
    (hk : ∀ v, (k v).Blind) : (view >>= k).Blind :=
  ⟨h, hk⟩

theorem blind_record (events : List Event) : (record events).Blind := by
  induction events with
  | nil => trivial
  | cons e es ih => exact ih

theorem blind_send (messages : List Http.Message) : (send messages).Blind :=
  blind_record _

end Flow

/-! ### Machines -/

/-- Machines that differ in the credentials of their request, in the log and in who has been called
    alone. -/
structure Machine.Alike (m m' : Machine) : Prop where
  request : m.session.request.bare = m'.session.request.bare
  scope : m.session.scope = m'.session.scope
  binding : m.session.binding = m'.session.binding
  states : m.shared.states = m'.shared.states
  contexts : m.shared.contexts = m'.shared.contexts
  messages : Trace.messages m.session.trace = Trace.messages m'.session.trace

namespace Machine.Alike

variable {m m' : Machine}

theorem observation (h : m.Alike m') : m.observation = m'.observation := by
  unfold Machine.observation Shared.view Shared.state?
  rw [h.scope, h.binding, h.states, h.contexts]

/-- Requests on machines that are alike see the same, credentials apart. -/
theorem view (h : m.Alike m') : m.view.Alike m'.view where
  request := h.request
  here := h.observation
  responded := congrArg (·.any Http.Message.opensResponse) h.messages

theorem withContexts (h : m.Alike m') (cs : Contexts) :
    (m.withContexts cs).Alike (m'.withContexts cs) :=
  { h with contexts := rfl }

theorem putBound (h : m.Alike m') (slot : Option Identity) :
    (m.putBound slot).Alike (m'.putBound slot) := by
  cases hbound : m.session.binding.bound with
  | none =>
    rw [Machine.putBound_of_unbound hbound, Machine.putBound_of_unbound (h.binding ▸ hbound)]
    exact h
  | some id =>
    have hbound' := h.binding ▸ hbound
    rw [Machine.putBound_of_bound hbound, Machine.putBound_of_bound hbound', h.contexts]
    exact h.withContexts _

/-- Each step keeps machines alike. -/
theorem apply (h : m.Alike m') (a : Action) : (a.apply m).Alike (a.apply m') := by
  cases a with
  | enter =>
    have hstate : m.shared.state? m.session.scope = m'.shared.state? m'.session.scope := by
      unfold Shared.state?
      rw [h.states, h.scope]
    have hnext : m.shared.contexts.next = m'.shared.contexts.next := congrArg _ h.contexts
    refine { h with binding := ?_, states := ?_, contexts := ?_ }
    · show m.session.binding.bind _ = m'.session.binding.bind _
      rw [h.binding, hnext]
    · show m.shared.states.set _ _ = m'.shared.states.set _ _
      rw [hstate, hnext, h.states, h.scope]
    · exact congrArg Contexts.grow h.contexts
  | leave =>
    refine { h with binding := congrArg Binding.unbind h.binding, contexts := ?_ }
    show m.shared.contexts.emptyInnermost _ = m'.shared.contexts.emptyInnermost _
    rw [h.contexts, h.binding]
  | assign identity => exact h.putBound (some identity)
  | clear => exact h.putBound none
  | record event =>
    refine { h with messages := ?_ }
    show Trace.messages (m.session.trace ++ [event]) = Trace.messages (m'.session.trace ++ [event])
    rw [Trace.messages_append, Trace.messages_append, h.messages]

end Machine.Alike

/-- **A blind flow keeps machines alike**, and it comes to the same result on both. -/
theorem Flow.Blind.run {α : Type} {f : Flow α} (hf : f.Blind) {m m' : Machine} (h : m.Alike m') :
    (f.run m).1 = (f.run m').1 ∧ (f.run m).2.Alike (f.run m').2 := by
  induction f generalizing m m' with
  | done a => exact ⟨rfl, h⟩
  | look next ih =>
    -- what is seen on the two machines differs in credentials alone, so that the flow goes one way
    have hnext : (look next).run m' = (next m.view).run m' := by
      rw [hf.1 m.view m'.view h.view]
      rfl
    rw [hnext]
    exact ih m.view (hf.2 m.view) h
  | act a next ih => exact ih hf (h.apply a)
  | pause next ih => exact ih hf h

end Turnstile
