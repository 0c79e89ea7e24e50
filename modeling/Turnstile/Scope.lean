import Turnstile.Context
import Turnstile.Http.Headers
import Turnstile.Http.Url

namespace Turnstile

/-!
# Scopes

The scope of a request is what arrives with it, and a state that the layers and the application
share.

* `Request` — what arrives;
* `ScopeState` — the state, names with values, one of which can be a context;
* `Scope` — the two together;
* `StateView` — what can be read from a state.
-/

/-- What arrives with a request; a request may leave out most of it.  Its type and path are texts,
    but any other value in their place is carried along.  The server is the one that the request has
    reached.  One that does not keep state has nothing where its scope should have a state, and can
    hold no context there. -/
structure Request where
  type : Option Value
  path : Option Value := none
  headers : Option (List Http.RawHeader) := none
  method : Text := "GET"
  query : List UInt8 := []
  scheme : Text := "http"
  server : Option Http.Server := none
  keepsState : Bool := true

/-- The request is of the given type. -/
def Request.hasType (r : Request) (type : Text) : Bool :=
  match r.type with
  | some (.text t) => t == type
  | _ => false

/-- A request of some type has a type. -/
theorem Request.isNone_type_of_hasType {r : Request} {type : Text}
    (h : r.hasType type = true) : r.type.isNone = false := by
  unfold hasType at h
  cases ht : r.type with
  | none => simp [ht] at h
  | some _ => rfl

/-- The path of a request, empty when it has none. -/
def Request.pathText (r : Request) : Text :=
  (r.path.map Value.plain).getD ""

/-- The value of the first `Authorization` header. -/
def Request.authorization (r : Request) : Option Text :=
  Http.header? "authorization" (r.headers.getD [])

/-- What a state holds under a name. -/
inductive Held
  | value (v : Value)
  | context (id : ContextId)

/-- The state of a scope: names, each once, with what is held under them. -/
abbrev ScopeState := List (Text × Held)

/-- The name under which a state holds the context of its request. -/
def contextKey : Text := "identity_context"

namespace ScopeState

/-- Holds something under a name, in the place of what was held there. -/
def put (name : Text) (held : Held) : ScopeState → ScopeState
  | [] => [(name, held)]
  | e :: es => if e.1 = name then (name, held) :: es else e :: put name held es

/-- The state of a scope, created if it is missing, with a context held in it. -/
def attach (id : ContextId) (state : Option ScopeState) : ScopeState :=
  put contextKey (.context id) (state.getD [])

/-- The context that a state holds. -/
def context? (st : ScopeState) : Option ContextId :=
  match st.lookup contextKey with
  | some (.context id) => some id
  | _ => none

/-- What is held under a name is what was put there last. -/
theorem lookup_put (name : Text) (held : Held) (st : ScopeState) (other : Text) :
    (put name held st).lookup other = if other = name then some held else st.lookup other := by
  induction st with
  | nil =>
    rw [put, List.lookup_cons, List.lookup_nil]
    by_cases h : other = name
    · simp [h]
    · simp [h, beq_eq_false_iff_ne.2 h]
  | cons e es ih =>
    obtain ⟨key, value⟩ := e
    unfold put
    by_cases hkey : key = name
    · rw [if_pos hkey, List.lookup_cons, List.lookup_cons, hkey]
      by_cases h : other = name
      · simp [h]
      · simp [h, beq_eq_false_iff_ne.2 h]
    · rw [if_neg hkey, List.lookup_cons, List.lookup_cons, ih]
      by_cases h : other = key
      · simp [h, hkey]
      · simp [beq_eq_false_iff_ne.2 h]

/-- Of two things put under one name only the second is left. -/
theorem put_put (name : Text) (held held' : Held) (st : ScopeState) :
    put name held' (put name held st) = put name held' st := by
  induction st with
  | nil => simp [put]
  | cons e es ih =>
    by_cases he : e.1 = name
    · simp [put, he]
    · simp only [put, he, if_false, ih]

@[simp] theorem context?_attach (id : ContextId) (state : Option ScopeState) :
    (attach id state).context? = some id := by
  simp [context?, attach, lookup_put]

@[simp] theorem attach_attach (id id' : ContextId) (state : Option ScopeState) :
    attach id' (some (attach id state)) = attach id' state :=
  put_put _ _ _ _

/-- Holding a context in a state leaves everything else in it alone. -/
theorem lookup_attach (id : ContextId) (state : Option ScopeState) {name : Text}
    (h : name ≠ contextKey) : (attach id state).lookup name = (state.getD []).lookup name := by
  rw [attach, lookup_put, if_neg h]

/-- The names of a state in order. -/
def names (st : ScopeState) : List Text :=
  (st.map (·.1)).mergeSort Text.precedes

end ScopeState

/-- A request with the state of its scope, which may be missing. -/
structure Scope where
  request : Request
  state : Option ScopeState := none

/-- What can be read from the state of a scope: its names, the identity in the context it holds, and
    whether that context is the bound one. -/
structure StateView where
  names : List Text
  identity : Option Identity
  isBound : Bool

/-- What can be read from a state. -/
def ScopeState.view (st : ScopeState) (cs : Contexts) (b : Binding) : StateView where
  names := st.names
  identity := st.context?.bind cs.get
  isBound := match st.context? with
    | some id => b.bound == some id
    | none => false

end Turnstile
