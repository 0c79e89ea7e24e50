import Mathlib.Logic.Function.Basic
import Turnstile.Flow

namespace Turnstile

/-!
# Requests among others

A request for which others have opened contexts and states in between goes the way that it goes
alone: its contexts have other numbers then, and a request cannot see numbers.

* `Binding.rename`, `ScopeState.values` — bindings and states, whatever the numbers of contexts;
* `Shared.ChangedBy` — what requests on some scopes may have done to what all requests share;
* `Machine.Mirrors` — a machine that others use too is for its request like one that it has for
  itself;
* `Machine.Mirrors.stable` — what others do makes no difference to a request;
* `Machine.Mirrors.apply`, `Machine.Mirrors.run`, `Machine.Mirrors.advance` — **a request goes its
  way on both alike**, and changes nothing of the others'.
-/

/-! ### Contexts under other numbers -/

namespace Binding

/-- A binding with its contexts under other numbers. -/
def rename (f : ContextId → ContextId) (b : Binding) : Binding where
  bound := b.bound.map f
  saved := b.saved.map fun e => (f e.1, e.2.map f)

/-- All contexts of a binding are such that `p` holds of them. -/
structure All (p : ContextId → Prop) (b : Binding) : Prop where
  bound : ∀ id, b.bound = some id → p id
  saved : ∀ e ∈ b.saved, p e.1 ∧ ∀ id, e.2 = some id → p id

@[simp] theorem rename_bind (f : ContextId → ContextId) (b : Binding) (id : ContextId) :
    (b.bind id).rename f = (b.rename f).bind (f id) := rfl

@[simp] theorem innermost?_rename (f : ContextId → ContextId) (b : Binding) :
    (b.rename f).innermost? = b.innermost?.map f := by
  unfold innermost? rename
  cases b.saved <;> rfl

@[simp] theorem rename_unbind (f : ContextId → ContextId) (b : Binding) :
    b.unbind.rename f = (b.rename f).unbind := by
  obtain ⟨bound, saved⟩ := b
  cases saved <;> rfl

variable {p q : ContextId → Prop} {b : Binding}

theorem All.imp (h : b.All p) (hpq : ∀ id, p id → q id) : b.All q where
  bound id hid := hpq id (h.bound id hid)
  saved e he := ⟨hpq _ (h.saved e he).1, fun id hid => hpq id ((h.saved e he).2 id hid)⟩

theorem All.bind (h : b.All p) {id : ContextId} (hid : p id) : (b.bind id).All p where
  bound _ hbound := Option.some.inj hbound ▸ hid
  saved e he := by
    rcases List.mem_cons.1 he with rfl | he
    · exact ⟨hid, h.bound⟩
    · exact h.saved e he

theorem All.unbind (h : b.All p) : b.unbind.All p := by
  obtain ⟨bound, saved⟩ := b
  cases saved with
  | nil => exact h
  | cons e saved =>
    exact ⟨(h.saved e List.mem_cons_self).2, fun e' he' => h.saved e' (List.mem_cons_of_mem _ he')⟩

theorem All.innermost? (h : b.All p) {id : ContextId} (hid : b.innermost? = some id) : p id := by
  obtain ⟨bound, saved⟩ := b
  cases saved with
  | nil => nomatch hid
  | cons e saved => exact Option.some.inj hid ▸ (h.saved e List.mem_cons_self).1

/-- Only the numbers of contexts that are in a binding matter. -/
theorem rename_congr {f g : ContextId → ContextId} (h : b.All fun id => f id = g id) :
    b.rename f = b.rename g := by
  have hmap : ∀ o : Option ContextId, (∀ id, o = some id → f id = g id) → o.map f = o.map g := by
    intro o ho
    cases o with
    | none => rfl
    | some id => exact congrArg some (ho id rfl)
  unfold rename
  rw [hmap b.bound h.bound, List.map_congr_left fun e he => ?_]
  rw [(h.saved e he).1, hmap e.2 (h.saved e he).2]

end Binding

/-- What is held, unless it is a context. -/
def Held.value? : Held → Option Value
  | .value v => some v
  | .context _ => none

namespace ScopeState

/-- The names of a state in their order, with the values under them; contexts are left open. -/
def values (st : ScopeState) : List (Text × Option Value) :=
  st.map fun e => (e.1, e.2.value?)

theorem values_put {st st' : ScopeState} (h : st.values = st'.values) (name : Text)
    {held held' : Held} (hheld : held.value? = held'.value?) :
    (put name held st).values = (put name held' st').values := by
  induction st generalizing st' with
  | nil =>
    cases st' with
    | nil => exact congrArg (fun v => [(name, v)]) hheld
    | cons e' es' => nomatch h
  | cons e es ih =>
    cases st' with
    | nil => nomatch h
    | cons e' es' =>
      obtain ⟨he, hes⟩ := List.cons.inj h
      have hname : e.1 = e'.1 := (Prod.mk.inj he).1
      unfold put
      rw [hname]
      split
      · exact congrArg₂ List.cons (congrArg (Prod.mk name) hheld) hes
      · exact congrArg₂ List.cons he (ih hes)

/-- Two states alike are alike with contexts held in them. -/
theorem values_attach {st st' : Option ScopeState} (h : st.map values = st'.map values)
    (id id' : ContextId) : (attach id st).values = (attach id' st').values := by
  refine values_put ?_ contextKey rfl
  cases st <;> cases st'
  · rfl
  · nomatch h
  · nomatch h
  · exact Option.some.inj h

theorem names_congr {st st' : ScopeState} (h : st.values = st'.values) : st.names = st'.names := by
  have hnames : ∀ es : ScopeState, es.map (·.1) = es.values.map (·.1) := by
    intro es
    rw [values, List.map_map]
    rfl
  rw [names, names, hnames, hnames, h]

end ScopeState

/-! ### What others may change -/

/-- Who has opened a context, told by the number of the scope of the request; nobody for one that
    was there before. -/
abbrev Owners := ContextId → Option ScopeId

/-- What requests on some scopes may have done: they have opened contexts of their own, and changed
    what is in those and the states of their scopes. -/
structure Shared.ChangedBy (scopes : List ScopeId) (owner : Owners) (s : Shared) (owner' : Owners)
    (s' : Shared) : Prop where
  next_le : s.contexts.next ≤ s'.contexts.next
  owners : ∀ id, id < s.contexts.next → owner' id = owner id
  contexts : ∀ id, id < s.contexts.next → (∀ scope ∈ scopes, owner id ≠ some scope) →
    s'.contexts.get id = s.contexts.get id
  length_le : s.states.length ≤ s'.states.length
  states : ∀ scope, scope < s.states.length → scope ∉ scopes → s'.state? scope = s.state? scope

namespace Shared.ChangedBy

variable {scopes scopes' : List ScopeId} {owner owner' owner'' : Owners} {s s' s'' : Shared}

theorem refl (scopes : List ScopeId) (owner : Owners) (s : Shared) :
    s.ChangedBy scopes owner owner s :=
  ⟨Nat.le_refl _, fun _ _ => rfl, fun _ _ _ => rfl, Nat.le_refl _, fun _ _ _ => rfl⟩

theorem trans (h : s.ChangedBy scopes owner owner' s')
    (h' : s'.ChangedBy scopes owner' owner'' s'') : s.ChangedBy scopes owner owner'' s'' where
  next_le := Nat.le_trans h.next_le h'.next_le
  owners id hid := (h'.owners id (Nat.lt_of_lt_of_le hid h.next_le)).trans (h.owners id hid)
  contexts id hid hforeign := by
    rw [h'.contexts id (Nat.lt_of_lt_of_le hid h.next_le) (by rw [h.owners id hid]; exact hforeign),
      h.contexts id hid hforeign]
  length_le := Nat.le_trans h.length_le h'.length_le
  states scope hscope hforeign := by
    rw [h'.states scope (Nat.lt_of_lt_of_le hscope h.length_le) hforeign,
      h.states scope hscope hforeign]

theorem mono (h : s.ChangedBy scopes owner owner' s') (hsub : scopes ⊆ scopes') :
    s.ChangedBy scopes' owner owner' s' where
  next_le := h.next_le
  owners := h.owners
  contexts id hid hforeign := h.contexts id hid fun scope hscope => hforeign scope (hsub hscope)
  length_le := h.length_le
  states scope hscope hforeign := h.states scope hscope fun hmem => hforeign (hsub hmem)

end Shared.ChangedBy

/-! ### A machine that others use too -/

/-- The contexts below `n` of a request alone are contexts below `N` among others, under the numbers
    that `f` gives; no other request has opened any of them. -/
structure Numbering (owner : Owners) (scope : ScopeId) (f : ContextId → ContextId)
    (n N : ContextId) : Prop where
  opened : ∀ id, id < n → f id < N
  injective : ∀ id, id < n → ∀ id', id' < n → f id = f id' → id = id'
  unshared : ∀ id, id < n → ∀ other, other ≠ scope → owner (f id) ≠ some other

namespace Numbering

variable {owner owner' : Owners} {scope : ScopeId} {f : ContextId → ContextId} {n N N' : ContextId}

/-- What others open makes no difference. -/
theorem stable (h : Numbering owner scope f n N) (hle : N ≤ N')
    (howner : ∀ id, id < N → owner' id = owner id) : Numbering owner' scope f n N' where
  opened id hid := Nat.lt_of_lt_of_le (h.opened id hid) hle
  injective := h.injective
  unshared id hid other hother := by
    rw [howner _ (h.opened id hid)]
    exact h.unshared id hid other hother

theorem update_old {id : ContextId} (h : id < n) : Function.update f n N id = f id :=
  Function.update_of_ne (Nat.ne_of_lt h) _ _

/-- A context is opened on both. -/
theorem extend (h : Numbering owner scope f n N) :
    Numbering (Function.update owner N (some scope)) scope (Function.update f n N) (n + 1)
      (N + 1) where
  opened id hid := by
    rcases Nat.lt_succ_iff_lt_or_eq.1 hid with hlt | rfl
    · rw [update_old hlt]
      exact Nat.lt_succ_of_lt (h.opened id hlt)
    · rw [Function.update_self]
      exact Nat.lt_succ_self _
  injective id hid id' hid' he := by
    rcases Nat.lt_succ_iff_lt_or_eq.1 hid with hlt | rfl <;>
      rcases Nat.lt_succ_iff_lt_or_eq.1 hid' with hlt' | rfl
    · rw [update_old hlt, update_old hlt'] at he
      exact h.injective id hlt id' hlt' he
    · rw [update_old hlt, Function.update_self] at he
      exact absurd he (Nat.ne_of_lt (h.opened id hlt))
    · rw [update_old hlt', Function.update_self] at he
      exact absurd he.symm (Nat.ne_of_lt (h.opened id' hlt'))
    · rfl
  unshared id hid other hother := by
    rcases Nat.lt_succ_iff_lt_or_eq.1 hid with hlt | rfl
    · rw [update_old hlt, Function.update_of_ne (Nat.ne_of_lt (h.opened id hlt))]
      exact h.unshared id hlt other hother
    · rw [Function.update_self, Function.update_self]
      exact fun e => hother (Option.some.inj e).symm

end Numbering

/-- A machine `M` that others use too is like a machine `m` that its request has for itself, the
    contexts of `m` being on `M` under the numbers that `f` gives. -/
structure Machine.MirrorsBy (owner : Owners) (f : ContextId → ContextId) (M m : Machine) :
    Prop where
  request : M.session.request = m.session.request
  trace : M.session.trace = m.session.trace
  binding : M.session.binding = m.session.binding.rename f
  /-- The request binds only contexts that it has opened itself. -/
  own : m.session.binding.All fun id =>
    id < m.shared.contexts.next ∧ owner (f id) = some M.session.scope
  numbers : Numbering owner M.session.scope f m.shared.contexts.next M.shared.contexts.next
  holds : ∀ id, id < m.shared.contexts.next →
    M.shared.contexts.get (f id) = m.shared.contexts.get id
  scope : M.session.scope < M.shared.states.length
  scope' : m.session.scope < m.shared.states.length
  values : (M.shared.state? M.session.scope).map ScopeState.values =
    (m.shared.state? m.session.scope).map ScopeState.values
  context : (M.shared.state? M.session.scope).bind ScopeState.context? =
    ((m.shared.state? m.session.scope).bind ScopeState.context?).map f
  held : ∀ id, (m.shared.state? m.session.scope).bind ScopeState.context? = some id →
    id < m.shared.contexts.next

namespace Machine.MirrorsBy

variable {owner owner' : Owners} {f : ContextId → ContextId} {M m : Machine}

/-- What others do makes no difference. -/
theorem stable (h : M.MirrorsBy owner f m) {scopes : List ScopeId} {s : Shared}
    (hs : M.shared.ChangedBy scopes owner owner' s) (hforeign : M.session.scope ∉ scopes) :
    Machine.MirrorsBy owner' f ⟨s, M.session⟩ m where
  request := h.request
  trace := h.trace
  binding := h.binding
  numbers := h.numbers.stable hs.next_le hs.owners
  own := h.own.imp fun id ⟨hid, howner⟩ =>
    ⟨hid, (hs.owners _ (h.numbers.opened id hid)).trans howner⟩
  holds id hid := by
    -- no context of the request has been opened by those others
    have hkept := hs.contexts _ (h.numbers.opened id hid) fun scope hscope =>
      h.numbers.unshared id hid scope fun e => hforeign (e ▸ hscope)
    exact hkept.trans (h.holds id hid)
  scope := Nat.lt_of_lt_of_le h.scope hs.length_le
  scope' := h.scope'
  values := by rw [hs.states _ h.scope hforeign]; exact h.values
  context := by rw [hs.states _ h.scope hforeign]; exact h.context
  held := h.held

/-- The current identity is the same. -/
theorem current (h : M.MirrorsBy owner f m) :
    M.shared.contexts.current M.session.binding = m.shared.contexts.current m.session.binding := by
  unfold Contexts.current
  rw [h.binding]
  show (m.session.binding.bound.map f).bind _ = _
  cases hbound : m.session.binding.bound with
  | none => rfl
  | some id =>
    -- a request binds its own contexts only, and those hold the same on both
    exact h.holds id (h.own.bound id hbound).1

/-- The same contexts are bound. -/
theorem bound_beq (h : M.MirrorsBy owner f m) {id : ContextId}
    (hid : id < m.shared.contexts.next) :
    (M.session.binding.bound == some (f id)) = (m.session.binding.bound == some id) := by
  rw [h.binding, Bool.eq_iff_iff, beq_iff_eq, beq_iff_eq]
  show m.session.binding.bound.map f = some (f id) ↔ _
  constructor
  · intro he
    obtain ⟨bound, hbound, he⟩ := Option.map_eq_some_iff.1 he
    rw [hbound, h.numbers.injective bound (h.own.bound bound hbound).1 id hid he]
  · intro he
    rw [he]
    rfl

/-- What can be read from the state of the scope is the same. -/
theorem view_state (h : M.MirrorsBy owner f m) :
    M.shared.view M.session.scope M.session.binding =
      m.shared.view m.session.scope m.session.binding := by
  have hvalues := h.values
  have hcontext := h.context
  have hheld := h.held
  unfold Shared.view
  -- the values tell whether there is a state, so that there is one on both or on neither
  cases hM : M.shared.state? M.session.scope with
  | none =>
    cases hm : m.shared.state? m.session.scope with
    | none => rfl
    | some st' =>
      rw [hM, hm] at hvalues
      nomatch hvalues
  | some st =>
    cases hm : m.shared.state? m.session.scope with
    | none =>
      rw [hM, hm] at hvalues
      nomatch hvalues
    | some st' =>
      rw [hM, hm] at hvalues hcontext
      rw [hm] at hheld
      have hnames := ScopeState.names_congr (Option.some.inj hvalues)
      have hst : st.context? = st'.context?.map f := hcontext
      refine congrArg some ?_
      show st.view _ _ = st'.view _ _
      unfold ScopeState.view
      rw [hnames, hst]
      cases hid : st'.context? with
      | none => rfl
      | some id =>
        show StateView.mk _ (M.shared.contexts.get (f id)) (_ == some (f id)) = _
        rw [h.holds id (hheld id hid), h.bound_beq (hheld id hid)]
        rfl

/-- What the request can see is the same. -/
theorem view (h : M.MirrorsBy owner f m) : M.view = m.view := by
  have hobservation : M.observation = m.observation := by
    unfold Machine.observation
    rw [h.current, h.view_state, h.binding]
    exact congrArg (Observation.mk · _ _) (Option.isSome_map)
  unfold Machine.view
  rw [h.request, hobservation, h.trace]

/-! ### One step -/

/-- What is put into a context of the request is on both put into the same one. -/
theorem put (h : M.MirrorsBy owner f m) {id : ContextId} (hid : id < m.shared.contexts.next)
    (slot : Option Identity) :
    (M.withContexts (M.shared.contexts.put (f id) slot)).MirrorsBy owner f
      (m.withContexts (m.shared.contexts.put id slot)) := by
  have hnext : (m.shared.contexts.put id slot).next = m.shared.contexts.next :=
    Contexts.next_put _ _ _
  have hNext : (M.shared.contexts.put (f id) slot).next = M.shared.contexts.next :=
    Contexts.next_put _ _ _
  refine { h with numbers := ?numbers, own := ?own, holds := ?holds, held := ?held }
  case numbers =>
    show Numbering _ _ _ (m.shared.contexts.put id slot).next (M.shared.contexts.put _ slot).next
    rw [hnext, hNext]
    exact h.numbers
  case own => exact h.own.imp fun id' ⟨hid', howner⟩ => ⟨hnext ▸ hid', howner⟩
  case holds =>
    intro id' hid'
    have hlt : id' < m.shared.contexts.next := hnext ▸ hid'
    show (M.shared.contexts.put (f id) slot).get (f id') = (m.shared.contexts.put id slot).get id'
    by_cases hne : id' = id
    · rw [hne, Contexts.get_put_self (h.numbers.opened id hid), Contexts.get_put_self hid]
    · -- contexts that differ on the one differ on the other
      rw [Contexts.get_put_of_ne fun e => hne (h.numbers.injective id' hlt id hid e),
        Contexts.get_put_of_ne hne, h.holds id' hlt]
  case held => exact fun id' hheld => hnext ▸ h.held id' hheld

/-- A request that puts something into a context of its own changes nothing of the others'. -/
theorem changedBy_put {id : ContextId} {scope : ScopeId} (howner : owner id = some scope)
    (M : Machine) (slot : Option Identity) :
    M.shared.ChangedBy [scope] owner owner
      (M.withContexts (M.shared.contexts.put id slot)).shared where
  next_le := Nat.le_of_eq (Contexts.next_put _ _ _).symm
  owners _ _ := rfl
  contexts id' _ hforeign := by
    refine Contexts.get_put_of_ne (fun e => hforeign scope (List.mem_singleton_self _) ?_) slot
    rw [e, howner]
  length_le := Nat.le_refl _
  states _ _ _ := rfl

/-- Going back to the binding before is the same on both. -/
theorem unbind (h : M.MirrorsBy owner f m) :
    Machine.MirrorsBy owner f
      { M with session := { M.session with binding := M.session.binding.unbind } }
      { m with session := { m.session with binding := m.session.binding.unbind } } where
  request := h.request
  trace := h.trace
  binding := by rw [Binding.rename_unbind, h.binding]
  numbers := h.numbers
  own := h.own.unbind
  holds := h.holds
  scope := h.scope
  scope' := h.scope'
  values := h.values
  context := h.context
  held := h.held

/-- What is put into the bound context is on both the same. -/
theorem putBound (h : M.MirrorsBy owner f m) (slot : Option Identity) :
    (M.putBound slot).MirrorsBy owner f (m.putBound slot) ∧
      M.shared.ChangedBy [M.session.scope] owner owner (M.putBound slot).shared := by
  cases hbound : m.session.binding.bound with
  | none =>
    have hM : M.session.binding.bound = none := by rw [h.binding, Binding.rename, hbound]; rfl
    rw [putBound_of_unbound hbound, putBound_of_unbound hM]
    exact ⟨h, .refl _ _ _⟩
  | some id =>
    have hM : M.session.binding.bound = some (f id) := by
      rw [h.binding, Binding.rename, hbound]
      rfl
    obtain ⟨hid, howner⟩ := h.own.bound id hbound
    rw [putBound_of_bound hbound, putBound_of_bound hM]
    exact ⟨h.put hid slot, changedBy_put howner M slot⟩

/-- The innermost open context is on both emptied. -/
theorem leave (h : M.MirrorsBy owner f m) :
    (Action.leave.apply M).MirrorsBy owner f (Action.leave.apply m) ∧
      M.shared.ChangedBy [M.session.scope] owner owner (Action.leave.apply M).shared := by
  show Machine.MirrorsBy owner f
      { M.withContexts (M.shared.contexts.emptyInnermost M.session.binding) with
        session := { M.session with binding := M.session.binding.unbind } }
      { m.withContexts (m.shared.contexts.emptyInnermost m.session.binding) with
        session := { m.session with binding := m.session.binding.unbind } } ∧
    M.shared.ChangedBy _ _ _
      (M.withContexts (M.shared.contexts.emptyInnermost M.session.binding)).shared
  have hM : M.session.binding.innermost? = m.session.binding.innermost?.map f := by
    rw [h.binding, Binding.innermost?_rename]
  unfold Contexts.emptyInnermost
  rw [hM]
  cases hinnermost : m.session.binding.innermost? with
  | none => exact ⟨h.unbind, .refl _ _ _⟩
  | some id =>
    obtain ⟨hid, howner⟩ := h.own.innermost? hinnermost
    exact ⟨(h.put hid none).unbind, changedBy_put howner M none⟩

/-- Adding to the trace is the same on both. -/
theorem record (h : M.MirrorsBy owner f m) (event : Event) :
    ((Action.record event).apply M).MirrorsBy owner f ((Action.record event).apply m) where
  request := h.request
  trace := congrArg (· ++ [event]) h.trace
  binding := h.binding
  numbers := h.numbers
  own := h.own
  holds := h.holds
  scope := h.scope
  scope' := h.scope'
  values := h.values
  context := h.context
  held := h.held

/-- A context opened on both has one number on the one and another on the other. -/
theorem enter (h : M.MirrorsBy owner f m) :
    ∃ owner' f', (Action.enter.apply M).MirrorsBy owner' f' (Action.enter.apply m) ∧
      M.shared.ChangedBy [M.session.scope] owner owner' (Action.enter.apply M).shared := by
  -- the numbers given so far stay, and the new context of the one becomes that of the other
  have hold : ∀ id, id < m.shared.contexts.next →
      Function.update f m.shared.contexts.next M.shared.contexts.next id = f id :=
    fun id hid => Numbering.update_old hid
  have hscope : ∀ m : Machine, m.session.scope < m.shared.states.length →
      (Action.enter.apply m).session.scope < (Action.enter.apply m).shared.states.length := by
    intro m hm
    rw [Action.apply_scope, Action.length_states_apply]
    exact hm
  refine ⟨Function.update owner M.shared.contexts.next (some M.session.scope),
    Function.update f m.shared.contexts.next M.shared.contexts.next, {
    request := h.request, trace := h.trace, binding := ?binding, numbers := ?numbers, own := ?own
    holds := ?holds, scope := hscope M h.scope, scope' := hscope m h.scope', values := ?values
    context := ?context, held := ?held }, ?changed⟩
  case numbers =>
    rw [Action.next_enter, Action.next_enter]
    exact h.numbers.extend
  case binding =>
    show M.session.binding.bind _ = (m.session.binding.bind _).rename _
    rw [Binding.rename_bind, Function.update_self, h.binding,
      Binding.rename_congr (h.own.imp fun id hid => (hold id hid.1).symm)]
  case own =>
    rw [Action.next_enter]
    refine Binding.All.bind (h.own.imp fun id' ⟨hid, howner⟩ => ⟨Nat.lt_succ_of_lt hid, ?_⟩)
      ⟨Nat.lt_succ_self _, ?_⟩
    · rw [Function.update_self, Function.update_self]
      rfl
    · rw [hold id' hid, Function.update_of_ne (Nat.ne_of_lt (h.numbers.opened id' hid))]
      exact howner
  case holds =>
    intro id hid
    rw [Action.next_enter] at hid
    show M.shared.contexts.grow.get _ = m.shared.contexts.grow.get id
    rw [Contexts.get_grow, Contexts.get_grow]
    rcases Nat.lt_succ_iff_lt_or_eq.1 hid with hlt | rfl
    · rw [hold id hlt, h.holds id hlt]
    · rw [Function.update_self, Contexts.get_eq_none (Nat.le_refl _),
        Contexts.get_eq_none (Nat.le_refl _)]
  case values =>
    rw [Action.state?_enter h.scope, Action.state?_enter h.scope']
    exact congrArg some (ScopeState.values_attach h.values _ _)
  case context =>
    rw [Action.state?_enter h.scope, Action.state?_enter h.scope', Option.bind_some,
      Option.bind_some, ScopeState.context?_attach, ScopeState.context?_attach, Option.map_some,
      Function.update_self]
  case held =>
    intro id hid
    rw [Action.state?_enter h.scope', Option.bind_some, ScopeState.context?_attach] at hid
    rw [Action.next_enter, ← Option.some.inj hid]
    exact Nat.lt_succ_self _
  case changed =>
    refine ⟨Action.next_le_apply .enter M, fun id hid => ?_, fun id _ _ => Contexts.get_grow _ _,
      Nat.le_of_eq (Action.length_states_apply .enter M).symm, fun scope _ hforeign => ?_⟩
    · exact Function.update_of_ne (Nat.ne_of_lt hid) _ _
    · exact Shared.state?_openContext_of_ne _ fun e => hforeign (e ▸ List.mem_singleton_self _)

end Machine.MirrorsBy

/-- A machine `M` that others use too is for its request like a machine `m` that it has for
    itself. -/
def Machine.Mirrors (owner : Owners) (M m : Machine) : Prop :=
  ∃ f, M.MirrorsBy owner f m

namespace Machine.Mirrors

variable {owner : Owners} {M m : Machine}

theorem view (h : Mirrors owner M m) : M.view = m.view := by
  obtain ⟨f, hf⟩ := h
  exact hf.view

theorem stable (h : Mirrors owner M m) {owner' : Owners} {scopes : List ScopeId} {s : Shared}
    (hs : M.shared.ChangedBy scopes owner owner' s) (hforeign : M.session.scope ∉ scopes) :
    Mirrors owner' ⟨s, M.session⟩ m := by
  obtain ⟨f, hf⟩ := h
  exact ⟨f, hf.stable hs hforeign⟩

/-- A step is the same on both, and it changes nothing of the others'. -/
theorem apply (a : Action) (h : Mirrors owner M m) :
    ∃ owner', Mirrors owner' (a.apply M) (a.apply m) ∧
      M.shared.ChangedBy [M.session.scope] owner owner' (a.apply M).shared := by
  obtain ⟨f, hf⟩ := h
  cases a with
  | enter =>
    obtain ⟨owner', f', hf', hs⟩ := hf.enter
    exact ⟨owner', ⟨f', hf'⟩, hs⟩
  | leave => exact ⟨owner, ⟨f, hf.leave.1⟩, hf.leave.2⟩
  | assign identity =>
    exact ⟨owner, ⟨f, (hf.putBound (some identity)).1⟩, (hf.putBound (some identity)).2⟩
  | clear => exact ⟨owner, ⟨f, (hf.putBound none).1⟩, (hf.putBound none).2⟩
  | record event =>
    refine ⟨owner, ⟨f, hf.record event⟩, ?_⟩
    exact ⟨Nat.le_refl _, fun _ _ => rfl, fun _ _ _ => rfl, Nat.le_refl _, fun _ _ _ => rfl⟩

variable {α : Type}

/-- **A request goes its way on both alike**, and changes nothing of the others'. -/
theorem run (flow : Flow α) (h : Mirrors owner M m) :
    (flow.run M).1 = (flow.run m).1 ∧
      ∃ owner', Mirrors owner' (flow.run M).2 (flow.run m).2 ∧
        M.shared.ChangedBy [M.session.scope] owner owner' (flow.run M).2.shared := by
  induction flow generalizing owner M m with
  | done a => exact ⟨rfl, owner, h, .refl _ _ _⟩
  | look next ih =>
    -- what there is to see decides how the flow goes on, and it is the same on both
    unfold Flow.run
    rw [h.view]
    exact ih m.view h
  | act a next ih =>
    obtain ⟨owner', h', hs⟩ := h.apply a
    obtain ⟨hresult, owner'', h'', hs'⟩ := ih h'
    rw [Action.apply_scope] at hs'
    exact ⟨hresult, owner'', h'', hs.trans hs'⟩
  | pause next ih => exact ih h

/-- Up to its next pause too. -/
theorem advance (flow : Flow α) (h : Mirrors owner M m) :
    (flow.advance M).1 = (flow.advance m).1 ∧
      ∃ owner', Mirrors owner' (flow.advance M).2 (flow.advance m).2 ∧
        M.shared.ChangedBy [M.session.scope] owner owner' (flow.advance M).2.shared := by
  induction flow generalizing owner M m with
  | done a => exact ⟨rfl, owner, h, .refl _ _ _⟩
  | look next ih =>
    unfold Flow.advance
    rw [h.view]
    exact ih m.view h
  | act a next ih =>
    obtain ⟨owner', h', hs⟩ := h.apply a
    obtain ⟨hnext, owner'', h'', hs'⟩ := ih h'
    rw [Action.apply_scope] at hs'
    exact ⟨hnext, owner'', h'', hs.trans hs'⟩
  | pause next ih => exact ⟨rfl, owner, h, .refl _ _ _⟩

end Machine.Mirrors

end Turnstile
