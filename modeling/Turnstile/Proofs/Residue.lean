import Turnstile.Proofs.Actions
import Turnstile.Proofs.Descent

namespace Turnstile

/-!
# What a request leaves behind

Each layer closes what it has opened, however the request ends, so that a request puts everything
back.

* `Flow.Steady`, `Application` — flows that open and close no contexts;
* `Machine.Restored` — everything has been put back: the binding is the one from before, and the
  only contexts that may hold something else are those that were bound all along;
* `Flow.Restores` — flows that put everything back on every machine; `Flow.Restores.inContext` is
  the step for a context and `Stack.restores_flow` the induction over a stack;
* `Stack.run_leaves_no_residue` — **a request leaves nothing behind**.
-/

/-! ### Flows that open and close nothing -/

/-- An action that leaves the binding alone. -/
def Action.Steady : Action → Prop
  | .enter | .leave => False
  | _ => True

namespace Flow

variable {α β : Type}

/-- A flow that opens and closes no contexts. -/
def Steady : Flow α → Prop
  | .done _ => True
  | .look next => ∀ v, (next v).Steady
  | .act a next => a.Steady ∧ next.Steady
  | .pause next => next.Steady

theorem steady_iff_acts {f : Flow α} : f.Steady ↔ f.Acts Action.Steady := by
  induction f with
  | done a => exact Iff.rfl
  | look next ih => exact forall_congr' ih
  | act a next ih => exact and_congr_right fun _ => ih
  | pause next ih => exact ih

/-- A flow that opens no context leaves the states of all scopes alone. -/
theorem Steady.states_run {f : Flow α} (h : f.Steady) (m : Machine) :
    (f.run m).2.shared.states = m.shared.states := by
  induction f generalizing m with
  | done a => rfl
  | look next ih => exact ih m.view (h _) m
  | pause next ih => exact ih h m
  | act a next ih =>
    refine (ih h.2 (a.apply m)).trans ?_
    cases a with
    | enter => exact h.1.elim
    | leave => exact h.1.elim
    | assign identity => exact m.putBound_states (some identity)
    | clear => exact m.putBound_states none
    | record event => rfl

end Flow

/-- An application behind a stack: it may look, pause, fill and empty the context that is bound to
    it, and end in any way, but it opens and closes no contexts. -/
structure Application where
  flow : Flow Outcome
  steady : flow.Steady

theorem steady_script (deeds : List Deed) : (script deeds).Steady :=
  Flow.steady_iff_acts.2 (acts_script (fun _ => trivial) trivial (fun _ _ => trivial) deeds)

/-- An application given as a list of what it does. -/
def Application.ofScript (deeds : List Deed) : Application where
  flow := script deeds
  steady := steady_script deeds

/-! ### Machines put back -/

/-- The states of all scopes are as they were, except that if contexts have been opened, the state
    of the scope holds one of them. -/
def Shared.Attached (scope : ScopeId) (s s' : Shared) : Prop :=
  s'.contexts.next = s.contexts.next ∧ s'.states = s.states ∨
    ∃ id, s.contexts.next ≤ id ∧ id < s'.contexts.next ∧
      s'.states = s.states.set scope (some (ScopeState.attach id (s.state? scope)))

/-- Everything has been put back. -/
structure Machine.Restored (m m' : Machine) : Prop where
  request : m'.session.request = m.session.request
  scope : m'.session.scope = m.session.scope
  binding : m'.session.binding = m.session.binding
  /-- Only the context that was bound all along may hold something else. -/
  kept : ∀ id, m.session.binding.bound ≠ some id →
    m'.shared.contexts.get id = m.shared.contexts.get id
  attached : m.shared.Attached m.session.scope m'.shared

theorem Shared.Attached.next_le {scope : ScopeId} {s s' : Shared} (h : s.Attached scope s') :
    s.contexts.next ≤ s'.contexts.next := by
  obtain ⟨hnext, -⟩ | ⟨id, hle, hlt, -⟩ := h
  · exact Nat.le_of_eq hnext.symm
  · exact Nat.le_of_lt (Nat.lt_of_le_of_lt hle hlt)

/-- Of the contexts that a state has held only the last one is left. -/
theorem Shared.Attached.trans {scope : ScopeId} {s s' s'' : Shared} (h : s.Attached scope s')
    (h' : s'.Attached scope s'') : s.Attached scope s'' := by
  have hle := h.next_le
  have hle' := h'.next_le
  -- the state holds a context of the later stretch if there is one, and else one of the earlier
  obtain ⟨hnext, hstates⟩ | ⟨id, hge, hlt, hstates⟩ := h
  · obtain ⟨hnext', hstates'⟩ | ⟨id', hge', hlt', hstates'⟩ := h'
    · exact .inl ⟨hnext'.trans hnext, hstates'.trans hstates⟩
    · refine .inr ⟨id', Nat.le_trans hle hge', hlt', ?_⟩
      rw [hstates', Shared.state?, hstates]
      rfl
  · obtain ⟨hnext', hstates'⟩ | ⟨id', hge', hlt', hstates'⟩ := h'
    · exact .inr ⟨id, hge, Nat.lt_of_lt_of_le hlt hle', hstates'.trans hstates⟩
    · refine .inr ⟨id', Nat.le_trans hle hge', hlt', ?_⟩
      rw [hstates', Shared.state?, hstates, List.set_set]
      by_cases hscope : scope < s.states.length
      · rw [List.getElem?_set_self hscope]
        exact congrArg (fun st => s.states.set scope (some st)) (ScopeState.attach_attach _ _ _)
      · rw [List.set_eq_of_length_le (Nat.not_lt.1 hscope),
          List.set_eq_of_length_le (Nat.not_lt.1 hscope)]

namespace Machine.Restored

variable {m m' m'' : Machine}

theorem refl (m : Machine) : m.Restored m :=
  ⟨rfl, rfl, rfl, fun _ _ => rfl, .inl ⟨rfl, rfl⟩⟩

theorem trans (h : m.Restored m') (h' : m'.Restored m'') : m.Restored m'' where
  request := h'.request.trans h.request
  scope := h'.scope.trans h.scope
  binding := h'.binding.trans h.binding
  kept id hid := (h'.kept id (by rw [h.binding]; exact hid)).trans (h.kept id hid)
  attached := h.attached.trans (h.scope ▸ h'.attached)

theorem putBound (m : Machine) (slot : Option Identity) : m.Restored (m.putBound slot) where
  request := by rw [putBound_session]
  scope := by rw [putBound_session]
  binding := by rw [putBound_session]
  kept _ hid := get_putBound_of_ne hid slot
  attached := .inl ⟨putBound_next m slot, putBound_states m slot⟩

/-- An action that leaves the binding alone has nothing to put back. -/
theorem of_steady {a : Action} (h : a.Steady) (m : Machine) : m.Restored (a.apply m) := by
  cases a with
  | enter => exact h.elim
  | leave => exact h.elim
  | assign identity => exact putBound m (some identity)
  | clear => exact putBound m none
  | record event => exact ⟨rfl, rfl, rfl, fun _ _ => rfl, .inl ⟨rfl, rfl⟩⟩

/-- A context that is closed after everything else has been put back leaves nothing behind. -/
theorem leave_of_enter (h : (Action.enter.apply m).Restored m') :
    m.Restored (Action.leave.apply m') := by
  have hbinding : m'.session.binding = m.session.binding.bind m.shared.contexts.next := h.binding
  have hnext : (Action.enter.apply m).shared.contexts.next = m.shared.contexts.next + 1 :=
    Contexts.next_grow _
  -- what has gone on inside has opened contexts at most, so that the own one is still there
  have hopen : m.shared.contexts.next < m'.shared.contexts.next := by
    have hle := h.attached.next_le
    rw [hnext] at hle
    exact hle
  refine ⟨?_, ?_, ?_, ?_, ?_⟩
  · rw [Action.apply_request, h.request, Action.apply_request]
  · rw [Action.apply_scope, h.scope, Action.apply_scope]
  · show m'.session.binding.unbind = m.session.binding
    rw [hbinding, Binding.unbind_bind]
  · intro id hid
    show (m'.shared.contexts.emptyInnermost m'.session.binding).get id = _
    rw [hbinding, Contexts.emptyInnermost, Binding.innermost?_bind]
    dsimp only
    by_cases hopened : id = m.shared.contexts.next
    · -- the context itself is emptied, and it was not there before
      rw [hopened, Contexts.get_put_self hopen, Contexts.get_eq_none (Nat.le_refl _)]
    · rw [Contexts.get_put_of_ne hopened]
      have hkept := h.kept id fun e => hopened (Option.some.inj e).symm
      exact hkept.trans (Contexts.get_grow _ _)
  · -- opening attaches the context, and closing empties it without opening any
    have hopened : m.shared.Attached m.session.scope (Action.enter.apply m).shared :=
      .inr ⟨m.shared.contexts.next, Nat.le_refl _, hnext ▸ Nat.lt_succ_self _, rfl⟩
    have hclosed : m'.shared.Attached m.session.scope (Action.leave.apply m').shared :=
      .inl ⟨Contexts.next_emptyInnermost _ _, rfl⟩
    exact (hopened.trans (Action.apply_scope .enter m ▸ h.attached)).trans hclosed

end Machine.Restored

/-! ### Flows that put everything back -/

/-- The flow puts everything back, on whatever machine it runs. -/
def Flow.Restores {α : Type} (f : Flow α) : Prop :=
  ∀ m : Machine, m.Restored (f.run m).2

namespace Flow

variable {α β : Type}

theorem Steady.restores {f : Flow α} (h : f.Steady) : f.Restores := by
  intro m
  induction f generalizing m with
  | done a => exact .refl m
  | look next ih => exact ih m.view (h _) m
  | act a next ih => exact (Machine.Restored.of_steady h.1 m).trans (ih h.2 _)
  | pause next ih => exact ih h m

theorem Restores.bind {f : Flow α} {k : α → Flow β} (hf : f.Restores) (hk : ∀ a, (k a).Restores) :
    (f >>= k).Restores := by
  intro m
  rw [run_bind]
  exact (hf m).trans (hk _ _)

theorem restores_pure (a : α) : (pure a : Flow α).Restores :=
  fun m => .refl m

/-- A context is closed however its body ends. -/
theorem Restores.inContext {body : Flow Outcome} (h : body.Restores) :
    (inContext body).Restores := by
  intro m
  rw [run_inContext]
  split
  · exact .leave_of_enter (h _)
  · exact .refl m

end Flow

/-! ### Stacks put everything back -/

/-- A gate only ever fills or empties the context that is bound. -/
theorem Gate.steady_evaluate (g : Gate) (number : Nat) (authorization : Option Text)
    (path : Text) : (g.evaluate number authorization path).Steady :=
  Flow.steady_iff_acts.2 (g.acts_evaluate (fun _ => trivial) trivial (fun _ => trivial)
    (fun _ => trivial) authorization path)

theorem Gate.steady_delegate (g : Gate) (number : Nat) (request : Request) (r : Rejection) :
    (g.delegate number request r).Steady :=
  Flow.steady_iff_acts.2 (g.acts_delegate (fun _ => trivial) (fun _ => trivial) (fun _ => trivial)
    request r)

theorem Gate.restores_guard (g : Gate) (number : Nat) {inner : Flow Outcome}
    (h : inner.Restores) : (g.guard number inner).Restores := by
  intro m
  unfold guard
  rw [Flow.run_view_bind]
  refine (g.steady_evaluate _ _ _).restores.bind (fun decision => ?_) m
  -- only a fault and a rejection that is not ignored keep the request from the stage behind
  rcases decision with fault | (_ | _ | ⟨_ | _, _, failure⟩)
  · exact Flow.restores_pure _
  · exact h
  · exact h
  · exact (g.steady_delegate _ _ _).restores
  · exact h

/-- A layer puts back what it has changed. -/
theorem Layer.restores_flow (layer : Layer) (number : Nat) {inner : Flow Outcome}
    (h : inner.Restores) : (layer.flow number inner).Restores := by
  intro m
  cases layer with
  | boundary =>
    simp only [Layer.flow, Layer.boundaryFlow, Flow.run_view_bind]
    split_ifs
    · exact .refl m
    · exact h.inContext m
    · exact h m
  | assign identity =>
    simp only [Layer.flow, Layer.assignFlow, Flow.run_view_bind]
    split_ifs
    · cases identity with
      | none => exact .refl m
      | some i => exact (Machine.Restored.putBound m (some i)).trans (h _)
    · exact h m
  | gate g =>
    simp only [Layer.flow, Layer.gateFlow, Flow.run_view_bind]
    split_ifs
    · exact .refl m
    · exact g.restores_guard number h m
    · exact (g.restores_guard number h).inContext m
    · exact h m

theorem Stack.restores_flowFrom {app : Flow Outcome} (happ : app.Restores) (number : Nat)
    (stack : Stack) : (flowFrom app number stack).Restores := by
  induction stack generalizing number with
  | nil => exact happ
  | cons layer layers ih => exact layer.restores_flow number (ih _)

/-- **A stack puts everything back**, as long as the application behind it does. -/
theorem Stack.restores_flow {app : Flow Outcome} (happ : app.Restores) (stack : Stack) :
    (stack.flow app).Restores :=
  Stack.restores_flowFrom happ 0 stack

/-! ### Nothing is left behind -/

/-- What a machine is left with by a request that leaves nothing behind: the binding is the one from
    before, and every context opened on the way is empty. -/
structure Machine.Clean (m left : Machine) : Prop where
  binding : left.session.binding = m.session.binding
  request : left.session.request = m.session.request
  emptied : ∀ id, m.shared.contexts.next ≤ id → left.shared.contexts.get id = none
  /-- The states of other scopes are left alone. -/
  elsewhere : ∀ scope, scope ≠ m.session.scope → left.shared.state? scope = m.shared.state? scope
  /-- Without a context opened, so is the state of the own scope. -/
  untouched : left.shared.contexts.next = m.shared.contexts.next →
    left.shared.states = m.shared.states
  /-- Otherwise it holds one of the contexts opened, which is empty and not bound, and under all
      other names what it held before. -/
  held : left.shared.contexts.next ≠ m.shared.contexts.next →
    ∃ st id, left.shared.state? m.session.scope = some st ∧ st.context? = some id ∧
      m.shared.contexts.next ≤ id ∧ id < left.shared.contexts.next ∧
      left.shared.contexts.get id = none ∧ left.session.binding.bound ≠ some id ∧
      ∀ name, name ≠ contextKey →
        st.lookup name = ((m.shared.state? m.session.scope).getD []).lookup name

/-- The binding of a machine and its scope exist: a context that is bound has been opened, and the
    scope has its place among the states. -/
structure Machine.Sound (m : Machine) : Prop where
  scope : m.session.scope < m.shared.states.length
  bound : ∀ id, m.session.binding.bound = some id → id < m.shared.contexts.next

/-- Where everything has been put back, nothing is left behind. -/
theorem Machine.Restored.clean {m m' : Machine} (h : m.Restored m') (hsound : m.Sound) :
    m.Clean m' := by
  -- contexts that are opened on the way were not bound before
  have hfresh : ∀ id, m.shared.contexts.next ≤ id → m.session.binding.bound ≠ some id :=
    fun id hle hbound => absurd (hsound.bound id hbound) (Nat.not_lt.2 hle)
  have hemptied : ∀ id, m.shared.contexts.next ≤ id → m'.shared.contexts.get id = none :=
    fun id hle => (h.kept id (hfresh id hle)).trans (Contexts.get_eq_none hle)
  refine ⟨h.binding, h.request, hemptied, ?_, ?_, ?_⟩
  · intro scope hne
    obtain ⟨-, hstates⟩ | ⟨id, -, -, hstates⟩ := h.attached
    · rw [Shared.state?, hstates, Shared.state?]
    · rw [Shared.state?, hstates, List.getElem?_set_ne hne.symm, Shared.state?]
  · intro hnext
    obtain ⟨-, hstates⟩ | ⟨id, hge, hlt, -⟩ := h.attached
    · exact hstates
    · exact absurd (hnext ▸ hlt) (Nat.not_lt.2 hge)
  · intro hnext
    obtain ⟨hnext', -⟩ | ⟨id, hge, hlt, hstates⟩ := h.attached
    · exact absurd hnext' hnext
    · refine ⟨_, id, ?_, ScopeState.context?_attach id _, hge, hlt, hemptied id hge, ?_,
        fun name hname => ScopeState.lookup_attach id _ hname⟩
      · rw [Shared.state?, hstates, List.getElem?_set_self hsound.scope]
        rfl
      · rw [h.binding]
        exact hfresh id hge

/-- **A request leaves nothing behind**, through whatever stack it has gone and however it has
    ended.  Closing the contexts does not replace the end of the request: its outcome is that of
    the way in, where nothing is closed, and of the application. -/
theorem Stack.run_leaves_no_residue (stack : Stack) (app : Application) {m : Machine}
    (hsound : m.Sound) :
    m.Clean ((stack.flow app.flow).run m).2 ∧
      ((stack.flow app.flow).run m).1 = (goOn (stack.descend m) app.flow).1 :=
  ⟨(stack.restores_flow app.steady.restores m).clean hsound,
    congrArg (·.1) (Stack.report_run_flow app.flow stack m)⟩

/-- A request whose application fails after filling the context that is bound to it. -/
theorem Stack.run_leaves_no_residue_failing :
    let app := Application.ofScript [.assign (some { id := "rod" }), .fail .noIdentity]
    let m := Machine.start ⟨{ type := some (.text "http") }, none⟩
    m.Sound ∧ m.Clean ((Stack.flow [.boundary] app.flow).run m).2 ∧
      ((Stack.flow [.boundary] app.flow).run m).1 = .error .noIdentity := by
  have hsound : (Machine.start ⟨{ type := some (.text "http") }, none⟩).Sound :=
    ⟨Nat.zero_lt_one, fun id h => nomatch h⟩
  have h := Stack.run_leaves_no_residue [.boundary]
    (.ofScript [.assign (some { id := "rod" }), .fail .noIdentity]) hsound
  exact ⟨hsound, h.1, h.2⟩

end Turnstile
