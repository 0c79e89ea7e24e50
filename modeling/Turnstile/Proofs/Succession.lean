import Turnstile.Proofs.Crossing
import Turnstile.Proofs.Isolation

namespace Turnstile

/-!
# Requests one after another

A scope can come with one request after another, and then its state still holds a context of an
earlier one.  No request notices: one that is given a context of its own has it held there instead,
and any other has left no context behind.

* `Stack.opens` — a request that comes with no context bound is given one on its way in;
* `Stack.run_of_opens`, `Stack.states_run_of_not_opens` — what such requests take from the state of
  their scope, and what the others leave there;
* `Stack.Leaves`, `Shared.Spent` — the state of a scope between two requests, and all that is shared
  then; `Shared.Spent.alike` and `Shared.Spent.finish` are the step for the request that comes next;
* `Sequel`, `afresh` — visits that may reuse scopes, and the same on scopes of their own;
* `arrive_starts`, `finishAll_alike` — all requests at their start, and at their end;
* `Stack.handled_in_turn_as_alone` — **requests do not influence those that come after them**.
-/

/-! ### One request on a scope left behind -/

namespace Stack

/-- A request that comes with no context bound is given one on its way in, unless it ends before. -/
def opens (stack : Stack) (r : Request) : Bool :=
  r.keepsState && stack.any (·.opens r)

variable {app : Flow Outcome} {m : Machine}

/-- To a request that is given a context, only the opening of that context tells machines apart. -/
theorem run_of_opens {stack : Stack} {m' : Machine}
    (henter : Action.enter.apply m' = Action.enter.apply m)
    (h : stack.opens m.session.request = true) (hsession : m'.session = m.session)
    (hbound : m.session.binding.bound = none) (number : Nat) :
    (flowFrom app number stack).run m' = (flowFrom app number stack).run m := by
  obtain ⟨hkeeps, hopens⟩ := Bool.and_eq_true_iff.1 h
  obtain ⟨opening, -, hopening⟩ := List.any_eq_true.1 hopens
  have htype := Layer.isNone_type_of_opens hopening
  have htype' : m'.session.request.type.isNone = false := hsession ▸ htype
  have hbound' : m'.session.binding.bound = none := hsession ▸ hbound
  induction stack generalizing number with
  | nil => nomatch hopens
  | cons layer layers ih =>
    cases hlayer : layer.opens m.session.request with
    | true => exact Layer.run_congr_of_opens _ _ hlayer hkeeps hbound hsession henter
    | false =>
      -- the layer is crossed, so that it is another one that opens the context
      rw [List.any_cons, hlayer, Bool.false_or] at hopens
      have hlayer' : layer.opens m'.session.request = false := hsession ▸ hlayer
      calc (flowFrom app number (layer :: layers)).run m'
          = (flowFrom app (layer.after number) layers).run m' :=
            Layer.run_of_not_opens _ _ hlayer' htype' hbound'
        _ = (flowFrom app (layer.after number) layers).run m :=
            ih (Bool.and_eq_true_iff.2 ⟨hkeeps, hopens⟩) _ hopens
        _ = (flowFrom app number (layer :: layers)).run m :=
            (Layer.run_of_not_opens _ _ hlayer htype hbound).symm

end Stack

/-- A layer that opens no context leaves the states of all scopes to what is inside of it. -/
theorem Layer.states_run_of_not_opens {layer : Layer} {m : Machine}
    (h : (m.session.request.keepsState && layer.opens m.session.request) = false)
    (hbound : m.session.binding.bound = none) {number : Nat} {inner : Flow Outcome}
    (hinner : (inner.run m).2.shared.states = m.shared.states) :
    ((layer.flow number inner).run m).2.shared.states = m.shared.states := by
  cases hlayer : layer.opens m.session.request with
  | true =>
    have hkeeps : m.session.request.keepsState = false := by rwa [hlayer, Bool.and_true] at h
    rw [run_of_opens_stateless _ _ hlayer hkeeps hbound]
  | false =>
    cases htype : m.session.request.type.isNone with
    | true =>
      rcases run_of_untyped number inner htype hbound with hrun | hrun
      · rw [hrun]
        exact hinner
      · rw [hrun]
    | false =>
      rw [run_of_not_opens _ _ hlayer htype hbound]
      exact hinner

namespace Stack

variable {app : Flow Outcome} {m : Machine}

/-- Any other request leaves the states of all scopes alone. -/
theorem states_run_of_not_opens {stack : Stack} (happ : app.Steady)
    (h : stack.opens m.session.request = false) (hbound : m.session.binding.bound = none)
    (number : Nat) : ((flowFrom app number stack).run m).2.shared.states = m.shared.states := by
  induction stack generalizing number with
  | nil => exact happ.states_run m
  | cons layer layers ih =>
    obtain ⟨hlayer, hlayers⟩ :
        (m.session.request.keepsState && layer.opens m.session.request) = false ∧
          Stack.opens layers m.session.request = false := by
      rwa [opens, List.any_cons, Bool.and_or_distrib_left, Bool.or_eq_false_iff] at h
    exact Layer.states_run_of_not_opens hlayer hbound (ih hlayers _)

end Stack

/-! ### A request that comes next -/

/-- A request that has been handled like another one. -/
structure Handled.Alike (h h' : Handled) : Prop where
  outcome : h.outcome = h'.outcome
  trace : h.session.trace = h'.session.trace
  after : h.after = h'.after
  request : h.session.request = h'.session.request

/-- The state of a scope replaced by another one. -/
def Shared.withState (s : Shared) (k : ScopeId) (state : Option ScopeState) : Shared :=
  { s with states := s.states.set k state }

theorem Shared.state?_withState {s : Shared} {k : ScopeId} (h : k < s.states.length)
    (state : Option ScopeState) : (s.withState k state).state? k = state := by
  unfold state? withState
  rw [List.getElem?_set_self h]
  rfl

/-- It does not matter which context a state has held before. -/
theorem Shared.openContext_withState {s : Shared} {k : ScopeId} (h : k < s.states.length)
    {id : ContextId} {state : Option ScopeState}
    (hstate : s.state? k = some (ScopeState.attach id state)) :
    (s.withState k state).openContext k = s.openContext k := by
  unfold openContext
  rw [state?_withState h, hstate, ScopeState.attach_attach]
  exact congrArg (Shared.mk s.contexts.grow · s.journal) (List.set_set ..)

/-- A visit at its start on a scope of that number. -/
def Visit.job (stack : Stack) (v : Visit) (k : ScopeId) : Job where
  flow := watched (stack.flow v.app.flow)
  session := { request := v.scope.request, scope := k }

theorem Visit.finish_job (stack : Stack) (v : Visit) (k : ScopeId) (s : Shared) :
    (v.job stack k).finish s =
      let ending := (stack.flow v.app.flow).run ⟨s, (v.job stack k).session⟩
      (⟨ending.1, ending.2.session, ending.2.observation⟩, ending.2.shared) :=
  Job.finish_watched ..

/-- Between requests a scope has the state in which it arrived, except that it may hold a context of
    an earlier request, if the stack gives contexts to the requests on that scope. -/
def Stack.Leaves (stack : Stack) (scope : Scope) (state : Option ScopeState) : Prop :=
  state = scope.state ∨ stack.opens scope.request = true ∧
    ∃ id, state = some (ScopeState.attach id scope.state)

/-- Of the contexts that a state has held only the last one is left. -/
theorem Stack.Leaves.attach {stack : Stack} {scope : Scope} {state : Option ScopeState}
    (h : stack.Leaves scope state) (hopens : stack.opens scope.request = true) (id : ContextId) :
    stack.Leaves scope (some (ScopeState.attach id state)) := by
  refine .inr ⟨hopens, id, ?_⟩
  rcases h with rfl | ⟨-, id', rfl⟩
  · rfl
  · rw [ScopeState.attach_attach]

/-- A visit leaves a context in the state of its scope, if it is given one, and no other state is
    changed. -/
theorem Visit.states_finish (stack : Stack) (v : Visit) (k : ScopeId) (s : Shared) :
    ((v.job stack k).finish s).2.states = s.states ∨ stack.opens v.scope.request = true ∧
      ∃ id, ((v.job stack k).finish s).2.states =
        s.states.set k (some (ScopeState.attach id (s.state? k))) := by
  rw [v.finish_job]
  cases hopens : stack.opens v.scope.request with
  | false => exact .inl (Stack.states_run_of_not_opens v.app.steady hopens rfl 0)
  | true =>
    have hrestored := stack.restores_flow v.app.steady.restores ⟨s, (v.job stack k).session⟩
    obtain ⟨-, hstates⟩ | ⟨id, -, -, hstates⟩ := hrestored.attached
    · exact .inl hstates
    · exact .inr ⟨rfl, id, hstates⟩

/-- What is shared between requests through a stack that started out from `s`: all contexts hold
    what they held then, and the scopes, which arrived as `origin` says, are as the stack leaves
    them. -/
structure Shared.Spent (stack : Stack) (origin : ScopeId → Scope) (s left : Shared) : Prop where
  next_le : s.contexts.next ≤ left.contexts.next
  contexts : ∀ id, left.contexts.get id = s.contexts.get id
  states : ∀ k, k < left.states.length → stack.Leaves (origin k) (left.state? k)

namespace Shared.Spent

variable {stack : Stack} {origin : ScopeId → Scope} {s left : Shared} {v : Visit} {k : ScopeId}

/-- On what earlier requests have left, a request comes to the end to which it comes alone. -/
theorem alike (h : s.Spent stack origin left) (hk : k < left.states.length)
    (hscope : origin k = v.scope) (hwithin : v.scope.Within s) :
    ((v.job stack k).finish left).1.Alike (v.alone stack s).1 := by
  -- on a scope in the state in which it arrived, the request goes the way that it goes alone
  have harrived : ∀ S : Shared, s.contexts.next ≤ S.contexts.next →
      (∀ id, S.contexts.get id = s.contexts.get id) → k < S.states.length →
      S.state? k = v.scope.state → ((v.job stack k).finish S).1.Alike (v.alone stack s).1 := by
    intro S hnext hcontexts hk hstate
    obtain ⟨hresult, owner, ⟨f, hf⟩, -⟩ :=
      (mirrors_arrived hnext hcontexts hk hstate hwithin).run (watched (stack.flow v.app.flow))
    exact ⟨congrArg Prod.fst hresult, hf.trace, congrArg Prod.snd hresult, hf.request⟩
  have hleft := h.states k hk
  rw [hscope] at hleft
  rcases hleft with hstate | ⟨hopens, id, hstate⟩
  · exact harrived left h.next_le h.contexts hk hstate
  · -- the context left in the state gives way to the one that the request is given
    have henter : Action.enter.apply ⟨left.withState k v.scope.state, (v.job stack k).session⟩ =
        Action.enter.apply ⟨left, (v.job stack k).session⟩ :=
      congrArg (Machine.mk · _) (Shared.openContext_withState hk hstate)
    have hrun : (stack.flow v.app.flow).run
        ⟨left.withState k v.scope.state, (v.job stack k).session⟩ =
          (stack.flow v.app.flow).run ⟨left, (v.job stack k).session⟩ :=
      Stack.run_of_opens henter hopens rfl rfl 0
    have hfinish : (v.job stack k).finish (left.withState k v.scope.state) =
        (v.job stack k).finish left := by
      rw [v.finish_job, v.finish_job, hrun]
    rw [← hfinish]
    refine harrived _ h.next_le h.contexts ?_ (Shared.state?_withState hk _)
    rw [Shared.withState, List.length_set]
    exact hk

/-- What a request leaves, the next one can start from. -/
theorem finish (h : s.Spent stack origin left) (hscope : origin k = v.scope) :
    s.Spent stack origin ((v.job stack k).finish left).2 ∧
      ((v.job stack k).finish left).2.states.length = left.states.length ∧
      ((v.job stack k).finish left).1.session.binding = .none := by
  have hrestored : Machine.Restored ⟨left, (v.job stack k).session⟩
      ⟨((v.job stack k).finish left).2, ((v.job stack k).finish left).1.session⟩ :=
    v.restores_watched stack ⟨left, (v.job stack k).session⟩
  have hstates := v.states_finish stack k left
  have hlength : ((v.job stack k).finish left).2.states.length = left.states.length := by
    rcases hstates with hstates | ⟨-, id, hstates⟩
    · rw [hstates]
    · rw [hstates, List.length_set]
  refine ⟨⟨Nat.le_trans h.next_le hrestored.attached.next_le,
    fun id => (hrestored.kept id nofun).trans (h.contexts id), fun k' hk' => ?_⟩, hlength,
    hrestored.binding⟩
  have hleft := h.states k' (hlength ▸ hk')
  unfold Shared.state?
  rcases hstates with hstates | ⟨hopens, id, hstates⟩
  · rw [hstates]
    exact hleft
  · -- only the state of the own scope has changed
    rw [hstates]
    by_cases hne : k = k'
    · subst hne
      rw [List.getElem?_set_self (hlength ▸ hk')]
      exact hleft.attach (hscope ▸ hopens) id
    · rw [List.getElem?_set_ne hne]
      exact hleft

end Shared.Spent

/-! ### Scopes as they arrive -/

section

variable {stack : Stack} {origin : ScopeId → Scope} {s left : Shared}

/-- A scope that has just arrived is as it arrived. -/
theorem Shared.Spent.addScope (h : s.Spent stack origin left) (scope : Scope) :
    s.Spent stack (Function.update origin left.nextScope scope) (left.addScope scope.state) where
  next_le := h.next_le
  contexts := h.contexts
  states k hk := by
    have hk' : k < left.nextScope + 1 := left.nextScope_addScope scope.state ▸ hk
    rcases Nat.lt_succ_iff_lt_or_eq.1 hk' with hlt | rfl
    · rw [Function.update_of_ne (Nat.ne_of_lt hlt), Shared.state?_addScope_of_lt hlt]
      exact h.states k hlt
    · rw [Function.update_self, Shared.state?_addScope_self]
      exact .inl rfl

/-- A session at its start, on a scope that arrived as `scope`. -/
structure Session.Starts (origin : ScopeId → Scope) (s left : Shared) (scope : Scope)
    (session : Session) : Prop where
  eq : session = { request := scope.request, scope := session.scope }
  placed : session.scope < left.states.length
  arrived : origin session.scope = scope
  within : scope.Within s

/-- More scopes do not move those that are there. -/
theorem Session.Starts.mono {scope : Scope} {session : Session}
    (h : session.Starts origin s left scope) {origin' : ScopeId → Scope} {left' : Shared}
    (hle : left.states.length ≤ left'.states.length)
    (horigin : ∀ k, k < left.states.length → origin' k = origin k) :
    session.Starts origin' s left' scope :=
  ⟨h.eq, Nat.lt_of_lt_of_le h.placed hle, (horigin _ h.placed).trans h.arrived, h.within⟩

/-- A visit at its start. -/
structure Job.Starts (stack : Stack) (origin : ScopeId → Scope) (s left : Shared) (v : Visit)
    (job : Job) : Prop where
  flow : job.flow = watched (stack.flow v.app.flow)
  session : job.session.Starts origin s left v.scope

theorem Job.Starts.eq {v : Visit} {job : Job} (h : job.Starts stack origin s left v) :
    job = v.job stack job.session.scope :=
  congrArg₂ Job.mk h.flow h.session.eq

end

/-! ### One request after another -/

/-- A visit after another one: on a scope of its own, or on the scope that the other one has left
    behind. -/
structure Sequel extends Visit where
  reusesScope : Bool := false

/-- A visit after another one, as it arrives. -/
def Sequel.arrival (stack : Stack) (v : Sequel) : Arrival :=
  { v.toVisit.arrival stack with reusesScope := v.reusesScope }

/-- The scope of a visit as it arrived, the one before having come on the scope `before`. -/
def Sequel.origin (v : Sequel) (before : Option Scope) : Scope :=
  if v.reusesScope then before.getD v.scope else v.scope

/-- Visits each on a fresh scope: in the place of a scope that is reused, one with the request and
    the state with which that scope arrived. -/
def afresh : Option Scope → List Sequel → List Visit
  | _, [] => []
  | before, v :: visits => ⟨v.origin before, v.app⟩ :: afresh (some (v.origin before)) visits

variable {stack : Stack} {origin : ScopeId → Scope} {s left : Shared}

/-- A visit starts on the scope that it has been given, whether that is a new one or not. -/
theorem Sequel.starts (v : Sequel) {scope : Option Scope} {before : Option Session}
    (hbefore : Option.Rel (Session.Starts origin s left) scope before)
    (hleft : s.Spent stack origin left) (hwithin : v.scope.Within s) :
    let left' := (v.arrival stack).shared before left
    ∃ origin', s.Spent stack origin' left' ∧
      ((v.arrival stack).session before left).Starts origin' s left' (v.origin scope) ∧
      left.states.length ≤ left'.states.length ∧
      ∀ k, k < left.states.length → origin' k = origin k := by
  intro left'
  -- a new scope is added to those that are there
  have hfresh : ∃ origin', s.Spent stack origin' (left.addScope v.scope.state) ∧
      Session.Starts origin' s (left.addScope v.scope.state) v.scope
        { request := v.scope.request, scope := left.nextScope } ∧
      left.states.length ≤ (left.addScope v.scope.state).states.length ∧
      ∀ k, k < left.states.length → origin' k = origin k :=
    ⟨_, hleft.addScope v.scope,
      ⟨rfl, left.nextScope_lt_addScope _, Function.update_self .., hwithin⟩,
      Nat.le_of_lt (left.nextScope_lt_addScope _),
      fun k hk => Function.update_of_ne (Nat.ne_of_lt hk) _ _⟩
  unfold left' arrival Arrival.shared Arrival.session Sequel.origin
  cases v.reusesScope with
  | false => exact hfresh
  | true =>
    cases hbefore with
    | none => exact hfresh
    | @some _ session hsession =>
      -- the session before is at its start too, and this one is on the same scope
      refine ⟨origin, hleft, ⟨?_, hsession.placed, hsession.arrived, hsession.within⟩,
        Nat.le_refl _, fun _ _ => rfl⟩
      exact congrArg (fun before => Session.mk before.request session.scope .none []) hsession.eq

/-- Visits that arrive one after another are all at their start. -/
theorem arrive_starts (visits : List Sequel) {scope : Option Scope} {before : Option Session}
    (hbefore : Option.Rel (Session.Starts origin s left) scope before)
    (hleft : s.Spent stack origin left) (hwithin : ∀ v ∈ visits, v.scope.Within s) :
    let arrived := arrive before left (visits.map (·.arrival stack))
    ∃ origin', s.Spent stack origin' arrived.2 ∧
      List.Forall₂ (Job.Starts stack origin' s arrived.2) (afresh scope visits) arrived.1 ∧
      left.states.length ≤ arrived.2.states.length ∧
      ∀ k, k < left.states.length → origin' k = origin k := by
  induction visits generalizing scope before origin left with
  | nil => exact ⟨origin, hleft, .nil, Nat.le_refl _, fun _ _ => rfl⟩
  | cons v visits ih =>
    -- those that arrive later only add scopes, so that this one stays at its start
    obtain ⟨origin₁, hleft₁, hstart, hle, horigin⟩ :=
      v.starts hbefore hleft (hwithin v List.mem_cons_self)
    obtain ⟨origin₂, hleft₂, hstarts, hle', horigin'⟩ :=
      ih (.some hstart) hleft₁ fun v hmem => hwithin v (List.mem_cons_of_mem _ hmem)
    refine ⟨origin₂, hleft₂, .cons ⟨rfl, hstart.mono hle' horigin'⟩ hstarts,
      Nat.le_trans hle hle', fun k hk => ?_⟩
    rw [horigin' k (Nat.lt_of_lt_of_le hk hle), horigin k hk]

/-- Visits at their start come one after another to the ends to which they come alone. -/
theorem finishAll_alike {visits : List Visit} {jobs : List Job} (hleft : s.Spent stack origin left)
    (h : List.Forall₂ (Job.Starts stack origin s left) visits jobs) :
    List.Forall₂ (fun v h => h.Alike (v.alone stack s).1 ∧ h.session.binding = .none)
      visits (finishAll jobs left).1 := by
  induction jobs generalizing visits left with
  | nil =>
    cases h
    exact .nil
  | cons job jobs ih =>
    cases h with
    | @cons v _ _ _ hjob hjobs =>
      have hstart := hjob.session
      obtain ⟨hleft', hlength, hbinding⟩ := hleft.finish (k := job.session.scope) hstart.arrived
      -- the request goes first, and what it leaves is what the others start from
      have halike := hleft.alike hstart.placed hstart.arrived hstart.within
      rw [← hjob.eq] at hleft' hlength hbinding halike
      refine .cons ⟨halike, hbinding⟩ (ih hleft' (hjobs.imp fun v job h => ?_))
      exact ⟨h.flow, h.session.mono (Nat.le_of_eq hlength.symm) fun _ _ => rfl⟩

/-- **Requests do not influence those that come after them.**  Requests go through one stack one
    after another, each on a scope of its own or on the one that the request before it has left
    behind.  Each of them is handled as it is alone on a fresh scope, and leaves nothing bound; what
    its application sees on the way, it may leave in its trace. -/
theorem Stack.handled_in_turn_as_alone (stack : Stack) (visits : List Sequel) {s : Shared}
    (hwithin : ∀ v ∈ visits, v.scope.Within s) :
    List.Forall₂ (fun v h => h.Alike (v.alone stack s).1 ∧ h.session.binding = .none)
      (afresh none visits) (handleInTurn (visits.map (·.arrival stack)) s).1 := by
  -- the scopes that were there before go by the states that they have
  have hspent : s.Spent stack (fun k => ⟨{ type := none }, s.state? k⟩) s :=
    ⟨Nat.le_refl _, fun _ => rfl, fun _ _ => .inl rfl⟩
  obtain ⟨origin, hleft, hstarts, -⟩ := arrive_starts visits .none hspent hwithin
  exact finishAll_alike hleft hstarts

/-- A request that fails after filling its context, one on the scope that it leaves behind, and two
    on the scope of a websocket, the first of which establishes an identity. -/
theorem Stack.handled_in_turn_as_alone_reusing :
    let bytes (text : Text) : List UInt8 := text.toList.map fun c => UInt8.ofNat c.toNat
    let header : Http.RawHeader := ⟨bytes "Authorization", bytes "Basic cm9kOmtvYWxh"⟩
    let http : Scope := ⟨{ type := some (.text "http"), headers := some [header] }, none⟩
    let websocket : Scope := ⟨{ type := some (.text "websocket"), headers := some [header] }, none⟩
    let stack : Stack := [.boundary, .gate ⟨.ofRules false [] (.ok (some { id := "rod" })),
      Challenge.entryPoint ⟨"Zoo", by decide⟩, false, "utf-8", .usual⟩]
    let failing := Application.ofScript [.assign (some { id := "dianne" }), .fail .noIdentity]
    let filling := Application.ofScript [.assign (some { id := "scott" })]
    let looking := Application.ofScript [.observe]
    let visits : List Sequel := [⟨⟨http, failing⟩, false⟩, ⟨⟨http, looking⟩, true⟩,
      ⟨⟨websocket, filling⟩, false⟩, ⟨⟨websocket, looking⟩, true⟩]
    (∀ v ∈ visits, v.scope.Within {}) ∧
      List.Forall₂ (fun v h => h.Alike (v.alone stack {}).1 ∧ h.session.binding = .none)
        [Visit.mk http failing, .mk http looking, .mk websocket filling, .mk websocket looking]
        (handleInTurn (visits.map (·.arrival stack)) {}).1 := by
  intro bytes header http websocket stack failing filling looking visits
  have hwithin : ∀ v ∈ visits, v.scope.Within {} := by
    intro v hmem id hid
    have hstate : v.scope.state = none := by
      simp only [visits, List.mem_cons, List.not_mem_nil, or_false] at hmem
      rcases hmem with rfl | rfl | rfl | rfl <;> rfl
    rw [hstate] at hid
    nomatch hid
  exact ⟨hwithin, Stack.handled_in_turn_as_alone stack visits hwithin⟩

end Turnstile
