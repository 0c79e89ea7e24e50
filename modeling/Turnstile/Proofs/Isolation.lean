import Mathlib.Data.List.Forall2
import Mathlib.Data.List.Nodup
import Turnstile.Codec.Usual
import Turnstile.Proofs.Mirror
import Turnstile.Proofs.Residue
import Turnstile.Requests

namespace Turnstile

/-!
# Requests at the same time

Requests that are handled at the same time, each on a scope of its own, do not notice each other:
whatever the schedule, each of them is handled as it would have been alone.

* `Job.OnTrack` — a request on its way among others, and what becomes of it alone;
* `mirrors_arrived` — a request at its start, on whatever others have left by then;
* `arrive_onTrack`, `turns_onTrack`, `finishAll_asAlone` — requests are on track at their start,
  stay so in every turn, and end as they do alone;
* `Stack.handled_as_alone` — **requests are isolated from each other**.
-/

/-! ### One request among others -/

/-- Among others a request is on its way to what becomes of it alone. -/
def Job.OnTrack (owner : Owners) (s : Shared) (alone : Handled × Shared) (job : Job) : Prop :=
  ∃ m : Machine, Machine.Mirrors owner ⟨s, job.session⟩ m ∧
    Job.finish ⟨job.flow, m.session⟩ m.shared = alone

/-- A request has been handled among others as it has been alone. -/
structure Handled.AsAlone (owner : Owners) (s : Shared) (alone : Handled × Shared)
    (handled : Handled) : Prop where
  outcome : handled.outcome = alone.1.outcome
  after : handled.after = alone.1.after
  mirrors : Machine.Mirrors owner ⟨s, handled.session⟩ ⟨alone.2, alone.1.session⟩

section

variable {owner owner' : Owners} {s s' : Shared} {alone : Handled × Shared} {scopes : List ScopeId}

theorem Job.OnTrack.stable {job : Job} (h : job.OnTrack owner s alone)
    (hs : s.ChangedBy scopes owner owner' s') (hforeign : job.session.scope ∉ scopes) :
    job.OnTrack owner' s' alone := by
  obtain ⟨m, hm, hfinish⟩ := h
  exact ⟨m, hm.stable hs hforeign, hfinish⟩

theorem Handled.AsAlone.stable {handled : Handled} (h : handled.AsAlone owner s alone)
    (hs : s.ChangedBy scopes owner owner' s') (hforeign : handled.session.scope ∉ scopes) :
    handled.AsAlone owner' s' alone :=
  ⟨h.outcome, h.after, h.mirrors.stable hs hforeign⟩

/-- A turn of a request keeps it on track. -/
theorem Job.OnTrack.advance {job : Job} (h : job.OnTrack owner s alone) :
    ∃ owner', Job.OnTrack owner' (job.flow.advance ⟨s, job.session⟩).2.shared alone
        ⟨(job.flow.advance ⟨s, job.session⟩).1, (job.flow.advance ⟨s, job.session⟩).2.session⟩ ∧
      s.ChangedBy [job.session.scope] owner owner'
        (job.flow.advance ⟨s, job.session⟩).2.shared := by
  obtain ⟨m, hm, hfinish⟩ := h
  obtain ⟨hflow, owner', hm', hs⟩ := hm.advance job.flow
  refine ⟨owner', ⟨(job.flow.advance m).2, hm', ?_⟩, hs⟩
  rw [← hfinish, hflow]
  exact Job.finish_advance job.flow m

/-- A request on track ends as it does alone. -/
theorem Job.OnTrack.finish {job : Job} (h : job.OnTrack owner s alone) :
    ∃ owner', (job.finish s).1.AsAlone owner' (job.finish s).2 alone ∧
      s.ChangedBy [job.session.scope] owner owner' (job.finish s).2 := by
  obtain ⟨m, hm, rfl⟩ := h
  obtain ⟨hresult, owner', hm', hs⟩ := hm.run job.flow
  exact ⟨owner', ⟨congrArg (·.1) hresult, congrArg (·.2) hresult, hm'⟩, hs⟩

end

/-! ### Many requests -/

/-- What has not to do with the scopes of requests keeps all of them on track. -/
theorem stable_onTrack {owner owner' : Owners} {s s' : Shared} {scopes : List ScopeId}
    (hs : s.ChangedBy scopes owner owner' s') {alones : List (Handled × Shared)} {jobs : List Job}
    (h : List.Forall₂ (Job.OnTrack owner s) alones jobs)
    (hforeign : ∀ job ∈ jobs, job.session.scope ∉ scopes) :
    List.Forall₂ (Job.OnTrack owner' s') alones jobs := by
  induction h with
  | nil => exact .nil
  | cons hjob _ ih =>
    exact .cons (hjob.stable hs (hforeign _ List.mem_cons_self))
      (ih fun job hmem => hforeign job (List.mem_cons_of_mem _ hmem))

/-- The scopes of requests, in order. -/
def scopesOf (jobs : List Job) : List ScopeId :=
  jobs.map (·.session.scope)

variable {owner : Owners} {alones : List (Handled × Shared)} {jobs : List Job} {s : Shared}

theorem scopesOf_set {n : Nat} (hlt : n < jobs.length) {job : Job}
    (hscope : job.session.scope = jobs[n].session.scope) :
    scopesOf (jobs.set n job) = scopesOf jobs := by
  unfold scopesOf
  rw [List.map_set, hscope]
  have hlt' : n < (jobs.map (·.session.scope)).length := by rw [List.length_map]; exact hlt
  rw [← List.getElem_map (fun job : Job => job.session.scope) (h := hlt'), List.set_getElem_self]

/-- A turn of one request keeps all on track. -/
theorem turn_onTrack (n : Nat) (h : List.Forall₂ (Job.OnTrack owner s) alones jobs)
    (hapart : (scopesOf jobs).Nodup) :
    scopesOf (turn n jobs s).1 = scopesOf jobs ∧
      ∃ owner', List.Forall₂ (Job.OnTrack owner' (turn n jobs s).2) alones (turn n jobs s).1 := by
  cases hn : jobs[n]? with
  | none =>
    have hturn : turn n jobs s = (jobs, s) := by rw [turn, hn]
    rw [hturn]
    exact ⟨rfl, owner, h⟩
  | some job =>
    obtain ⟨hlt, rfl⟩ := List.getElem?_eq_some_iff.1 hn
    obtain ⟨hlength, hget⟩ := List.forall₂_iff_get.1 h
    obtain ⟨owner', hjob, hs⟩ := (hget n (hlength ▸ hlt) hlt).advance
    have hturn : turn n jobs s = (jobs.set n
        ⟨(jobs[n].flow.advance ⟨s, jobs[n].session⟩).1,
          (jobs[n].flow.advance ⟨s, jobs[n].session⟩).2.session⟩,
        (jobs[n].flow.advance ⟨s, jobs[n].session⟩).2.shared) := by rw [turn, hn]
    rw [hturn]
    refine ⟨scopesOf_set hlt (Flow.advance_scope _ _), owner',
      List.forall₂_iff_get.2 ⟨hlength.trans (List.length_set ..).symm, fun i h₁ h₂ => ?_⟩⟩
    have hlt' : i < jobs.length := hlength ▸ h₁
    rw [List.get_eq_getElem (l := List.set _ _ _), List.getElem_set]
    by_cases hne : n = i
    · -- the request whose turn it is
      subst hne
      rw [if_pos rfl]
      exact hjob
    · -- another one, which is on another scope
      rw [if_neg hne]
      refine (hget i h₁ hlt').stable hs fun hmem => hne ?_
      have hscope : jobs[i].session.scope = jobs[n].session.scope := List.mem_singleton.1 hmem
      have hi : i < (scopesOf jobs).length := by rw [scopesOf, List.length_map]; exact hlt'
      have hn' : n < (scopesOf jobs).length := by rw [scopesOf, List.length_map]; exact hlt
      have hscopes : (scopesOf jobs)[i] = (scopesOf jobs)[n] := by
        simp only [scopesOf, List.getElem_map]
        exact hscope
      exact ((List.Nodup.getElem_inj_iff hapart).1 hscopes).symm

/-- Requests stay on track in whatever order they have their turns. -/
theorem turns_onTrack (schedule : List Nat) (h : List.Forall₂ (Job.OnTrack owner s) alones jobs)
    (hapart : (scopesOf jobs).Nodup) :
    scopesOf (turns schedule jobs s).1 = scopesOf jobs ∧
      ∃ owner', List.Forall₂ (Job.OnTrack owner' (turns schedule jobs s).2) alones
        (turns schedule jobs s).1 := by
  induction schedule generalizing owner jobs s with
  | nil => exact ⟨rfl, owner, h⟩
  | cons n schedule ih =>
    obtain ⟨hscopes, owner', h'⟩ := turn_onTrack n h hapart
    obtain ⟨hscopes', owner'', h''⟩ := ih h' (hscopes ▸ hapart)
    exact ⟨hscopes'.trans hscopes, owner'', h''⟩

/-- Requests on track end as they do alone. -/
theorem finishAll_asAlone (h : List.Forall₂ (Job.OnTrack owner s) alones jobs)
    (hapart : (scopesOf jobs).Nodup) :
    ∃ owner', List.Forall₂ (Handled.AsAlone owner' (finishAll jobs s).2) alones
        (finishAll jobs s).1 ∧
      s.ChangedBy (scopesOf jobs) owner owner' (finishAll jobs s).2 := by
  induction jobs generalizing owner alones s with
  | nil =>
    cases h
    exact ⟨owner, .nil, .refl _ _ _⟩
  | cons job jobs ih =>
    cases h with
    | cons hjob hjobs =>
      obtain ⟨hforeign, hapart'⟩ := List.nodup_cons.1 hapart
      obtain ⟨owner₁, hfirst, hs₁⟩ := hjob.finish
      -- the first one leaves the others on track, and they leave alone what it has ended with
      have hothers := stable_onTrack hs₁ hjobs fun other hmem he => hforeign
        (List.mem_map.2 ⟨other, hmem, List.mem_singleton.1 he⟩)
      obtain ⟨owner₂, hrest, hs₂⟩ := ih hothers hapart'
      refine ⟨owner₂, .cons (hfirst.stable hs₂ ?_) hrest, ?_⟩
      · rw [Job.finish_scope]
        exact hforeign
      · exact (hs₁.mono (List.cons_subset_cons _ (List.nil_subset _))).trans
          (hs₂.mono (List.subset_cons_self _ _))

/-! ### Requests at their start -/

/-- Adding a scope is none of the others' business. -/
theorem changedBy_addScope (owner : Owners) (s : Shared) (state : Option ScopeState) :
    s.ChangedBy [] owner owner (s.addScope state) where
  next_le := Nat.le_refl _
  owners _ _ := rfl
  contexts _ _ _ := rfl
  length_le := by rw [Shared.addScope, List.length_append]; exact Nat.le_add_right _ _
  states _ hscope _ := Shared.state?_addScope_of_lt hscope state

/-- The state of a scope holds no context that has not been opened. -/
def Scope.Within (scope : Scope) (s : Shared) : Prop :=
  ∀ id, scope.state.bind ScopeState.context? = some id → id < s.contexts.next

/-- A request that starts on a scope in the state in which it arrived starts like one that is alone,
    also where further contexts have been opened, as long as all hold what they held before. -/
theorem mirrors_arrived {s left : Shared} (hnext : s.contexts.next ≤ left.contexts.next)
    (hcontexts : ∀ id, left.contexts.get id = s.contexts.get id) {scope : Scope} {k : ScopeId}
    (hk : k < left.states.length) (hstate : left.state? k = scope.state)
    (hwithin : scope.Within s) :
    Machine.Mirrors (fun _ => none) ⟨left, { request := scope.request, scope := k }⟩
      (scope.arrived s) := by
  have halone : (scope.arrived s).shared.state? (scope.arrived s).session.scope = scope.state :=
    Shared.state?_addScope_self s scope.state
  refine ⟨id, {
    request := rfl, trace := rfl, binding := rfl, numbers := ?numbers, own := ?own
    holds := ?holds, scope := hk, scope' := ?scope', values := ?values
    context := ?context, held := ?held }⟩
  case numbers =>
    -- the contexts that the request can come to know go under their own numbers
    exact ⟨fun i hi => Nat.lt_of_lt_of_le hi hnext, fun i _ i' _ he => he,
      fun i _ scope _ he => nomatch he⟩
  case own => exact ⟨fun i hi => (nomatch hi), fun e he => (nomatch he)⟩
  case holds => exact fun i _ => hcontexts i
  case scope' => exact Shared.nextScope_lt_addScope s scope.state
  case values => exact congrArg (Option.map ScopeState.values) (hstate.trans halone.symm)
  case context =>
    rw [Option.map_id, id, halone]
    exact congrArg (Option.bind · ScopeState.context?) hstate
  case held =>
    rw [halone]
    exact hwithin

/-- A request that starts on a new scope starts like one that is alone. -/
theorem mirrors_start {s s₀ : Shared} (hcontexts : s₀.contexts = s.contexts) {scope : Scope}
    (hwithin : scope.Within s) :
    Machine.Mirrors (fun _ => none) (scope.arrived s₀) (scope.arrived s) :=
  @mirrors_arrived s (s₀.addScope scope.state)
    (Nat.le_of_eq (congrArg Contexts.next hcontexts).symm)
    (fun id => congrArg (Contexts.get · id) hcontexts) _ _
    (Shared.nextScope_lt_addScope s₀ scope.state) (Shared.state?_addScope_self s₀ scope.state)
    hwithin

/-- Requests on scopes of their own are on track at their start, each on its way to what becomes of
    it alone. -/
theorem arrive_onTrack {s s₀ : Shared} (hcontexts : s₀.contexts = s.contexts)
    (before : Option Session) {arrivals : List Arrival}
    (hfresh : ∀ a ∈ arrivals, a.reusesScope = false) (hwithin : ∀ a ∈ arrivals, a.scope.Within s) :
    List.Forall₂ (Job.OnTrack (fun _ => none) (arrive before s₀ arrivals).2)
        (arrivals.map fun a => handle a.flow a.scope s) (arrive before s₀ arrivals).1 ∧
      (scopesOf (arrive before s₀ arrivals).1).Nodup ∧
      (∀ scope ∈ scopesOf (arrive before s₀ arrivals).1, s₀.nextScope ≤ scope) ∧
      s₀.ChangedBy [] (fun _ => none) (fun _ => none) (arrive before s₀ arrivals).2 := by
  induction arrivals generalizing before s₀ with
  | nil => exact ⟨.nil, List.nodup_nil, fun scope hmem => (nomatch hmem), .refl _ _ _⟩
  | cons a arrivals ih =>
    have hsession : a.session before s₀ =
        { request := a.scope.request, scope := s₀.nextScope } := by
      unfold Arrival.session
      rw [hfresh a List.mem_cons_self]
    have hshared : a.shared before s₀ = s₀.addScope a.scope.state := by
      rw [Arrival.shared, hfresh a List.mem_cons_self]
      rfl
    have hstart := mirrors_start hcontexts (hwithin a List.mem_cons_self)
    unfold arrive
    rw [hsession, hshared]
    obtain ⟨hothers, hapart, hbeyond, hs⟩ := @ih (s₀.addScope a.scope.state) hcontexts
      (some { request := a.scope.request, scope := s₀.nextScope })
      (fun a hmem => hfresh a (List.mem_cons_of_mem _ hmem))
      (fun a hmem => hwithin a (List.mem_cons_of_mem _ hmem))
    rw [Shared.nextScope_addScope] at hbeyond
    -- those that arrive later only add scopes, each beyond that of this request
    refine ⟨.cons ⟨_, hstart.stable hs (List.not_mem_nil), rfl⟩ hothers, ?_, ?_, ?_⟩
    · exact List.nodup_cons.2 ⟨fun hmem => Nat.not_succ_le_self _ (hbeyond _ hmem), hapart⟩
    · intro scope hmem
      rcases List.mem_cons.1 hmem with rfl | hmem
      · exact Nat.le_refl _
      · exact Nat.le_of_succ_le (hbeyond scope hmem)
    · exact (changedBy_addScope _ s₀ a.scope.state).trans hs

/-- **Requests at the same time** on scopes of their own are handled as they are alone. -/
theorem handleTogether_asAlone (schedule : List Nat) {arrivals : List Arrival} {s : Shared}
    (hfresh : ∀ a ∈ arrivals, a.reusesScope = false) (hwithin : ∀ a ∈ arrivals, a.scope.Within s) :
    ∃ owner, List.Forall₂ (Handled.AsAlone owner (handleTogether schedule arrivals s).2)
      (arrivals.map fun a => handle a.flow a.scope s) (handleTogether schedule arrivals s).1 := by
  obtain ⟨hstart, hapart, -, -⟩ := arrive_onTrack (s := s) rfl none hfresh hwithin
  obtain ⟨hscopes, owner, hturns⟩ := turns_onTrack schedule hstart hapart
  obtain ⟨owner', hend, -⟩ := finishAll_asAlone hturns (hscopes ▸ hapart)
  exact ⟨owner', hend⟩

/-! ### Requests through one stack -/

/-- A request for a stack: what arrives, and the application that it reaches. -/
structure Visit where
  scope : Scope
  app : Application

/-- A visit on a scope of its own. -/
def Visit.arrival (stack : Stack) (v : Visit) : Arrival where
  scope := v.scope
  flow := stack.flow v.app.flow

/-- A visit that is alone. -/
def Visit.alone (stack : Stack) (v : Visit) (s : Shared) : Handled × Shared :=
  handle (stack.flow v.app.flow) v.scope s

/-- A visit puts everything back, with the last look at its end. -/
theorem Visit.restores_watched (stack : Stack) (v : Visit) :
    (watched (stack.flow v.app.flow)).Restores :=
  (stack.restores_flow v.app.steady.restores).bind fun _ m => .refl m

/-- Nothing is bound once a visit has been handled. -/
theorem Visit.binding_alone (stack : Stack) (v : Visit) (s : Shared) :
    (v.alone stack s).1.session.binding = .none :=
  (v.restores_watched stack (v.scope.arrived s)).binding

/-- What there is to see of a request that has been handled: how it ended, its trace, its binding
    and what it left in the state of its scope.  States are read at the very end, after all other
    requests have ended too. -/
structure Handled.Indistinguishable (left : Shared) (h : Handled) (alone : Handled × Shared) :
    Prop where
  outcome : h.outcome = alone.1.outcome
  trace : h.session.trace = alone.1.session.trace
  after : h.after = alone.1.after
  request : h.session.request = alone.1.session.request
  binding : h.session.binding = alone.1.session.binding
  values : (left.state? h.session.scope).map ScopeState.values =
    (alone.2.state? alone.1.session.scope).map ScopeState.values
  view : left.view h.session.scope h.session.binding =
    alone.2.view alone.1.session.scope alone.1.session.binding

/-- **Requests are isolated from each other.**  Whatever the schedule, requests that go through one
    stack at the same time, each on a scope of its own, are handled as they are alone. -/
theorem Stack.handled_as_alone (stack : Stack) (schedule : List Nat) (visits : List Visit)
    {s : Shared} (hwithin : ∀ v ∈ visits, v.scope.Within s) :
    List.Forall₂
      (fun v h => h.Indistinguishable
        (handleTogether schedule (visits.map (·.arrival stack)) s).2 (v.alone stack s))
      visits (handleTogether schedule (visits.map (·.arrival stack)) s).1 := by
  have hfresh : ∀ a ∈ visits.map (·.arrival stack), a.reusesScope = false := by
    intro a hmem
    obtain ⟨v, -, rfl⟩ := List.mem_map.1 hmem
    rfl
  have hwithin' : ∀ a ∈ visits.map (·.arrival stack), a.scope.Within s := by
    intro a hmem
    obtain ⟨v, hv, rfl⟩ := List.mem_map.1 hmem
    exact hwithin v hv
  obtain ⟨owner, h⟩ := handleTogether_asAlone schedule hfresh hwithin'
  rw [List.map_map, List.forall₂_map_left_iff] at h
  refine h.imp fun v handled hv => ?_
  obtain ⟨f, hf⟩ := hv.mirrors
  have hbinding := v.binding_alone stack s
  refine ⟨hv.outcome, hf.trace, hv.after, hf.request, ?_, hf.values, hf.view_state⟩
  -- contexts may have other numbers among others, but at the end none is bound
  have hrename : handled.session.binding = (v.alone stack s).1.session.binding.rename f :=
    hf.binding
  rw [hrename, hbinding]
  rfl

/-- One request waits for its authenticator and is admitted while another one, without credentials,
    is on its way. -/
theorem Stack.handled_as_alone_of_two :
    let bytes (text : Text) : List UInt8 := text.toList.map fun c => UInt8.ofNat c.toNat
    let header : Http.RawHeader := ⟨bytes "Authorization", bytes "Basic cm9kOmtvYWxh"⟩
    let g : Gate := ⟨.ofRules true [("rod", .ok (some { id := "rod" }))] (.ok none),
      Challenge.entryPoint ⟨"Zoo", by decide⟩, false, "utf-8", .usual⟩
    let stack : Stack := [.boundary, .gate g]
    let rod := Visit.mk ⟨{ type := some (.text "http"), headers := some [header] }, none⟩
      (.ofScript [.observe, .pause, .clear, .observe])
    let nobody := Visit.mk ⟨{ type := some (.text "http") }, none⟩ (.ofScript [.pause, .observe])
    g.authenticator.awaited = true ∧ (∀ v ∈ [rod, nobody], v.scope.Within {}) ∧
      List.Forall₂
        (fun v h => h.Indistinguishable
          (handleTogether [0, 1, 0, 1, 0] ([rod, nobody].map (·.arrival stack)) {}).2
          (v.alone stack {}))
        [rod, nobody]
        (handleTogether [0, 1, 0, 1, 0] ([rod, nobody].map (·.arrival stack)) {}).1 := by
  intro bytes header g stack rod nobody
  have hwithin : ∀ v ∈ [rod, nobody], v.scope.Within {} := by
    intro v hmem id hid
    rcases List.mem_pair.1 hmem with rfl | rfl <;> nomatch hid
  exact ⟨rfl, hwithin, stack.handled_as_alone [0, 1, 0, 1, 0] [rod, nobody] hwithin⟩

end Turnstile
