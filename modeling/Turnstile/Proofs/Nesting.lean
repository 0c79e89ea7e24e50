import Turnstile.Nesting

namespace Turnstile.Nesting

/-!
# Nested contexts and their ledger

What scopes, contexts and the binding come to when contexts are opened one inside another, filled,
emptied and closed.

* `Ledger` — which contexts have been opened on which scope, and which of them are still open, with
  what they hold; `Ledger.step` keeps it without looking at any state or binding;
* `Follows` — the invariant that ties nested contexts to their ledger, with `Follows.step`;
* `Balanced` — steps that close whatever they open;
* `Settled`, `Contained` — what can be read from nested contexts that follow a ledger, and what one
  step, or a context opened and closed again, does to them;
* `run_settled` — **the ledger is kept**: this holds after any steps from any scopes.
-/

variable {given : List Scope} {n : Nesting}

/-! ### The ledger -/

/-- An open context, with the identity in it. -/
structure Frame where
  id : ContextId
  held : Option Identity

/-- The scopes on which contexts have been opened, the latest first, and the contexts still open,
    the innermost first.  Contexts are numbered in the order in which they are opened, so an inner
    one always has the greater number. -/
structure Ledger where
  opened : List Nat
  frames : List Frame
  order : (opened.length :: frames.map Frame.id).Pairwise (· > ·)

namespace Ledger

variable {l : Ledger}

/-- Nothing has been opened. -/
def start : Ledger where
  opened := []
  frames := []
  order := List.pairwise_singleton ..

/-- Opens a context on a scope. -/
def opening (l : Ledger) (scope : Nat) : Ledger where
  opened := scope :: l.opened
  frames := ⟨l.opened.length, none⟩ :: l.frames
  order := by
    refine List.pairwise_cons.2 ⟨fun id hid => ?_, l.order⟩
    rcases List.mem_cons.1 hid with rfl | hid
    · exact Nat.lt_succ_self _
    · exact Nat.lt_succ_of_lt (List.rel_of_pairwise_cons l.order hid)

/-- Closes the innermost context. -/
def closing (l : Ledger) : Ledger where
  opened := l.opened
  frames := l.frames.tail
  order := l.order.sublist (((List.tail_sublist _).map _).cons_cons _)

/-- Fills or empties the innermost context. -/
def filling (l : Ledger) (slot : Option Identity) : Ledger where
  opened := l.opened
  frames := l.frames.modifyHead fun f => { f with held := slot }
  order := by
    have hids : (l.frames.modifyHead fun f => { f with held := slot }).map Frame.id =
        l.frames.map Frame.id := by
      cases l.frames <;> rfl
    rw [hids]
    exact l.order

/-- A context can be opened on the scope of that number. -/
def opens (given : List Scope) (scope : Nat) : Bool :=
  (given[scope]?).any fun s => s.request.keepsState

/-- The ledger after a step. -/
def step (given : List Scope) (l : Ledger) : Step → Ledger
  | .enter scope => if opens given scope then l.opening scope else l
  | .leave _ => l.closing
  | .assign (some identity) => l.filling (some identity)
  | .clear => l.filling none
  | .assign none | .look => l

/-- The ledger after some steps. -/
def after (given : List Scope) (l : Ledger) (steps : List Step) : Ledger :=
  steps.foldl (step given) l

/-- The ledger of some steps, with nothing opened before. -/
def ofSteps (given : List Scope) (steps : List Step) : Ledger :=
  start.after given steps

/-- The last context opened on a scope, by the scopes on which contexts have been opened, the latest
    first. -/
def lastOn (scope : Nat) : List Nat → Option ContextId
  | [] => none
  | s :: earlier => if s = scope then some earlier.length else lastOn scope earlier

/-- The innermost context. -/
def innermost? (l : Ledger) : Option Frame :=
  l.frames.head?

/-- A scope has a last context once one has been opened on it. -/
theorem lastOn_eq_none {scope : Nat} {opened : List Nat} :
    lastOn scope opened = none ↔ scope ∉ opened := by
  induction opened with
  | nil => simp [lastOn]
  | cons s earlier ih =>
    by_cases h : s = scope
    · simp [lastOn, h]
    · simp [lastOn, h, ih, Ne.symm h]

/-- Open contexts have been opened. -/
theorem id_lt {f : Frame} (hf : f ∈ l.frames) : f.id < l.opened.length :=
  List.rel_of_pairwise_cons l.order (List.mem_map_of_mem hf)

/-- The innermost context has been opened after those around it. -/
theorem id_lt_of_outer {f g : Frame} {outer : List Frame} (h : l.frames = f :: outer)
    (hg : g ∈ outer) : g.id < f.id := by
  have horder := (List.pairwise_cons.1 l.order).2
  rw [h, List.map_cons] at horder
  exact List.rel_of_pairwise_cons horder (List.mem_map_of_mem hg)

/-- No open context has been opened after the innermost one. -/
theorem id_le_innermost {f g : Frame} (hg : l.innermost? = some g) (hf : f ∈ l.frames) :
    f.id ≤ g.id := by
  obtain ⟨outer, h⟩ := List.head?_eq_some_iff.1 hg
  rcases List.mem_cons.1 (h ▸ hf) with rfl | houter
  · exact Nat.le_refl _
  · exact Nat.le_of_lt (id_lt_of_outer h houter)

/-- Filling does nothing where no context is open. -/
theorem filling_eq_self (h : l.frames = []) (slot : Option Identity) : l.filling slot = l := by
  cases l with
  | mk opened frames order =>
    subst h
    rfl

theorem frames_filling_of_cons {f : Frame} {outer : List Frame} (h : l.frames = f :: outer)
    (slot : Option Identity) : (l.filling slot).frames = ⟨f.id, slot⟩ :: outer := by
  show l.frames.modifyHead _ = _
  rw [h]
  rfl

/-- Filling the innermost context leaves those around it alone. -/
theorem tail_filling (l : Ledger) (slot : Option Identity) :
    (l.filling slot).frames.tail = l.frames.tail := by
  cases h : l.frames with
  | nil => rw [filling_eq_self h, h]
  | cons f outer => rw [frames_filling_of_cons h, List.tail_cons, List.tail_cons]

/-- An open context is the innermost one, which has just been filled or emptied, or is around it. -/
theorem mem_filling {slot : Option Identity} {f : Frame} (hf : f ∈ (l.filling slot).frames) :
    f.held = slot ∨ f ∈ l.frames.tail := by
  cases h : l.frames with
  | nil =>
    rw [filling_eq_self h, h] at hf
    cases hf
  | cons g outer =>
    rw [frames_filling_of_cons h] at hf
    rcases List.mem_cons.1 hf with rfl | hf
    · exact .inl rfl
    · exact .inr hf

end Ledger

/-! ### The invariant -/

/-- The binding of open contexts, each bound inside those around it. -/
def bindingOf : List Frame → Binding
  | [] => .none
  | f :: outer => (bindingOf outer).bind f.id

@[simp] theorem innermost?_bindingOf (frames : List Frame) :
    (bindingOf frames).innermost? = frames.head?.map Frame.id := by
  cases frames <;> rfl

@[simp] theorem bound_bindingOf (frames : List Frame) :
    (bindingOf frames).bound = frames.head?.map Frame.id := by
  cases frames <;> rfl

@[simp] theorem unbind_bindingOf (frames : List Frame) :
    (bindingOf frames).unbind = bindingOf frames.tail := by
  cases frames <;> rfl

theorem bindingOf_filling (l : Ledger) (slot : Option Identity) :
    bindingOf (l.filling slot).frames = bindingOf l.frames := by
  cases h : l.frames with
  | nil => rw [Ledger.filling_eq_self h, h]
  | cons f outer =>
    rw [Ledger.frames_filling_of_cons h]
    rfl

/-- A given scope once contexts have been opened on it, the last one held in its state. -/
def Ledger.reached (l : Ledger) (scope : Nat) (s : Scope) : Scope :=
  match lastOn scope l.opened with
  | none => s
  | some id => { s with state := some (ScopeState.attach id s.state) }

theorem Ledger.request_reached (l : Ledger) (scope : Nat) (s : Scope) :
    (l.reached scope s).request = s.request := by
  unfold reached
  cases lastOn scope l.opened <;> rfl

/-- Only the last context matters to the state of a scope. -/
theorem Ledger.attach_reached (l : Ledger) (scope : Nat) (s : Scope) (id : ContextId) :
    ScopeState.attach id (l.reached scope s).state = ScopeState.attach id s.state := by
  unfold reached
  cases lastOn scope l.opened with
  | none => rfl
  | some last => exact ScopeState.attach_attach last id s.state

@[simp] theorem Ledger.reached_opening_self (l : Ledger) (scope : Nat) (s : Scope) :
    (l.opening scope).reached scope s =
      { s with state := some (ScopeState.attach l.opened.length s.state) } := by
  simp [reached, opening, lastOn]

theorem Ledger.reached_opening_of_ne (l : Ledger) {scope other : Nat} (h : scope ≠ other) :
    (l.opening scope).reached other = l.reached other := by
  funext s
  simp [reached, opening, lastOn, h]

/-- Nested contexts that have come from given scopes to what a ledger says. -/
structure Follows (given : List Scope) (l : Ledger) (n : Nesting) : Prop where
  binding : n.binding = bindingOf l.frames
  next : n.contexts.next = l.opened.length
  held : ∀ f ∈ l.frames, n.contexts.get f.id = f.held
  closed : ∀ id, (∀ f ∈ l.frames, f.id ≠ id) → n.contexts.get id = none
  scopes : ∀ scope, n.scopes[scope]? = (given[scope]?).map (l.reached scope)

/-- Opens a context on a scope that is known to keep state. -/
def opened (n : Nesting) (scope : Nat) (s : Scope) : Nesting :=
  { n with
    scopes := n.scopes.set scope
      { s with state := some (ScopeState.attach n.contexts.next s.state) }
    contexts := n.contexts.grow
    binding := n.binding.bind n.contexts.next }

/-- A context is opened on a scope that keeps state, and nothing happens on any other. -/
theorem snd_enter (n : Nesting) (scope : Nat) :
    (n.enter scope).2 =
      match n.scopes[scope]? with
      | some s => if s.request.keepsState then n.opened scope s else n
      | none => n := by
  unfold enter
  cases n.scopes[scope]? with
  | none => rfl
  | some s =>
    dsimp only
    split <;> rfl

namespace Follows

variable {l : Ledger}

theorem innermost? (h : Follows given l n) : n.binding.innermost? = l.innermost?.map Frame.id := by
  rw [h.binding, innermost?_bindingOf]
  rfl

/-- Opening a context gives the next number, and nothing is in it. -/
theorem opening (h : Follows given l n) {scope : Nat} {s : Scope} (hs : given[scope]? = some s) :
    Follows given (l.opening scope) (n.opened scope (l.reached scope s)) where
  binding := by
    show n.binding.bind n.contexts.next = _
    rw [h.binding, h.next]
    rfl
  next := by
    show n.contexts.grow.next = l.opened.length + 1
    rw [Contexts.next_grow, h.next]
  held := by
    intro f hf
    rcases List.mem_cons.1 hf with rfl | hf
    · exact (Contexts.get_grow ..).trans (Contexts.get_eq_none (Nat.le_of_eq h.next))
    · exact (Contexts.get_grow ..).trans (h.held f hf)
  closed := by
    intro id hid
    exact (Contexts.get_grow ..).trans (h.closed id fun f hf => hid f (List.mem_cons_of_mem _ hf))
  scopes := by
    intro other
    show (n.scopes.set scope _)[other]? = _
    by_cases hother : scope = other
    · subst hother
      have hlt : scope < n.scopes.length := by
        refine (List.getElem?_eq_some_iff.1 (?_ : n.scopes[scope]? = some (l.reached scope s))).1
        rw [h.scopes scope, hs, Option.map_some]
      rw [List.getElem?_set_self hlt, hs, Option.map_some, l.reached_opening_self, h.next,
        l.attach_reached, l.request_reached]
    · rw [List.getElem?_set_ne hother, h.scopes other, l.reached_opening_of_ne hother]

/-- Where no context can be opened, the ledger stays what it is. -/
theorem enter (h : Follows given l n) (scope : Nat) :
    Follows given (l.step given (.enter scope)) (n.enter scope).2 := by
  rw [snd_enter, h.scopes scope]
  show Follows given (if Ledger.opens given scope then _ else _) _
  unfold Ledger.opens
  cases hs : given[scope]? with
  | none => exact h
  | some s =>
    simp only [Option.map_some, Option.any_some, l.request_reached]
    split
    · exact h.opening hs
    · exact h

/-- Putting something into the innermost context changes what is in that one alone. -/
theorem get_put (h : Follows given l n) {f : Frame} {outer : List Frame}
    (hframes : l.frames = f :: outer) (slot : Option Identity) (id : ContextId) :
    (n.contexts.put f.id slot).get id = if id = f.id then slot else n.contexts.get id := by
  have hlt : f.id < n.contexts.next := by
    rw [h.next]
    exact Ledger.id_lt (hframes ▸ List.mem_cons_self)
  rw [Contexts.get_put]
  simp [hlt]

/-- What is put into the innermost context is found there and nowhere else. -/
theorem put (h : Follows given l n) (slot : Option Identity) :
    Follows given (l.filling slot) (n.put slot) := by
  have hinnermost := h.innermost?
  rw [Ledger.innermost?] at hinnermost
  unfold Nesting.put
  cases hframes : l.frames with
  | nil =>
    -- what happens to the free context is no concern of the ledger
    rw [hinnermost, hframes, Ledger.filling_eq_self hframes]
    exact ⟨h.binding, h.next, h.held, h.closed, h.scopes⟩
  | cons f outer =>
    rw [hinnermost, hframes]
    have hget := h.get_put hframes slot
    have hfilling := Ledger.frames_filling_of_cons hframes slot
    refine ⟨?_, (Contexts.next_put ..).trans h.next, fun g hg => ?_, fun id hid => ?_, h.scopes⟩
    · rw [bindingOf_filling]
      exact h.binding
    · show (n.contexts.put f.id slot).get g.id = g.held
      rw [hget]
      rcases List.mem_cons.1 (hfilling ▸ hg) with rfl | hg
      · exact if_pos rfl
      · rw [if_neg (Nat.ne_of_lt (Ledger.id_lt_of_outer hframes hg))]
        exact h.held g (hframes ▸ List.mem_cons_of_mem _ hg)
    · rw [hfilling] at hid
      show (n.contexts.put f.id slot).get id = none
      rw [hget, if_neg (hid _ List.mem_cons_self).symm]
      refine h.closed id fun g hg => ?_
      rcases List.mem_cons.1 (hframes ▸ hg) with rfl | hg
      · exact hid ⟨g.id, slot⟩ List.mem_cons_self
      · exact hid g (List.mem_cons_of_mem _ hg)

/-- Closing the innermost context empties it and no other. -/
theorem leave (h : Follows given l n) : Follows given l.closing n.leave := by
  have hemptied := h.put none
  have hcontexts : n.leave.contexts = (n.put none).contexts := by
    show n.contexts.emptyInnermost n.binding = _
    unfold Contexts.emptyInnermost Nesting.put
    cases n.binding.innermost? <;> rfl
  refine ⟨?_, (Contexts.next_emptyInnermost ..).trans h.next, fun f hf => ?_, fun id hid => ?_,
    h.scopes⟩
  · show n.binding.unbind = _
    rw [h.binding, unbind_bindingOf]
    rfl
  · rw [hcontexts]
    refine hemptied.held f (List.mem_of_mem_tail ?_)
    rw [Ledger.tail_filling]
    exact hf
  · rw [hcontexts]
    -- either the context has just been emptied or it was closed before
    by_cases hopen : ∃ f ∈ (l.filling none).frames, f.id = id
    · obtain ⟨f, hf, rfl⟩ := hopen
      rcases Ledger.mem_filling hf with hheld | houter
      · rw [hemptied.held f hf, hheld]
      · exact absurd rfl (hid f houter)
    · exact hemptied.closed id fun f hf hfid => hopen ⟨f, hf, hfid⟩

/-- Whatever is done, the ledger is kept. -/
theorem step (h : Follows given l n) (s : Step) :
    Follows given (l.step given s) (n.step s).2 := by
  cases s with
  | enter scope => exact h.enter scope
  | leave raised => cases raised <;> exact h.leave
  | assign identity =>
    cases identity with
    | none => exact h
    | some identity => exact h.put (some identity)
  | clear => exact h.put none
  | look => exact h

end Follows

/-! ### Runs -/

/-- Nested contexts after some steps. -/
def after (n : Nesting) (steps : List Step) : Nesting :=
  steps.foldl (fun n s => (n.step s).2) n

/-- What some steps make of given scopes, with no context open at first. -/
def run (given : List Scope) (steps : List Step) : Nesting :=
  after { scopes := given } steps

theorem Follows.after {l : Ledger} (h : Follows given l n) (steps : List Step) :
    Follows given (l.after given steps) (n.after steps) := by
  induction steps generalizing l n with
  | nil => exact h
  | cons s steps ih => exact ih (h.step s)

/-- With no context open, the scopes are those given. -/
theorem follows_start (given : List Scope) : Follows given .start { scopes := given } where
  binding := rfl
  next := rfl
  held := fun f hf => absurd hf List.not_mem_nil
  closed := fun id _ => rfl
  scopes := fun scope => by
    show given[scope]? = (given[scope]?).map fun s => s
    rw [Option.map_id']

/-- The invariant of every run. -/
theorem run_follows (given : List Scope) (steps : List Step) :
    Follows given (.ofSteps given steps) (run given steps) :=
  (follows_start given).after steps

/-! ### Opening and closing again -/

/-- The step neither opens a context nor closes one. -/
def Step.stays (given : List Scope) : Step → Bool
  | .enter scope => !Ledger.opens given scope
  | .leave _ => false
  | .assign _ | .clear | .look => true

/-- Steps that close every context they open, and no other. -/
inductive Balanced (given : List Scope) : List Step → Prop
  | nil : Balanced given []
  | stay {s : Step} {rest : List Step} :
    s.stays given = true → Balanced given rest → Balanced given (s :: rest)
  | nest {scope : Nat} {body rest : List Step} (raised : Option Fault) :
    Ledger.opens given scope = true → Balanced given body → Balanced given rest →
      Balanced given (.enter scope :: body ++ .leave raised :: rest)

namespace Ledger

variable {l : Ledger}

/-- A step that neither opens nor closes leaves the contexts around the innermost one alone. -/
theorem tail_step_of_stays {s : Step} (h : s.stays given = true) :
    (l.step given s).frames.tail = l.frames.tail := by
  cases s with
  | enter scope =>
    have hopens : opens given scope = false := by simpa [Step.stays] using h
    simp [step, hopens]
  | leave raised => cases h
  | assign identity =>
    cases identity with
    | none => rfl
    | some identity => exact l.tail_filling _
  | clear => exact l.tail_filling _
  | look => rfl

/-- So do steps that close every context they open. -/
theorem tail_after_of_balanced {steps : List Step} (h : Balanced given steps) (l : Ledger) :
    (l.after given steps).frames.tail = l.frames.tail := by
  induction h generalizing l with
  | nil => rfl
  | stay hstays _ ih => exact (ih _).trans (tail_step_of_stays hstays)
  | @nest scope body rest raised hopens _ _ ihbody ihrest =>
    rw [after, List.foldl_append, List.foldl_cons, List.foldl_cons]
    refine (ihrest _).trans ?_
    show ((l.step given (.enter scope)).after given body).frames.tail.tail = l.frames.tail
    rw [ihbody, step, if_pos hopens]
    rfl

/-- A context opened and closed again leaves all others as they were. -/
theorem frames_after_nest {scope : Nat} {body : List Step} (hopens : opens given scope = true)
    (hbody : Balanced given body) (raised : Option Fault) (l : Ledger) :
    (l.after given (.enter scope :: body ++ [.leave raised])).frames = l.frames := by
  rw [after, List.foldl_append, List.foldl_cons]
  show ((l.step given (.enter scope)).after given body).frames.tail = l.frames
  rw [tail_after_of_balanced hbody, step, if_pos hopens]
  rfl

end Ledger

/-! ### What a ledger says of nested contexts -/

/-- What can be read from nested contexts that have come from given scopes to what a ledger says. -/
structure Settled (given : List Scope) (l : Ledger) (n : Nesting) : Prop where
  /-- The innermost open context is bound. -/
  bound : n.binding.bound = l.innermost?.map Frame.id
  /-- No open context has been opened after the bound one. -/
  latest : ∀ id, n.binding.bound = some id → ∀ f ∈ l.frames, f.id ≤ id
  /-- Nothing is bound exactly when nothing is open. -/
  unbound : n.binding.bound = none ↔ l.frames = []
  /-- The current identity is that of the innermost open context. -/
  current : n.current = l.innermost?.bind Frame.held
  /-- An open context holds what was put there last. -/
  held : ∀ f ∈ l.frames, n.contexts.get f.id = f.held
  /-- Nothing is in a context that is not open. -/
  closed : ∀ id, (∀ f ∈ l.frames, f.id ≠ id) → n.contexts.get id = none
  /-- A scope on which no context has been opened is as given. -/
  untouched : ∀ scope ∉ l.opened, n.scopes[scope]? = given[scope]?
  /-- The state of any other scope holds the last context opened on it, and otherwise what was
      given; that context is seen as the bound one exactly if it is the innermost open one. -/
  attached : ∀ scope s id, given[scope]? = some s → Ledger.lastOn scope l.opened = some id →
    ∃ st, n.scopes[scope]? = some { s with state := some st } ∧
      st.context? = some id ∧
      (∀ name, name ≠ contextKey → st.lookup name = (s.state.getD []).lookup name) ∧
      ((st.view n.contexts n.binding).isBound = true ↔ l.innermost?.map Frame.id = some id)

/-- What opening and closing, and filling with nothing, do to nested contexts. -/
structure Contained (given : List Scope) (l : Ledger) (n : Nesting) : Prop where
  /-- Opening a context changes nothing in those already open. -/
  opening : ∀ scope, ∀ f ∈ l.frames,
    (n.step (.enter scope)).2.contexts.get f.id = n.contexts.get f.id
  /-- Closing a context changes nothing in those around it. -/
  closing : ∀ raised, ∀ f ∈ l.frames.tail,
    (n.step (.leave raised)).2.contexts.get f.id = n.contexts.get f.id
  /-- A context that is closed is left empty. -/
  emptied : ∀ raised, n.left (.leave raised) = none
  /-- A context opened and, whatever was opened inside it having been closed, closed again gives
      back the binding, and what is in the contexts around it. -/
  restored : ∀ scope body raised, Ledger.opens given scope = true → Balanced given body →
    let back := n.after (.enter scope :: body ++ [.leave raised])
    back.binding = n.binding ∧ back.current = n.current ∧
      ∀ f ∈ l.frames, back.contexts.get f.id = n.contexts.get f.id
  /-- Filling a context with nothing is refused. -/
  refused : n.step (.assign none) = (.error .noIdentity, n)
  /-- The fault of a body comes out when its context is closed. -/
  raised : ∀ fault, (n.step (.leave (some fault))).1 = .error fault

namespace Follows

variable {l : Ledger}

theorem bound (h : Follows given l n) : n.binding.bound = l.innermost?.map Frame.id := by
  rw [h.binding, bound_bindingOf]
  rfl

theorem current (h : Follows given l n) : n.current = l.innermost?.bind Frame.held := by
  unfold Nesting.current Contexts.current
  rw [h.bound]
  cases hinnermost : l.innermost? with
  | none => rfl
  | some f => exact h.held f (List.mem_of_mem_head? hinnermost)

theorem settled (h : Follows given l n) : Settled given l n where
  bound := h.bound
  latest := by
    intro id hid f hf
    rw [h.bound] at hid
    obtain ⟨g, hg, rfl⟩ := Option.map_eq_some_iff.1 hid
    exact Ledger.id_le_innermost hg hf
  unbound := by
    rw [h.bound, Option.map_eq_none_iff]
    exact List.head?_eq_none_iff
  current := h.current
  held := h.held
  closed := h.closed
  untouched := by
    intro scope hscope
    rw [h.scopes scope]
    unfold Ledger.reached
    rw [Ledger.lastOn_eq_none.2 hscope]
    exact Option.map_id' ..
  attached := by
    intro scope s id hs hid
    refine ⟨ScopeState.attach id s.state, ?_, ScopeState.context?_attach .., fun name hname =>
      ScopeState.lookup_attach id s.state hname, ?_⟩
    · rw [h.scopes scope, hs, Option.map_some, Ledger.reached, hid]
    · rw [← h.bound]
      simp [ScopeState.view]

theorem contained (h : Follows given l n) : Contained given l n where
  opening := by
    intro scope f hf
    have hstill : f ∈ (l.step given (.enter scope)).frames := by
      rw [Ledger.step]
      split
      · exact List.mem_cons_of_mem _ hf
      · exact hf
    rw [(h.step (.enter scope)).held f hstill, h.held f hf]
  closing := by
    intro raised f hf
    rw [(h.step (.leave raised)).held f hf, h.held f (List.mem_of_mem_tail hf)]
  emptied := by
    intro raised
    rw [left, h.innermost?, Ledger.innermost?]
    cases hframes : l.frames with
    | nil => rfl
    | cons f outer =>
      refine (h.step (.leave raised)).closed f.id fun g hg =>
        Nat.ne_of_lt (Ledger.id_lt_of_outer hframes ?_)
      have houter : g ∈ l.frames.tail := hg
      rwa [hframes] at houter
  restored := by
    intro scope body raised hopens hbody
    have hback := h.after (.enter scope :: body ++ [.leave raised])
    have hframes := Ledger.frames_after_nest hopens hbody raised l
    refine ⟨?_, ?_, fun f hf => ?_⟩
    · rw [hback.binding, h.binding, hframes]
    · rw [hback.current, h.current, Ledger.innermost?, Ledger.innermost?, hframes]
    · rw [hback.held f (hframes ▸ hf), h.held f hf]
  refused := rfl
  raised := fun fault => rfl

end Follows

/-- **The ledger is kept.**  Whatever contexts are opened on whatever scopes, filled, emptied and
    closed, the innermost open context is bound and its identity is the current one, closed contexts
    are empty, and each scope holds the last context opened on it.  One step changes nothing in
    other open contexts, and to close a context is to go back to those around it as they were. -/
theorem run_settled (given : List Scope) (steps : List Step) :
    Settled given (.ofSteps given steps) (run given steps) ∧
      Contained given (.ofSteps given steps) (run given steps) :=
  ⟨(run_follows given steps).settled, (run_follows given steps).contained⟩

/-- A context inside another on the same scope: once the inner one is closed, the state still holds
    it while the outer one is bound. -/
example :
    let n := run [{ request := { type := none } }] [.enter 0, .enter 0, .leave (some .nullState)]
    n.binding.bound = some 0 ∧ n.scopes.map (·.state.bind ScopeState.context?) = [some 1] :=
  ⟨rfl, rfl⟩

end Turnstile.Nesting
