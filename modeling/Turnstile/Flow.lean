import Turnstile.Machine

namespace Turnstile

/-!
# Flows

A flow is the course of one request: it looks at what the request can see, acts, and pauses where
other requests may go on.

* `Flow` — looks, actions and pauses one after another;
* `Flow.Acts`, `Action.Records` — all actions of a flow are of one kind;
* `Flow.run` — a flow from its start to its end;
* `Flow.advance` — a flow up to its next pause;
* `Flow.run_bind` — **in sequence**: a flow that goes on with another runs first the one and then
  the other;
* `Flow.run_advance` — **pausing changes nothing**: running on from the next pause is running on.
-/

/-- The course of one request, ending with a result. -/
inductive Flow (α : Type) where
  | done (result : α)
  | look (next : View → Flow α)
  | act (action : Action) (next : Flow α)
  | pause (next : Flow α)

/-- How the handling of a request ends. -/
abbrev Outcome := Except Fault Unit

/-- An action that adds nothing to the trace but events of one kind. -/
def Action.Records (q : Event → Prop) : Action → Prop
  | .record e => q e
  | _ => True

namespace Flow

variable {α β : Type}

/-- Goes on with a flow that depends on the result. -/
def bind (f : Flow α) (k : α → Flow β) : Flow β :=
  match f with
  | .done a => k a
  | .look next => .look fun v => (next v).bind k
  | .act a next => .act a (next.bind k)
  | .pause next => .pause (next.bind k)

instance : Monad Flow where
  pure := .done
  bind := Flow.bind

/-- What the request can see now. -/
def view : Flow View := .look .done

/-- A single step. -/
def perform (a : Action) : Flow Unit := .act a (.done ())

/-- A point at which other requests may go on. -/
def rest : Flow Unit := .pause (.done ())

/-- Adds events to the trace. -/
def record : List Event → Flow Unit
  | [] => .done ()
  | e :: es => .act (.record e) (record es)

/-- Writes to the log. -/
def log (entries : List LogEntry) : Flow Unit :=
  record (entries.map .logged)

/-- Sends messages. -/
def send (messages : List Http.Message) : Flow Unit :=
  record (messages.map .sent)

/-- Runs a flow in a context of its own, which is closed however the flow ends.  A request that
    keeps no state can have none. -/
def inContext (body : Flow Outcome) : Flow Outcome := do
  if (← view).request.keepsState then
    perform .enter
    let outcome ← body
    perform .leave
    return outcome
  else return .error .nullState

/-! ### What a flow may come to do -/

/-- All actions that a flow may come to are of one kind. -/
def Acts (p : Action → Prop) : Flow α → Prop
  | .done _ => True
  | .look next => ∀ v, (next v).Acts p
  | .act a next => p a ∧ next.Acts p
  | .pause next => next.Acts p

theorem Acts.mono {p q : Action → Prop} {f : Flow α} (hpq : ∀ a, p a → q a) (h : f.Acts p) :
    f.Acts q := by
  induction f with
  | done a => trivial
  | look next ih => exact fun v => ih v (h v)
  | act a next ih => exact ⟨hpq a h.1, ih h.2⟩
  | pause next ih => exact ih h

theorem Acts.bind {p : Action → Prop} {f : Flow α} {k : α → Flow β} (hf : f.Acts p)
    (hk : ∀ a, (k a).Acts p) : (f >>= k).Acts p := by
  show (f.bind k).Acts p
  induction f with
  | done a => exact hk a
  | look next ih => exact fun v => ih v (hf v)
  | act a next ih => exact ⟨hf.1, ih hf.2⟩
  | pause next ih => exact ih hf

theorem acts_record {p : Action → Prop} {events : List Event} (h : ∀ e ∈ events, p (.record e)) :
    (record events).Acts p := by
  induction events with
  | nil => trivial
  | cons e es ih =>
    exact ⟨h e List.mem_cons_self, ih fun e' he' => h e' (List.mem_cons_of_mem _ he')⟩

theorem acts_log {p : Action → Prop} (h : ∀ entry, p (.record (.logged entry)))
    (entries : List LogEntry) : (log entries).Acts p := by
  refine acts_record fun e he => ?_
  obtain ⟨entry, -, rfl⟩ := List.mem_map.1 he
  exact h entry

theorem acts_send {p : Action → Prop} (h : ∀ message, p (.record (.sent message)))
    (messages : List Http.Message) : (send messages).Acts p := by
  refine acts_record fun e he => ?_
  obtain ⟨message, -, rfl⟩ := List.mem_map.1 he
  exact h message

/-! ### Running -/

/-- A flow from its start to its end. -/
def run : Flow α → Machine → α × Machine
  | .done a, m => (a, m)
  | .look next, m => (next m.view).run m
  | .act a next, m => next.run (a.apply m)
  | .pause next, m => next.run m

/-- A flow up to its next pause, with what is left of it. -/
def advance : Flow α → Machine → Flow α × Machine
  | .done a, m => (.done a, m)
  | .look next, m => (next m.view).advance m
  | .act a next, m => next.advance (a.apply m)
  | .pause next, m => (next, m)

@[simp] theorem run_pure (a : α) (m : Machine) : (pure a : Flow α).run m = (a, m) := rfl

/-- A flow that goes on with another runs first the one and then the other. -/
@[simp] theorem run_bind (f : Flow α) (k : α → Flow β) (m : Machine) :
    (f >>= k).run m = (k (f.run m).1).run (f.run m).2 := by
  show (f.bind k).run m = _
  induction f generalizing m with
  | done a => rfl
  | look next ih => exact ih _ _
  | act a next ih => exact ih _
  | pause next ih => exact ih _

/-- What a flow goes on with sees only how it has run. -/
theorem run_bind_congr {f f' : Flow α} {m : Machine} (h : f.run m = f'.run m) (k : α → Flow β) :
    (f >>= k).run m = (f' >>= k).run m := by
  rw [run_bind, run_bind, h]

@[simp] theorem run_view (m : Machine) : view.run m = (m.view, m) := rfl

theorem run_view_bind (k : View → Flow β) (m : Machine) :
    (view >>= k).run m = (k m.view).run m := rfl

@[simp] theorem run_perform (a : Action) (m : Machine) :
    (perform a).run m = ((), a.apply m) := rfl

@[simp] theorem run_record (events : List Event) (m : Machine) :
    (record events).run m = ((), m.tell events) := by
  induction events generalizing m with
  | nil => simp [record, run]
  | cons e es ih => rw [record, run, ih, Machine.tell_cons]

@[simp] theorem run_log (entries : List LogEntry) (m : Machine) :
    (log entries).run m = ((), m.tell (entries.map .logged)) :=
  run_record _ m

@[simp] theorem run_send (messages : List Http.Message) (m : Machine) :
    (send messages).run m = ((), m.tell (messages.map .sent)) :=
  run_record _ m

/-- A course in a context of its own: the context is opened, and it is closed however the course
    ends. -/
theorem run_inContext (body : Flow Outcome) (m : Machine) :
    (inContext body).run m =
      if m.session.request.keepsState then
        let result := body.run (Action.enter.apply m)
        (result.1, Action.leave.apply result.2)
      else (.error .nullState, m) := by
  unfold inContext
  rw [run_bind, run_view]
  show (if m.session.request.keepsState = true then _ else _ : Flow Outcome).run m = _
  split
  · simp
  · rfl

/-- A flow stays on its scope. -/
@[simp] theorem run_scope (f : Flow α) (m : Machine) :
    (f.run m).2.session.scope = m.session.scope := by
  induction f generalizing m with
  | done a => rfl
  | look next ih => exact ih _ _
  | act a next ih => exact (ih _).trans (a.apply_scope m)
  | pause next ih => exact ih _

/-- A flow stays with its request. -/
@[simp] theorem run_request (f : Flow α) (m : Machine) :
    (f.run m).2.session.request = m.session.request := by
  induction f generalizing m with
  | done a => rfl
  | look next ih => exact ih _ _
  | act a next ih => exact (ih _).trans (a.apply_request m)
  | pause next ih => exact ih _

@[simp] theorem advance_scope (f : Flow α) (m : Machine) :
    (f.advance m).2.session.scope = m.session.scope := by
  induction f generalizing m with
  | done a => rfl
  | look next ih => exact ih _ _
  | act a next ih => exact (ih _).trans (a.apply_scope m)
  | pause next _ => rfl

/-- Running on from the next pause is running on. -/
theorem run_advance (f : Flow α) (m : Machine) : (f.advance m).1.run (f.advance m).2 = f.run m := by
  induction f generalizing m with
  | done a => rfl
  | look next ih => exact ih _ _
  | act a next ih => exact ih _
  | pause next _ => rfl

end Flow

end Turnstile
