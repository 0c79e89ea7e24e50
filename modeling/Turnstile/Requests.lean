import Turnstile.Stack

namespace Turnstile

/-!
# Handling many requests

* `handle` — one request from its start to its end;
* `handleTogether` — requests at the same time, in the order that a schedule gives at their pauses,
  each on a scope of its own or on that of the request before it;
* `handleInTurn` — requests one after another.
-/

/-! ### One request -/

/-- A request that has been handled: how it ended, its session, and what could be seen then. -/
structure Handled where
  outcome : Outcome
  session : Session
  after : Observation

/-- A course with a last look at its end. -/
def watched (flow : Flow Outcome) : Flow (Outcome × Observation) := do
  let outcome ← flow
  return (outcome, (← Flow.view).here)

/-- A request on its way: what is left of its course, and its session. -/
structure Job where
  flow : Flow (Outcome × Observation)
  session : Session

/-- Lets a request go on to its end. -/
def Job.finish (job : Job) (s : Shared) : Handled × Shared :=
  let (result, m) := job.flow.run ⟨s, job.session⟩
  (⟨result.1, m.session, result.2⟩, m.shared)

/-- A request that goes on to its next pause comes to the same end. -/
theorem Job.finish_advance (flow : Flow (Outcome × Observation)) (m : Machine) :
    Job.finish ⟨(flow.advance m).1, (flow.advance m).2.session⟩ (flow.advance m).2.shared =
      Job.finish ⟨flow, m.session⟩ m.shared :=
  congrArg (fun r => (Handled.mk r.1.1 r.2.session r.1.2, r.2.shared)) (flow.run_advance m)

theorem Job.finish_scope (job : Job) (s : Shared) :
    (job.finish s).1.session.scope = job.session.scope :=
  job.flow.run_scope _

/-- The last look at the end of a course changes nothing. -/
theorem Job.finish_watched (flow : Flow Outcome) (session : Session) (s : Shared) :
    Job.finish ⟨watched flow, session⟩ s =
      let ending := flow.run ⟨s, session⟩
      (⟨ending.1, ending.2.session, ending.2.observation⟩, ending.2.shared) := by
  unfold finish watched
  rw [Flow.run_bind]
  rfl

/-- Handles one request on the next scope. -/
def handle (flow : Flow Outcome) (scope : Scope) (s : Shared) : Handled × Shared :=
  Job.finish ⟨watched flow, { request := scope.request, scope := s.nextScope }⟩
    (s.addScope scope.state)

/-- The machine on which a request starts that arrives on the next scope. -/
def Scope.arrived (scope : Scope) (s : Shared) : Machine where
  shared := s.addScope scope.state
  session := { request := scope.request, scope := s.nextScope }

theorem outcome_handle (flow : Flow Outcome) (scope : Scope) (s : Shared) :
    (handle flow scope s).1.outcome = (flow.run (scope.arrived s)).1 :=
  congrArg (·.1.outcome) (Job.finish_watched flow _ _)

theorem session_handle (flow : Flow Outcome) (scope : Scope) (s : Shared) :
    (handle flow scope s).1.session = (flow.run (scope.arrived s)).2.session :=
  congrArg (·.1.session) (Job.finish_watched flow _ _)

/-- Courses that run alike are handled alike. -/
theorem handle_congr {flow flow' : Flow Outcome} {scope : Scope} {s : Shared}
    (h : flow.run (scope.arrived s) = flow'.run (scope.arrived s)) :
    handle flow scope s = handle flow' scope s := by
  unfold handle
  rw [Job.finish_watched, Job.finish_watched]
  exact congrArg
    (fun ending : Outcome × Machine =>
      (Handled.mk ending.1 ending.2.session ending.2.observation, ending.2.shared)) h

/-! ### Many requests -/

/-- A request to be handled: what arrives, on a scope of its own or on that of the request before
    it, and the course it takes. -/
structure Arrival where
  scope : Scope
  reusesScope : Bool := false
  flow : Flow Outcome

/-- The session in which a request starts, after one that has started in the session `before`. -/
def Arrival.session (a : Arrival) (before : Option Session) (s : Shared) : Session :=
  match a.reusesScope, before with
  | true, some session => { request := session.request, scope := session.scope }
  | _, _ => { request := a.scope.request, scope := s.nextScope }

/-- What is shared once a request has its scope. -/
def Arrival.shared (a : Arrival) (before : Option Session) (s : Shared) : Shared :=
  if a.reusesScope && before.isSome then s else s.addScope a.scope.state

/-- Requests at their start. -/
def arrive (before : Option Session) (s : Shared) : List Arrival → List Job × Shared
  | [] => ([], s)
  | a :: arrivals =>
    let session := a.session before s
    let others := arrive (some session) (a.shared before s) arrivals
    (⟨watched a.flow, session⟩ :: others.1, others.2)

/-- Lets the request of a number go on to its next pause. -/
def turn (n : Nat) (jobs : List Job) (s : Shared) : List Job × Shared :=
  match jobs[n]? with
  | none => (jobs, s)
  | some job =>
    let (flow, m) := job.flow.advance ⟨s, job.session⟩
    (jobs.set n ⟨flow, m.session⟩, m.shared)

/-- Lets requests go on in the order of a schedule. -/
def turns : List Nat → List Job → Shared → List Job × Shared
  | [], jobs, s => (jobs, s)
  | n :: schedule, jobs, s =>
    let (jobs, s) := turn n jobs s
    turns schedule jobs s

/-- Lets each request go on to its end, one after another. -/
def finishAll : List Job → Shared → List Handled × Shared
  | [], s => ([], s)
  | job :: jobs, s =>
    let first := job.finish s
    let others := finishAll jobs first.2
    (first.1 :: others.1, others.2)

/-- Handles requests at the same time: in the order of the schedule as long as it lasts, and then
    each to its end. -/
def handleTogether (schedule : List Nat) (arrivals : List Arrival) (s : Shared) :
    List Handled × Shared :=
  let (jobs, s) := arrive none s arrivals
  let (jobs, s) := turns schedule jobs s
  finishAll jobs s

/-- Handles requests one after another. -/
def handleInTurn (arrivals : List Arrival) (s : Shared) : List Handled × Shared :=
  handleTogether [] arrivals s

end Turnstile
