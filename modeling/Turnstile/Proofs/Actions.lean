import Turnstile.Stack

namespace Turnstile

/-!
# What a flow may come to do

The actions of a flow depend on what it sees, but all that it may come to can be told from the flow
itself.

* `Flow.Acts.exists_trace` — **a flow leaves what it may record**: if it records events of one kind
  only, all that it adds to the trace is of that kind;
* `acts_script`, `Gate.acts_evaluate`, `Gate.acts_delegate` — what an application given as a list
  may come to do, and what a gate may.
-/

namespace Flow

variable {α : Type}

/-- What a flow that records events of one kind adds to the trace is of that kind. -/
theorem Acts.exists_trace {q : Event → Prop} {f : Flow α} (h : f.Acts (Action.Records q))
    (m : Machine) : ∃ events, (f.run m).2.session.trace = m.session.trace ++ events ∧
      ∀ e ∈ events, q e := by
  induction f generalizing m with
  | done a => exact ⟨[], (List.append_nil _).symm, fun e he => nomatch he⟩
  | look next ih => exact ih m.view (h _) m
  | pause next ih => exact ih h m
  | act a next ih =>
    obtain ⟨events, htrace, hevents⟩ := ih h.2 (a.apply m)
    cases a with
    | record e =>
      refine ⟨e :: events, htrace.trans (List.append_assoc _ [e] events), fun e' he' => ?_⟩
      rcases List.mem_cons.1 he' with rfl | he'
      · exact h.1
      · exact hevents e' he'
    | assign identity =>
      refine ⟨events, htrace.trans ?_, hevents⟩
      exact congrArg (fun s => Session.trace s ++ events) (m.putBound_session (some identity))
    | clear =>
      refine ⟨events, htrace.trans ?_, hevents⟩
      exact congrArg (fun s => Session.trace s ++ events) (m.putBound_session none)
    | enter => exact ⟨events, htrace, hevents⟩
    | leave => exact ⟨events, htrace, hevents⟩

end Flow

/-! ### Applications and gates -/

/-- An application given as a list of what it does fills and empties the bound context and adds to
    the trace, but writes nothing to the log. -/
theorem acts_script {p : Action → Prop} (hassign : ∀ identity, p (.assign identity))
    (hclear : p .clear) (hrecord : ∀ e : Event, e.entry? = none → p (.record e))
    (deeds : List Deed) : (script deeds).Acts p := by
  induction deeds with
  | nil => trivial
  | cons deed deeds ih =>
    cases deed with
    | pause => exact ih
    | observe => exact fun _ => ⟨hrecord _ rfl, ih⟩
    | assign identity =>
      intro v
      show Flow.Acts p (if v.here.bound then _ else _)
      split
      · cases identity with
        | none => trivial
        | some i => exact ⟨hassign i, fun _ => ⟨hrecord _ rfl, ih⟩⟩
      · exact ih
    | clear =>
      intro v
      show Flow.Acts p (if v.here.bound then _ else _)
      split
      · exact ⟨hclear, fun _ => ⟨hrecord _ rfl, ih⟩⟩
      · exact ih
    | send message => exact ⟨hrecord _ rfl, ih⟩
    | fail fault => trivial

section

variable {p : Action → Prop} (hassign : ∀ identity, p (.assign identity)) (hclear : p .clear)
  (hlogged : ∀ entry, p (.record (.logged entry)))

include hassign hclear hlogged

theorem Gate.acts_settle (g : Gate) (path username : Text)
    (reply : Except Fault (Option Identity)) : (g.settle path username reply).Acts p := by
  unfold settle
  rcases reply with fault | _ | identity
  · cases fault
    case rejected r => exact ⟨hclear, (Flow.acts_log hlogged _).bind fun _ => trivial⟩
    all_goals trivial
  · trivial
  · exact ⟨hassign identity, (Flow.acts_log hlogged _).bind fun _ => trivial⟩

/-- A gate that decides fills or empties the context that is bound, writes to the log and puts
    credentials to its authenticator. -/
theorem Gate.acts_evaluate (g : Gate) {number : Nat}
    (hconsulted : ∀ c, p (.record (.consulted number c))) (authorization : Option Text)
    (path : Text) : (g.evaluate number authorization path).Acts p := by
  have hattempt : ∀ c, (g.attempt number path c).Acts p := by
    intro c
    unfold attempt
    refine (Flow.acts_log hlogged _).bind fun _ => Flow.Acts.bind ⟨hconsulted c, trivial⟩ fun _ =>
      (Flow.acts_log hlogged _).bind fun _ => ?_
    split
    · exact Flow.Acts.bind (by trivial) fun _ => g.acts_settle hassign hclear hlogged _ _ _
    · exact g.acts_settle hassign hclear hlogged _ _ _
  intro v
  show Flow.Acts p (if v.here.identity.isSome then _ else _)
  split
  · exact (Flow.acts_log hlogged _).bind fun _ => trivial
  · rcases Credentials.read g.registry g.charset authorization with fault | skip | c
    · trivial
    · exact (Flow.acts_log hlogged _).bind fun _ => trivial
    · exact hattempt c

omit hassign hclear in
/-- A gate that hands on a request writes to the log, and sends what the entry point answers. -/
theorem Gate.acts_delegate (g : Gate) {number : Nat}
    (hdelegated : ∀ r, p (.record (.delegated number r)))
    (hsent : ∀ message, p (.record (.sent message))) (request : Request) (r : Rejection) :
    (g.delegate number request r).Acts p := by
  unfold delegate
  exact (Flow.acts_log hlogged _).bind fun _ => Flow.Acts.bind ⟨hdelegated r, trivial⟩ fun _ =>
    (Flow.acts_log hlogged _).bind fun _ => (Flow.acts_send hsent _).bind fun _ => trivial

end

end Turnstile
