import Mathlib.Data.List.Chain
import Turnstile.Codec.Usual
import Turnstile.Proofs.Evaluation

namespace Turnstile.Gate

/-!
# Decisions along the use of a gate

A gate is used again and again on one context, which is filled, emptied and replaced in between.

* `Use`, `uses` — what a step finds, what it leaves and how it ends, step after step;
* `Coherent`, `Use.Sound` — what a decision has to do with what the authenticator was asked and what
  it replied, and with what the context holds;
* `run_evaluate_comesTo` — what an evaluation comes to;
* `uses_sound` — **decisions are coherent** at every step.
-/

variable {g : Gate} {m : Machine}

/-! ### Using a gate -/

/-- A step in the use of a gate: how the authenticator behaves in it, what it starts from, what it
    comes to and how it ends. -/
structure Use where
  authenticator : Authenticator
  step : Step
  before : Machine
  after : Machine
  result : Except Fault (Option Decision)

namespace Use

/-- The identity that the context holds before. -/
def found (u : Use) : Option Identity :=
  u.before.observation.identity

/-- The identity that the context holds afterwards. -/
def left (u : Use) : Option Identity :=
  u.after.observation.identity

/-- The credentials put to the authenticator. -/
def calls (u : Use) : List Credentials :=
  Trace.consultations 0 (u.after.session.trace.drop u.before.session.trace.length)

/-- The reply of the authenticator to credentials. -/
def reply (u : Use) (c : Credentials) : Except Fault (Option Identity) :=
  (u.authenticator.answer c).reply

end Use

/-- A gate that asks another authenticator. -/
def asks (g : Gate) (a : Authenticator) : Gate :=
  { g with authenticator := a }

/-- A step from a machine, with the authenticator as it behaves in that step. -/
def use (g : Gate) (a : Authenticator) (s : Step) (m : Machine) : Use where
  authenticator := a
  step := s
  before := m
  after := (((g.asks a).step s).run m).2
  result := (((g.asks a).step s).run m).1

/-- Steps from a machine, one after another. -/
def uses (g : Gate) : List (Authenticator × Step) → Machine → List Use
  | [], _ => []
  | (a, s) :: steps, m => g.use a s m :: g.uses steps (g.use a s m).after

/-- What a decision on a header value has to do with the rest of its step. -/
structure Coherent (g : Gate) (header : Option Text) (u : Use) : Prop where
  /-- The authenticator is asked once at most. -/
  once : u.calls.length ≤ 1
  /-- It is asked for the credentials in the header value, and only if the context is empty. -/
  asked : ∀ c, c ∈ u.calls ↔
    u.found = none ∧ Credentials.read g.registry g.charset header = .ok (.ok c)
  /-- No decision is about an attempt that still lasts. -/
  terminal : ∀ d, u.result = .ok (some d) → d.phase ≠ .attempting
  /-- Where it is not asked, the context stays what it is. -/
  kept : u.calls = [] → u.left = u.found
  /-- Where it is not asked, no attempt is made and the request goes on, unless the header value is
      to be read and reading it fails. -/
  unattempted : u.calls = [] →
    (∀ fault, u.found = none → Credentials.read g.registry g.charset header ≠ .error fault) →
    ∃ d, u.result = .ok (some d) ∧ d.phase = .noAttempt ∧ d.proceed = true ∧
      d.identity? = none ∧ d.failure? = none ∧ d.username? = none
  /-- That is the only fault there can be before the authenticator is asked. -/
  unreadable : ∀ fault, u.found = none →
    Credentials.read g.registry g.charset header = .error fault →
    u.calls = [] ∧ u.result = .error fault
  /-- An identity that it gives is the one that the context then holds. -/
  accepted : ∀ c ∈ u.calls, ∀ identity, u.reply c = .ok (some identity) →
    ∃ d, u.result = .ok (some d) ∧ d.phase = .authenticated ∧ d.proceed = true ∧
      d.identity? = some identity ∧ d.failure? = none ∧ d.username? = some c.username ∧
      u.left = d.identity?
  /-- A rejection leaves the context empty. -/
  rejected : ∀ c ∈ u.calls, ∀ r, u.reply c = .error (.rejected r) →
    ∃ d, u.result = .ok (some d) ∧ d.phase = .rejected ∧ d.proceed = g.ignoreFailure ∧
      d.identity? = none ∧ d.failure? = some r ∧ d.username? = some c.username ∧ u.left = none
  /-- Any other fault of its own comes out, and the context stays empty. -/
  failed : ∀ c ∈ u.calls, ∀ fault, u.reply c = .error fault → (∀ r, fault ≠ .rejected r) →
    u.result = .error fault ∧ u.left = none
  /-- To give nothing is a fault, too. -/
  mute : ∀ c ∈ u.calls, u.reply c = .ok none → u.result = .error .noIdentity ∧ u.left = none

/-- What a step has to do with what it finds and leaves in the context. -/
def Use.Sound (g : Gate) (u : Use) : Prop :=
  match u.step with
  | .evaluate header _ => Coherent g header u
  | .assign none => u.calls = [] ∧ u.result = .error .noIdentity ∧ u.left = u.found
  | .assign (some identity) => u.calls = [] ∧ u.result = .ok none ∧ u.left = some identity
  | .clear | .fresh => u.calls = [] ∧ u.result = .ok none ∧ u.left = none

/-! ### The context of a gate -/

/-- A context is open and bound. -/
def HasContext (m : Machine) : Prop :=
  ∃ id, m.session.binding.bound = some id ∧ id < m.shared.contexts.next

theorem hasContext_enter (m : Machine) : HasContext (Action.enter.apply m) :=
  ⟨m.shared.contexts.next, rfl, (Action.next_enter m).symm ▸ Nat.lt_succ_self _⟩

/-- A context that has just been opened is empty. -/
theorem identity_enter (m : Machine) : (Action.enter.apply m).observation.identity = none :=
  (Contexts.get_grow ..).trans (Contexts.get_eq_none (Nat.le_refl _))

theorem HasContext.putBound (h : HasContext m) (slot : Option Identity) :
    HasContext (m.putBound slot) := by
  obtain ⟨id, hbound, hlt⟩ := h
  exact ⟨id, by rw [Machine.putBound_session, hbound], by rwa [Machine.putBound_next]⟩

/-- What is put into the bound context is the identity that is seen. -/
theorem HasContext.identity_putBound (h : HasContext m) (slot : Option Identity) :
    (m.putBound slot).observation.identity = slot := by
  obtain ⟨id, hbound, hlt⟩ := h
  rw [Machine.observation_identity, Contexts.current, Machine.putBound_session, hbound]
  exact Machine.get_putBound_self hbound hlt slot

/-! ### What an evaluation comes to -/

/-- How an attempt ends and what the context then holds, by the reply of the authenticator. -/
def ending (g : Gate) (username : Text) (reply : Except Fault (Option Identity)) :
    Except Fault Decision × Option Identity :=
  match reply with
  | .error (.rejected r) => (.ok (.rejected g.ignoreFailure username r), none)
  | .error fault => (.error fault, none)
  | .ok none => (.error .noIdentity, none)
  | .ok (some identity) => (.ok (.authenticated username identity), some identity)

/-- What an evaluation that starts from a machine comes to: how it ends, what the bound context then
    holds, and what the authenticator was asked. -/
structure ComesTo (m : Machine) (run : Except Fault Decision × Machine)
    (result : Except Fault Decision) (identity : Option Identity) (calls : List Credentials) :
    Prop where
  result : run.1 = result
  identity : run.2.observation.identity = identity
  context : HasContext run.2
  trace : ∃ events, run.2.session.trace = m.session.trace ++ events ∧
    Trace.consultations 0 events = calls

/-- An evaluation that only tells something leaves the context alone. -/
theorem ComesTo.of_tell (h : HasContext m) (result : Except Fault Decision) (log : List LogEntry) :
    ComesTo m (result, m.tell (log.map .logged)) result m.observation.identity [] where
  result := rfl
  identity := rfl
  context := h
  trace := ⟨_, rfl, Trace.consultations_logged 0 log⟩

/-- The reply of the authenticator decides how an attempt ends. -/
theorem run_attempt_comesTo (h : HasContext m) (hempty : m.observation.identity = none) (g : Gate)
    (path : Text) (c : Credentials) :
    let ending := g.ending c.username (g.authenticator.answer c).reply
    ComesTo m ((g.attempt 0 path c).run m) ending.1 ending.2 [c] := by
  have htold : HasContext (m.tell (g.asking 0 c)) := h
  -- the context is filled or emptied, and something is written to the log
  have hput : ∀ slot entry decision,
      ComesTo m (.ok decision, ((m.tell (g.asking 0 c)).putBound slot).tell [.logged entry])
        (.ok decision) slot [c] := by
    intro slot entry decision
    refine ⟨rfl, htold.identity_putBound slot, htold.putBound slot,
      g.asking 0 c ++ [.logged entry], ?_, ?_⟩
    · simp [Machine.tell]
    · rw [Trace.consultations_append, consultations_asking]
      rfl
  have hkept : ∀ fault, ComesTo m (.error fault, m.tell (g.asking 0 c)) (.error fault) none [c] :=
    fun fault => ⟨rfl, hempty, h, _, rfl, consultations_asking ..⟩
  rw [run_attempt, run_settle]
  rcases (g.authenticator.answer c).reply with fault | _ | identity
  · cases fault with
    | rejected r => exact hput none _ _
    | _ => exact hkept _
  · exact hkept _
  · exact hput (some identity) _ _

/-- What the bound context holds and what the header value carries decide what an evaluation comes
    to. -/
theorem run_evaluate_comesTo (h : HasContext m) (g : Gate) (header : Option Text)
    (path : Text) :
    let run := (g.evaluate 0 header path).run m
    match m.observation.identity, Credentials.read g.registry g.charset header with
    | some identity, _ => ComesTo m run (.ok .noAttempt) (some identity) []
    | none, .error fault => ComesTo m run (.error fault) none []
    | none, .ok (.error _) => ComesTo m run (.ok .noAttempt) none []
    | none, .ok (.ok c) =>
      let ending := g.ending c.username (g.authenticator.answer c).reply
      ComesTo m run ending.1 ending.2 [c] := by
  cases hfound : m.observation.identity with
  | some identity =>
    have hfilled : (m.shared.contexts.current m.session.binding).isSome :=
      Option.isSome_of_mem hfound
    dsimp only
    rw [run_evaluate_of_filled hfilled, ← hfound]
    exact .of_tell h _ [skipping path]
  | none =>
    rw [run_evaluate_of_empty hfound]
    cases Credentials.read g.registry g.charset header with
    | error fault =>
      have hnothing := ComesTo.of_tell h (.error fault) []
      rwa [List.map_nil, Machine.tell_nil, hfound] at hnothing
    | ok read =>
      cases read with
      | error skip =>
        have hnoted := ComesTo.of_tell h (.ok .noAttempt) skip.note?.toList
        rwa [hfound] at hnoted
      | ok c => exact run_attempt_comesTo h hfound g path c

/-! ### One step -/

theorem run_step_evaluate (g : Gate) (header : Option Text) (path : Text) (m : Machine) :
    (g.step (.evaluate header path)).run m =
      let run := (g.evaluate 0 header path).run m
      (run.1.map some, run.2) := by
  unfold step
  rw [Flow.run_bind]
  rcases (g.evaluate 0 header path).run m with ⟨_ | _, after⟩ <;> rfl

/-- A step that evaluates a header value comes to what the evaluation comes to. -/
theorem ComesTo.use {a : Authenticator} {header : Option Text} {path : Text}
    {result : Except Fault Decision} {identity : Option Identity} {calls : List Credentials}
    (h : ComesTo m (((g.asks a).evaluate 0 header path).run m) result identity calls) :
    let u := g.use a (.evaluate header path) m
    u.result = result.map some ∧ u.left = identity ∧ u.calls = calls ∧ HasContext u.after := by
  unfold Gate.use Use.left Use.calls
  rw [run_step_evaluate]
  obtain ⟨events, htrace, hcalls⟩ := h.trace
  refine ⟨congrArg (Except.map some) h.result, h.identity, ?_, h.context⟩
  dsimp only
  rw [htrace, List.drop_left, hcalls]

/-- No step leaves a gate without a context. -/
theorem HasContext.use (h : HasContext m) (g : Gate) (a : Authenticator) (s : Step) :
    HasContext (g.use a s m).after := by
  cases s with
  | evaluate header path =>
    have hevaluate := run_evaluate_comesTo h (g.asks a) header path
    dsimp only at hevaluate
    split at hevaluate <;> exact hevaluate.use.2.2.2
  | assign identity =>
    cases identity with
    | none => exact h
    | some identity => exact h.putBound _
  | clear => exact h.putBound none
  | fresh => exact hasContext_enter _

section

variable {u : Use} {header : Option Text}

/-- A step in which the authenticator is not asked is coherent if the context is left alone and no
    attempt is made, or none could be made because the header value cannot be read. -/
theorem coherent_of_unasked (hcalls : u.calls = []) (hleft : u.left = u.found)
    (hskipped : ∀ c, u.found = none → Credentials.read g.registry g.charset header ≠ .ok (.ok c))
    (hstopped : ∀ fault, u.found = none →
      Credentials.read g.registry g.charset header = .error fault → u.result = .error fault)
    (hgoes :
      (∀ fault, u.found = none → Credentials.read g.registry g.charset header ≠ .error fault) →
      u.result = .ok (some .noAttempt)) : Coherent g header u := by
  have hunasked : ∀ c, c ∉ u.calls := fun c hc => absurd (hcalls ▸ hc) List.not_mem_nil
  exact {
    once := by
      rw [hcalls]
      exact Nat.zero_le 1
    asked := fun c => ⟨fun hc => absurd hc (hunasked c), fun h => absurd h.2 (hskipped c h.1)⟩
    terminal := fun d _ => d.phase_ne_attempting
    kept := fun _ => hleft
    unattempted := fun _ hread => ⟨.noAttempt, hgoes hread, rfl, rfl, rfl, rfl, rfl⟩
    unreadable := fun e hfound hread => ⟨hcalls, hstopped e hfound hread⟩
    accepted := fun c hc => absurd hc (hunasked c)
    rejected := fun c hc => absurd hc (hunasked c)
    failed := fun c hc => absurd hc (hunasked c)
    mute := fun c hc => absurd hc (hunasked c) }

/-- A step in which the authenticator is asked is coherent if its reply decides how it ends. -/
theorem coherent_of_asked {c : Credentials} (hcalls : u.calls = [c]) (hfound : u.found = none)
    (hread : Credentials.read g.registry g.charset header = .ok (.ok c))
    (hresult : u.result = (g.ending c.username (u.reply c)).1.map some)
    (hleft : u.left = (g.ending c.username (u.reply c)).2) : Coherent g header u := by
  have hasked : ∀ other, other ∈ u.calls → other = c :=
    fun other h => List.mem_singleton.1 (hcalls ▸ h)
  have hsomeone : u.calls ≠ [] := hcalls ▸ List.cons_ne_nil _ _
  exact {
    once := by
      rw [hcalls]
      exact Nat.le_refl 1
    asked := by
      intro other
      rw [hcalls, List.mem_singleton, hread]
      constructor
      · rintro rfl
        exact ⟨hfound, rfl⟩
      · rintro ⟨-, h⟩
        cases h
        rfl
    terminal := fun d _ => d.phase_ne_attempting
    kept := fun h => absurd h hsomeone
    unattempted := fun h => absurd h hsomeone
    unreadable := fun e _ h => nomatch hread.symm.trans h
    accepted := by
      intro other hother identity hreply
      rw [hasked other hother] at hreply ⊢
      rw [hreply] at hresult hleft
      exact ⟨.authenticated c.username identity, hresult, rfl, rfl, rfl, rfl, rfl, hleft⟩
    rejected := by
      intro other hother r hreply
      rw [hasked other hother] at hreply ⊢
      rw [hreply] at hresult hleft
      exact ⟨.rejected g.ignoreFailure c.username r, hresult, rfl, rfl, rfl, rfl, rfl, hleft⟩
    failed := by
      intro other hother fault hreply hfault
      rw [hasked other hother] at hreply
      rw [hreply] at hresult hleft
      cases fault with
      | rejected r => exact absurd rfl (hfault r)
      | _ => exact ⟨hresult, hleft⟩
    mute := by
      intro other hother hreply
      rw [hasked other hother] at hreply
      rw [hreply] at hresult hleft
      exact ⟨hresult, hleft⟩ }

end

/-- An evaluation in a context is coherent. -/
theorem coherent_use (h : HasContext m) (g : Gate) (a : Authenticator) (header : Option Text)
    (path : Text) : Coherent g header (g.use a (.evaluate header path) m) := by
  have hevaluate := run_evaluate_comesTo h (g.asks a) header path
  dsimp only at hevaluate
  split at hevaluate
  -- the context is filled
  case h_1 identity hfound =>
    obtain ⟨hresult, hleft, hcalls, -⟩ := hevaluate.use
    have hnone : (g.use a (.evaluate header path) m).found ≠ none := by
      show m.observation.identity ≠ none
      rw [hfound]
      exact Option.some_ne_none identity
    exact coherent_of_unasked hcalls (hleft.trans hfound.symm) (fun _ h => absurd h hnone)
      (fun _ h => absurd h hnone) fun _ => hresult
  -- the header value can not be read
  case h_2 fault hfound hread =>
    obtain ⟨hresult, hleft, hcalls, -⟩ := hevaluate.use
    refine coherent_of_unasked hcalls (hleft.trans hfound.symm)
      (fun c _ h => nomatch hread.symm.trans h) (fun other _ h => ?_)
      (fun h => absurd hread (h fault hfound))
    cases hread.symm.trans h
    exact hresult
  -- the header value carries no credentials
  case h_3 skip hfound hread =>
    obtain ⟨hresult, hleft, hcalls, -⟩ := hevaluate.use
    exact coherent_of_unasked hcalls (hleft.trans hfound.symm)
      (fun c _ h => nomatch hread.symm.trans h) (fun e _ h => nomatch hread.symm.trans h)
      (fun _ => hresult)
  -- the authenticator is asked
  case h_4 c hfound hread =>
    obtain ⟨hresult, hleft, hcalls, -⟩ := hevaluate.use
    exact coherent_of_asked hcalls hfound hread hresult hleft

/-- A step that leaves the trace alone asks nobody. -/
theorem Use.calls_eq_nil {u : Use} (h : u.after.session.trace = u.before.session.trace) :
    u.calls = [] := by
  unfold Use.calls
  rw [h, List.drop_length]
  rfl

/-- A step in a context is sound. -/
theorem sound_use (h : HasContext m) (g : Gate) (a : Authenticator) (s : Step) :
    (g.use a s m).Sound g := by
  cases s with
  | evaluate header path => exact coherent_use h g a header path
  | assign identity =>
    cases identity with
    | none => exact ⟨Use.calls_eq_nil rfl, rfl, rfl⟩
    | some identity =>
      exact ⟨Use.calls_eq_nil (congrArg Session.trace (m.putBound_session _)), rfl,
        h.identity_putBound _⟩
  | clear =>
    exact ⟨Use.calls_eq_nil (congrArg Session.trace (m.putBound_session _)), rfl,
      h.identity_putBound none⟩
  | fresh => exact ⟨Use.calls_eq_nil rfl, rfl, identity_enter _⟩

/-! ### Step after step -/

/-- The steps are those given, in their order. -/
theorem map_uses (g : Gate) (steps : List (Authenticator × Step)) (m : Machine) :
    (g.uses steps m).map (fun u => (u.authenticator, u.step)) = steps := by
  induction steps generalizing m with
  | nil => rfl
  | cons s steps ih => exact congrArg (s :: ·) (ih _)

/-- The first step starts from the machine that is given. -/
theorem before_of_head?_uses {steps : List (Authenticator × Step)} {u : Use}
    (hu : u ∈ (g.uses steps m).head?) : u.before = m := by
  cases steps with
  | nil => cases hu
  | cons s steps =>
    cases hu
    rfl

/-- Each step finds what the one before it has left. -/
theorem isChain_uses (g : Gate) (steps : List (Authenticator × Step)) (m : Machine) :
    (g.uses steps m).IsChain fun u v => v.found = u.left := by
  induction steps generalizing m with
  | nil => exact .nil
  | cons s steps ih =>
    refine List.isChain_cons.2 ⟨fun v hv => ?_, ih _⟩
    unfold Use.found
    rw [before_of_head?_uses hv]
    rfl

/-- Every step from a machine with a context is sound. -/
theorem sound_of_mem_uses (h : HasContext m) {steps : List (Authenticator × Step)} {u : Use}
    (hu : u ∈ g.uses steps m) : u.Sound g := by
  induction steps generalizing m with
  | nil => cases hu
  | cons s steps ih =>
    rcases List.mem_cons.1 hu with rfl | hu
    · exact sound_use h g s.1 s.2
    · exact ih (h.use g s.1 s.2) hu

/-- **Decisions are coherent.**  A gate is used step after step with a context that is fresh at
    first, and its authenticator behaves in each step as it likes.  Every step is sound, it finds in
    the context what the one before it has left there, and the first one finds nothing. -/
theorem uses_sound (g : Gate) (steps : List (Authenticator × Step)) (m : Machine) :
    let uses := g.uses steps (Action.enter.apply m)
    uses.map (fun u => (u.authenticator, u.step)) = steps ∧ (∀ u ∈ uses, u.Sound g) ∧
      (uses.IsChain fun u v => v.found = u.left) ∧ ∀ u ∈ uses.head?, u.found = none := by
  refine ⟨g.map_uses steps _, fun u hu => sound_of_mem_uses (hasContext_enter m) hu,
    g.isChain_uses steps _, fun u hu => ?_⟩
  unfold Use.found
  rw [before_of_head?_uses hu]
  exact identity_enter m

/-- An authenticator accepts credentials at first and rejects them later, and nothing is attempted
    while the context is filled. -/
theorem uses_sound_of_four :
    let rod : Identity := { id := "rod" }
    let accepting : Authenticator := ⟨false, fun _ => ⟨[], .ok (some rod)⟩⟩
    let rejecting : Authenticator := ⟨true, fun c =>
      ⟨[], .error (.rejected ⟨.disabled, "User is disabled", some c.username⟩)⟩⟩
    let again : Step := .evaluate (some "Basic cm9kOmtvYWxh") "/p"
    let g : Gate := ⟨accepting, ⟨fun _ _ => {}⟩, true, "utf-8", .usual⟩
    let uses := g.uses
      [(accepting, again), (rejecting, again), (rejecting, .clear), (rejecting, again)]
      (Action.enter.apply (.start ⟨{ type := none }, none⟩))
    (∀ u ∈ uses, u.Sound g) ∧
      uses.map Use.calls = [[⟨"rod", "koala"⟩], [], [], [⟨"rod", "koala"⟩]] ∧
      uses.map Use.left = [some rod, some rod, none, none] :=
  ⟨(uses_sound _ _ _).2.1, rfl, rfl⟩

end Turnstile.Gate
